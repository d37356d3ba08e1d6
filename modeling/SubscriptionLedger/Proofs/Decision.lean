import SubscriptionLedger.Proofs.Running

namespace SubscriptionLedger

-- What comes after the write: the kind of event to tell, where the user goes, and how a fault on the way
-- is told.
structure Sequel where
  kind : EventKind
  target : Option String
  blame : Billing → Fault → Fault := fun _ f => f

inductive Decision where
  | rest (outcome : Except Fault Reconciliation)
  | amend (b : Billing) (u : BillingUpdate) (sequel : Sequel)
  | create (new : NewBilling) (sequel : Sequel)

def Sequel.follow (t : Sequel) (b : Billing) : Program Reconciliation :=
  match t.target with
  | none => .done (Reconcile.applied t.kind b)
  | some productId => .ask (.assignProduct b.userId productId) fun
    | .ok _ => .done (Reconcile.applied t.kind b)
    | .error f => .fail (t.blame b f)

def Query.Own (userId : String) : Query → Prop
  | .productByPrice _ => True
  | .defaultProduct => True
  | .userById id => id = .text userId
  | .billingByUser id => id = .text userId
  | _ => False

theorem Query.Own.reads (own : Query.Own userId q) : q.Reads := by
  cases q with
  | assignProduct | createBilling | updateBilling => exact own
  | _ => trivial

namespace Ledger

def look (L : Ledger) (q : Query) : Except Fault q.Reply := (L.ask ⟨0, none⟩ q).1

theorem ask_of_reads (L : Ledger) (now : Moment) (reads : q.Reads) : L.ask now q = (L.look q, L) := by
  cases q <;> first | rfl | exact reads.elim

def amendClashes (L : Ledger) (b : Billing) (u : BillingUpdate) : Bool :=
  L.billings.any fun other => Document.text other.id ≠ .text b.id && (b.apply u).shares other

def createClashes (L : Ledger) (now : Moment) (new : NewBilling) : Bool := L.billings.any (L.opened now new).shares

theorem ask_assign (L : Ledger) (now : Moment) (userId productId : String) :
    L.ask now (.assignProduct userId productId) = match L.account? (.text userId) with
      | none => (.error (.userNotFound (.text userId)), L)
      | some a => (.ok (a.user.moved productId), L.move (.text userId) productId) := rfl

theorem ask_update {L : Ledger} {b : Billing} (known : L.billing? (.text b.id) = some b) (now : Moment) (u : BillingUpdate) :
    L.ask now (.updateBilling b.id u) =
      if L.amendClashes b u then (.error Store.violation, L) else (.ok (b.apply u), L.amend (.text b.id) u) := by
  unfold ask
  dsimp only
  rw [known]
  rfl

theorem ask_create (L : Ledger) (now : Moment) (new : NewBilling) :
    L.ask now (.createBilling new) =
      if L.createClashes now new then (.error (.duplicateBilling new.userId), L)
      else (.ok (L.opened now new), L.add (L.opened now new)) := rfl

def finish (L : Ledger) (b : Billing) (t : Sequel) : Except Fault Reconciliation × Ledger :=
  match t.target with
  | none => (.ok (Reconcile.applied t.kind b), L)
  | some productId =>
    match L.account? (.text b.userId) with
    | none => (.error (t.blame b (.userNotFound (.text b.userId))), L)
    | some _ => (.ok (Reconcile.applied t.kind b), L.move (.text b.userId) productId)

def enact (now : Moment) (L : Ledger) : Decision → Except Fault Reconciliation × Ledger
  | .rest outcome => (outcome, L)
  | .amend b u t => if L.amendClashes b u then (.error Store.violation, L) else (L.amend (.text b.id) u).finish (b.apply u) t
  | .create new t =>
    if L.createClashes now new then (.error (.duplicateBilling new.userId), L)
    else (L.add (L.opened now new)).finish (L.opened now new) t

-- Makes the write of a decision, and does not go on.
def written (now : Moment) (L : Ledger) : Decision → Ledger
  | .rest _ => L
  | .amend b u _ => if L.amendClashes b u then L else L.amend (.text b.id) u
  | .create new _ => if L.createClashes now new then L else L.add (L.opened now new)

inductive Settles (L : Ledger) (userId : String) : Program Reconciliation → Decision → Prop where
  | done : Settles L userId (.done r) (.rest (.ok r))
  | fail : Settles L userId (.fail f) (.rest (.error f))
  | read {next : Except Fault q.Reply → Program Reconciliation} (own : q.Own userId)
      (stops : ∀ f, next (.error f) = .fail f) (goesOn : Settles L userId (next (L.look q)) d) : Settles L userId (.ask q next) d
  | amend {b : Billing} {u : BillingUpdate} {t : Sequel}
      {next : Except Fault (Query.updateBilling b.id u).Reply → Program Reconciliation}
      (found : L.billingOf? (.text userId) = some b)
      (follows : ∀ new : Billing, new.userId = userId → next (.ok new) = t.follow new)
      (stops : ∀ f, next (.error f) = .fail f) :
      Settles L userId (.ask (.updateBilling b.id u) next) (.amend b u t)
  | create {new : NewBilling} {t : Sequel}
      {next : Except Fault (Query.createBilling new).Reply → Program Reconciliation}
      (absent : L.billingOf? (.text userId) = none)
      (owner : new.userId = userId) (follows : ∀ b : Billing, b.userId = userId → next (.ok b) = t.follow b)
      (stops : ∀ f, Settles L userId (next (.error f)) (.rest (.error f))) :
      Settles L userId (.ask (.createBilling new) next) (.create new t)

inductive Opens (L : Ledger) : Program Reconciliation → Decision → Prop where
  | done : Opens L (.done r) (.rest (.ok r))
  | fail : Opens L (.fail f) (.rest (.error f))
  | read {next : Except Fault q.Reply → Program Reconciliation} (reads : q.Reads)
      (stops : ∀ f, next (.error f) = .fail f) (goesOn : Opens L (next (L.look q)) d) : Opens L (.ask q next) d
  | enter (work : Settles L userId p d) : Opens L (.holding userId p) d

def onCarrier (L : Ledger) (kind : EventKind) (subscriptionId : String) (work : Billing → Decision) : Decision :=
  match L.carrier? (.text subscriptionId) with
  | none => .rest (.ok (Reconcile.unknownSubscription kind))
  | some b => work b

def movedTo (L : Ledger) (b : Billing) : Option String → Except Fault (Option String)
  | none | some "" => .ok none
  | some priceId =>
    match L.productOf priceId with
    | .error f => .error f
    | .ok none => .ok none
    | .ok (some product) => .ok (if product.id ≠ b.productId then some product.id else none)

def destination (L : Ledger) (e : SubscriptionUpdated) (moved : Option String) : Except Fault (Option String) :=
  if Reconcile.takesAway e then L.defaultProduct.map fun product => some product.id else .ok moved

def paidSequel (user : User) (product : Product) : Sequel where
  kind := .invoicePaid
  target := if user.currentProductId = some product.id then none else some product.id

def decideSettle (L : Ledger) (user : User) (product : Product) (e : InvoicePaid) : Decision :=
  match L.billingOf? (.text user.id) with
  | some b => .amend b (Reconcile.renewal b product e) (paidSequel user product)
  | none => .create (Reconcile.opening user product e) (paidSequel user product)

def decidePaid (L : Ledger) (e : InvoicePaid) : Decision :=
  match L.productOf e.priceId with
  | .error f => .rest (.error f)
  | .ok none => .rest (.ok (Reconcile.noop .invoicePaid "unknown price id"))
  | .ok (some product) =>
    match L.accountAt? (Query.keptEmail e.customerEmail) with
    | none => .rest (.error (.payerUnknown e.customerEmail e.subscriptionId))
    | some a => L.decideSettle a.user product e

def decideFailed (L : Ledger) (e : InvoicePaymentFailed) : Decision :=
  L.onCarrier .invoicePaymentFailed e.subscriptionId fun b =>
    .amend b { status := some .pastDue } { kind := .invoicePaymentFailed, target := none }

def changes (e : SubscriptionUpdated) (moved : Option String) : BillingUpdate where
  productId := moved
  status := e.status
  expiresAt := some e.effectiveExpiry

def updateOn (L : Ledger) (e : SubscriptionUpdated) (b : Billing) : Decision :=
  match L.movedTo b e.priceId with
  | .error f => .rest (.error f)
  | .ok moved =>
    match L.destination e moved with
    | .error f => .rest (.error f)
    | .ok target => .amend b (changes e moved) { kind := .subscriptionUpdated, target }

def decideUpdated (L : Ledger) (e : SubscriptionUpdated) : Decision :=
  L.onCarrier .subscriptionUpdated e.subscriptionId (L.updateOn e)

def cancelOn (now : Moment) (L : Ledger) (e : SubscriptionDeleted) (b : Billing) : Decision :=
  match L.defaultProduct with
  | .error f => .rest (.error f)
  | .ok product =>
    .amend b { status := some .canceled, expiresAt := some now }
      { kind := .subscriptionDeleted, target := some product.id, blame := cutShort e.subscriptionId }

def decideDeleted (now : Moment) (L : Ledger) (e : SubscriptionDeleted) : Decision :=
  L.onCarrier .subscriptionDeleted e.subscriptionId (L.cancelOn now e)

def decision (now : Moment) (L : Ledger) : Event → Decision
  | .paid e => L.decidePaid e
  | .paymentFailed e => L.decideFailed e
  | .updated e => L.decideUpdated e
  | .deleted e => L.decideDeleted now e
  | .ignored e => .rest (.ok { kind := .ignored, outcome := .ignored, detail := some e.reason })

section Handlers

open Program Reconcile

variable {L : Ledger}

theorem settles_query {f : q.Reply → Program Reconciliation} (own : q.Own userId) (replies : L.look q = .ok a)
    (goesOn : Settles L userId (f a) d) : Settles L userId (query q >>= f) d := by
  refine .read own (fun _ => rfl) ?_
  rw [replies]
  exact goesOn

theorem settles_query_fail {f : q.Reply → Program Reconciliation} (own : q.Own userId)
    (replies : L.look q = .error fault) : Settles L userId (query q >>= f) (.rest (.error fault)) := by
  refine .read own (fun _ => rfl) ?_
  rw [replies]
  exact .fail

theorem opens_query {f : q.Reply → Program Reconciliation} (reads : q.Reads) (replies : L.look q = .ok a)
    (goesOn : Opens L (f a) d) : Opens L (query q >>= f) d := by
  refine .read reads (fun _ => rfl) ?_
  rw [replies]
  exact goesOn

theorem opens_query_fail {f : q.Reply → Program Reconciliation} (reads : q.Reads)
    (replies : L.look q = .error fault) : Opens L (query q >>= f) (.rest (.error fault)) := by
  refine .read reads (fun _ => rfl) ?_
  rw [replies]
  exact .fail

theorem settles_update {f : Billing → Program Reconciliation} (found : L.billingOf? (.text userId) = some b)
    (follows : ∀ new, new.userId = userId → f new = t.follow new) :
    Settles L userId (query (.updateBilling b.id u) >>= f) (.amend b u t) :=
  .amend found follows fun _ => rfl

theorem settles_underRecordKey (found : L.billingOf? (.text userId) = some b)
    (carries : b.subscriptionId = some subscriptionId) (works : Settles L userId (work b) d) :
    Settles L userId (underRecordKey kind subscriptionId userId work) d := by
  refine settles_query (q := .billingByUser userId) rfl (congrArg Except.ok found) ?_
  dsimp only
  rw [if_pos carries]
  exact works

theorem opens_withRecord (sound : L.Sound) {work : Billing → Program Reconciliation} {works : Billing → Decision}
    (settles : ∀ b, L.billingOf? (.text b.userId) = some b → Settles L b.userId (work b) (works b)) :
    Opens L (withRecord kind subscriptionId work) (L.onCarrier kind subscriptionId works) := by
  rw [withRecord_eq]
  unfold onCarrier
  cases known : L.carrier? (.text subscriptionId) with
  | none => exact opens_query (q := .billingBySubscription subscriptionId) trivial (congrArg Except.ok known) .done
  | some b =>
    obtain ⟨member, carries⟩ := sound.carrier?_eq_some.1 known
    have found : L.billingOf? (.text b.userId) = some b := sound.billingOf?_eq_some.2 ⟨member, rfl⟩
    refine opens_query (q := .billingBySubscription subscriptionId) trivial (congrArg Except.ok known) (.enter ?_)
    exact settles_underRecordKey found carries (settles b found)

theorem follow_assign (user : User) (product : Product) (b : Billing) (owner : b.userId = user.id) :
    (assign user product.id >>= fun _ => Program.done (applied .invoicePaid b)) = (paidSequel user product).follow b := by
  unfold assign Sequel.follow paidSequel
  dsimp only
  split
  · rfl
  · rw [← owner]
    refine congrArg (Program.ask (.assignProduct b.userId product.id)) (funext fun reply => ?_)
    cases reply <;> rfl

theorem settles_settle (found : L.billingOf? (.text user.id) = known) :
    Settles L user.id (settle user product e >>= fun b => assign user product.id >>= fun _ =>
      Program.done (applied .invoicePaid b)) (L.decideSettle user product e) := by
  have ends := follow_assign user product
  unfold settle decideSettle
  rw [LawfulMonad.bind_assoc]
  refine settles_query (q := .billingByUser user.id) rfl (congrArg Except.ok found) ?_
  rw [found]
  cases known with
  | some b => exact settles_update found ends
  | none =>
    refine .create found rfl ends fun f => ?_
    cases f with
    | duplicateBilling owner =>
      change Settles L user.id ((query (.billingByUser user.id) >>= _) >>= _) _
      rw [LawfulMonad.bind_assoc]
      exact settles_query (q := .billingByUser user.id) rfl (congrArg Except.ok found) .fail
    | _ => exact .fail

theorem settles_paidUnderKey (sound : L.Sound) (member : a ∈ L.accounts) (same : a.user.id = found.id) :
    Settles L found.id (paidUnderKey found product e) (L.decideSettle a.user product e) := by
  have known : L.account? (.text found.id) = some a := sound.account?_eq_some.2 ⟨member, same⟩
  refine settles_query (q := .userById found.id) rfl (a := some a.user) (by rw [look, ask, known]; rfl) ?_
  rw [← same]
  exact settles_settle rfl

theorem opens_paid (sound : L.Sound) (e : InvoicePaid) : Opens L (paid e) (L.decidePaid e) := by
  unfold decidePaid
  cases price : L.productOf e.priceId with
  | error f => exact opens_query_fail trivial price
  | ok found =>
    cases found with
    | none => exact opens_query trivial price .done
    | some product =>
      refine opens_query trivial price ?_
      cases account : L.accountAt? (Query.keptEmail e.customerEmail) with
      | none => exact opens_query (q := .userByEmail e.customerEmail) (a := none) trivial (by rw [look, ask, account]; rfl) .fail
      | some a =>
        refine opens_query (q := .userByEmail e.customerEmail) (a := some a.user) trivial
          (by rw [look, ask, account]; rfl) (.enter ?_)
        exact settles_paidUnderKey sound (List.mem_of_find?_eq_some account) rfl

theorem opens_paymentFailed (sound : L.Sound) (e : InvoicePaymentFailed) :
    Opens L (paymentFailed e) (L.decideFailed e) :=
  opens_withRecord sound fun _ found => settles_update found fun _ _ => rfl

theorem follow_moveUser (kind : EventKind) (target : Option String) (b : Billing) :
    (moveUser b.userId target >>= fun _ => Program.done (applied kind b)) = Sequel.follow { kind, target } b := by
  cases target with
  | none => rfl
  | some productId =>
    refine congrArg (Program.ask (.assignProduct b.userId productId)) (funext fun reply => ?_)
    cases reply <;> rfl

theorem movedTo_priced (L : Ledger) (b : Billing) (priced : price ≠ "") :
    L.movedTo b (some price) = match L.productOf price with
      | .error f => .error f
      | .ok none => .ok none
      | .ok (some product) => .ok (if product.id ≠ b.productId then some product.id else none) := by
  unfold movedTo
  split
  · contradiction
  · rename_i empty
    exact absurd (Option.some.inj empty) priced
  · rename_i same
    cases same
    rfl

theorem movedTo_priced_program (b : Billing) (priced : price ≠ "") :
    Reconcile.movedTo b (some price) = query (.productByPrice price) >>= fun
      | none => return none
      | some product => return if product.id ≠ b.productId then some product.id else none := by
  unfold Reconcile.movedTo
  split
  · contradiction
  · rename_i empty
    exact absurd (Option.some.inj empty) priced
  · rename_i same
    cases same
    refine query_congr fun found => ?_
    cases found <;> rfl

theorem settles_movedTo {f : Option String → Program Reconciliation} {d : Option String → Decision}
    (goesOn : ∀ moved, Settles L userId (f moved) (d moved)) :
    Settles L userId (Reconcile.movedTo b priceId >>= f)
      (match L.movedTo b priceId with | .error f => .rest (.error f) | .ok moved => d moved) := by
  cases priceId with
  | none => exact goesOn none
  | some price =>
    by_cases priced : price = ""
    · subst priced
      exact goesOn none
    · rw [movedTo_priced L b priced, movedTo_priced_program b priced, LawfulMonad.bind_assoc]
      cases offer : L.productOf price with
      | error f => exact settles_query_fail (q := .productByPrice price) trivial offer
      | ok found =>
        refine settles_query (q := .productByPrice price) trivial offer ?_
        cases found with
        | none => exact goesOn none
        | some product => exact goesOn _

theorem settles_destination {f : Option String → Program Reconciliation} {d : Option String → Decision}
    (goesOn : ∀ target, Settles L userId (f target) (d target)) :
    Settles L userId (Reconcile.destination e moved >>= f)
      (match L.destination e moved with | .error f => .rest (.error f) | .ok target => d target) := by
  unfold Reconcile.destination destination
  split
  · rw [LawfulMonad.bind_assoc]
    cases standard : L.defaultProduct with
    | error f => exact settles_query_fail (q := .defaultProduct) trivial standard
    | ok product => exact settles_query (q := .defaultProduct) trivial standard (goesOn _)
  · exact goesOn moved

theorem settles_updated (found : L.billingOf? (.text b.userId) = some b) (e : SubscriptionUpdated) :
    Settles L b.userId (Reconcile.movedTo b e.priceId >>= fun moved => Reconcile.destination e moved >>= fun target =>
      query (.updateBilling b.id (changes e moved)) >>= fun new => moveUser new.userId target >>= fun _ =>
        Program.done (applied .subscriptionUpdated new)) (L.updateOn e b) := by
  refine settles_movedTo fun moved => settles_destination fun target => ?_
  exact settles_update found fun new _ => follow_moveUser _ target new

theorem opens_updated (sound : L.Sound) (e : SubscriptionUpdated) : Opens L (updated e) (L.decideUpdated e) :=
  opens_withRecord sound fun _ found => settles_updated found e

theorem settles_deleted (found : L.billingOf? (.text b.userId) = some b) (now : Moment) (e : SubscriptionDeleted) :
    Settles L b.userId (query .defaultProduct >>= fun product =>
      query (.updateBilling b.id { status := some .canceled, expiresAt := some now }) >>= fun new =>
        downgrade new product e.subscriptionId >>= fun _ => Program.done (applied .subscriptionDeleted new))
      (L.cancelOn now e b) := by
  unfold cancelOn
  cases standard : L.defaultProduct with
  | error f => exact settles_query_fail (q := .defaultProduct) trivial standard
  | ok product =>
    refine settles_query (q := .defaultProduct) trivial standard (settles_update found fun new _ => ?_)
    refine congrArg (Program.ask (.assignProduct new.userId product.id)) (funext fun reply => ?_)
    cases reply with
    | ok => rfl
    | error f => cases f <;> rfl

theorem opens_deleted (sound : L.Sound) (now : Moment) (e : SubscriptionDeleted) :
    Opens L (deleted now e) (L.decideDeleted now e) :=
  opens_withRecord sound fun _ found => settles_deleted found now e

theorem opens_reconcile (sound : L.Sound) (now : Moment) (e : Event) : Opens L (reconcile now e) (L.decision now e) := by
  cases e with
  | paid e => exact opens_paid sound e
  | paymentFailed e => exact opens_paymentFailed sound e
  | updated e => exact opens_updated sound e
  | deleted e => exact opens_deleted sound now e
  | ignored e => exact .done

end Handlers

section Runs

variable {L : Ledger} {now : Moment} {faults : Nat → Option Fault} {made : Nat}

theorem run_thenRelease (p : Program α) : L.run now faults made (p.thenRelease key) = L.run now faults made p := by
  induction p generalizing made L with
  | done | fail => rfl
  | ask q next ih =>
    unfold Program.thenRelease run
    cases faults (made + 1) with
    | some f => exact ih _
    | none => exact ih _
  | pay _ next ih => exact ih _
  | acquire _ next ih => exact ih _
  | release _ next ih => exact ih

-- A run either carries the decision out, or is cut short by a fault, before the write or after it.
def Comes (L : Ledger) (now : Moment) (faults : Nat → Option Fault) (d : Decision)
    (run : Except Fault Reconciliation × Ledger) : Prop :=
  run = L.enact now d ∨ (∃ n f, faults n = some f) ∧ ∃ f, run = (.error f, L) ∨ run = (.error f, L.written now d)

theorem run_query {f : q.Reply → Program α} (calm : faults (made + 1) = none) (reads : q.Reads)
    (replies : L.look q = .ok a) :
    L.run now faults made (Program.query q >>= f) = L.run now faults (made + 1) (f a) := by
  change L.run now faults made (.ask q _) = _
  rw [run, calm]
  dsimp only
  rw [L.ask_of_reads now reads, replies]
  rfl

theorem run_follow (t : Sequel) (b : Billing) :
    L.run now faults made (t.follow b) = L.finish b t ∨
      (∃ n f, faults n = some f) ∧ ∃ f, L.run now faults made (t.follow b) = (.error f, L) := by
  unfold Sequel.follow finish
  cases t.target with
  | none => exact .inl rfl
  | some productId =>
    dsimp only
    unfold run
    cases cut : faults (made + 1) with
    | some f => exact .inr ⟨⟨_, f, cut⟩, _, rfl⟩
    | none =>
      left
      dsimp only
      rw [ask_assign]
      cases L.account? (.text b.userId) with
      | none => rfl
      | some a => rfl

theorem run_settles (sound : L.Sound) (settles : Settles L userId p d) :
    L.Comes now faults d (L.run now faults made p) := by
  induction settles generalizing made with
  | done | fail => exact .inl rfl
  | @read q d next own stops goesOn ih =>
    unfold run
    cases cut : faults (made + 1) with
    | some f =>
      dsimp only [Query.answer]
      rw [stops]
      exact .inr ⟨⟨_, f, cut⟩, _, .inl rfl⟩
    | none =>
      dsimp only
      rw [L.ask_of_reads now own.reads]
      exact ih
  | @amend b u t next found follows stops =>
    obtain ⟨member, owner⟩ := sound.billingOf?_eq_some.1 found
    have known : L.billing? (.text b.id) = some b := sound.billing?_eq_some.2 ⟨member, rfl⟩
    unfold run
    cases cut : faults (made + 1) with
    | some f =>
      dsimp only [Query.answer]
      rw [stops]
      exact .inr ⟨⟨_, f, cut⟩, _, .inl rfl⟩
    | none =>
      dsimp only
      rw [ask_update known]
      dsimp only [Comes, enact, written]
      by_cases clash : L.amendClashes b u
      · rw [if_pos clash, if_pos clash, stops]
        exact .inl rfl
      · rw [if_neg clash, if_neg clash, if_neg clash]
        dsimp only
        rw [show next (.ok (b.apply u)) = _ from follows _ owner]
        rcases run_follow t (b.apply u) with calm | ⟨some, f, short⟩
        · exact .inl calm
        · exact .inr ⟨some, f, .inr short⟩
  | @create new t next absent owner follows stops ih =>
    unfold run
    cases cut : faults (made + 1) with
    | some f =>
      refine .inr ⟨⟨_, f, cut⟩, ?_⟩
      rcases @ih ((Query.createBilling new).explain f) (made + 1) with calm | ⟨-, f', short | short⟩
      · exact ⟨_, .inl calm⟩
      · exact ⟨f', .inl short⟩
      · exact ⟨f', .inl short⟩
    | none =>
      dsimp only
      rw [ask_create]
      dsimp only [Comes, enact, written]
      by_cases clash : L.createClashes now new
      · rw [if_pos clash, if_pos clash]
        rcases @ih (.duplicateBilling new.userId) (made + 1) with calm | ⟨some, f', short | short⟩
        · exact .inl calm
        · exact .inr ⟨some, f', .inl short⟩
        · exact .inr ⟨some, f', .inl short⟩
      · rw [if_neg clash, if_neg clash, if_neg clash]
        dsimp only
        rw [show next (.ok (L.opened now new)) = _ from follows _ owner]
        rcases run_follow t (L.opened now new) with calm | ⟨some, f, short⟩
        · exact .inl calm
        · exact .inr ⟨some, f, .inr short⟩

theorem run_opens (sound : L.Sound) (opens : Opens L p d) : L.Comes now faults d (L.run now faults made p) := by
  induction opens generalizing made with
  | done | fail => exact .inl rfl
  | @read q d next reads stops goesOn ih =>
    unfold run
    cases cut : faults (made + 1) with
    | some f =>
      dsimp only [Query.answer]
      rw [stops]
      exact .inr ⟨⟨_, f, cut⟩, _, .inl rfl⟩
    | none =>
      dsimp only
      rw [L.ask_of_reads now reads]
      exact ih
  | @enter userId work d settles =>
    change L.Comes now faults d (L.run now faults made (work.thenRelease userId))
    rw [run_thenRelease]
    exact run_settles sound settles

theorem run_reconcile (sound : L.Sound) (now reading : Moment) (made : Nat) (e : Event) :
    L.run now (fun _ => none) made (reconcile reading e) = L.enact now (L.decision reading e) := by
  rcases run_opens sound (opens_reconcile sound reading e) with calm | ⟨⟨n, f, none⟩, -⟩
  · exact calm
  · cases none

theorem Comes.enacted {d : Decision} {result : Except Fault Reconciliation × Ledger} (comes : L.Comes now faults d result)
    (succeeds : result.1.isOk) : result = L.enact now d := by
  rcases comes with calm | ⟨-, f, none | half⟩
  · exact calm
  · rw [none] at succeeds
    cases succeeds
  · rw [half] at succeeds
    cases succeeds

end Runs
end Ledger
end SubscriptionLedger
