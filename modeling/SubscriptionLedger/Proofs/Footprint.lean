import SubscriptionLedger.Proofs.Access
import SubscriptionLedger.Proofs.Enacting
import SubscriptionLedger.Proofs.Failing

namespace SubscriptionLedger

-- What an event does when it is applied: to the record that was there, if there was one, with the columns that
-- it may write, and the product that the user of the record ends on, if it places the user.
structure Effect where
  old : Option Billing
  new : Billing
  columns : List String
  plan : Option String

def SubscriptionUpdated.columns (e : SubscriptionUpdated) (moved : Option String) : List String :=
  "expires_at" :: (e.status.map fun _ => "status").toList ++ (moved.map fun _ => "product_id").toList

namespace Ledger

def Misses (L : Ledger) : Event → Prop
  | .paid e => ∀ row ∈ L.catalog, ¬ row.matches [("external_price_id", .text e.priceId)]
  | .paymentFailed e => ∀ b ∈ L.billings, b.subscriptionId ≠ some e.subscriptionId
  | .updated e => ∀ b ∈ L.billings, b.subscriptionId ≠ some e.subscriptionId
  | .deleted e => ∀ b ∈ L.billings, b.subscriptionId ≠ some e.subscriptionId
  | .ignored _ => False

inductive Applies (now : Moment) (L : Ledger) : Event → Effect → Prop where
  | opens {e : InvoicePaid} (offer : L.productOf e.priceId = .ok (some product))
      (payer : L.accountAt? (Query.keptEmail e.customerEmail) = some a)
      (absent : L.billingOf? (.text a.user.id) = none) :
      Applies now L (.paid e) ⟨none, L.opened now (Reconcile.opening a.user product e), [], some product.id⟩
  | renews {e : InvoicePaid} (offer : L.productOf e.priceId = .ok (some product))
      (payer : L.accountAt? (Query.keptEmail e.customerEmail) = some a)
      (known : L.billingOf? (.text a.user.id) = some b) :
      Applies now L (.paid e) ⟨some b, b.paidFor product e,
        ["product_id", "external_subscription_id", "external_customer_id", "status", "expires_at"], some product.id⟩
  | marks {e : InvoicePaymentFailed} (known : L.carrier? (.text e.subscriptionId) = some b) :
      Applies now L (.paymentFailed e) ⟨some b, { b with status := .pastDue }, ["status"], none⟩
  -- a scheduled cancellation ends the paid window before the period does
  | keeps {e : SubscriptionUpdated} (known : L.carrier? (.text e.subscriptionId) = some b)
      (moves : L.movedTo b e.priceId = .ok moved) (pays : Reconcile.takesAway e = false) :
      Applies now L (.updated e) ⟨some b, { b with
        productId := moved.getD b.productId
        status := e.status.getD b.status
        expiresAt := e.cancelAt.getD e.currentPeriodEnd }, e.columns moved, moved⟩
  | revokes {e : SubscriptionUpdated} (known : L.carrier? (.text e.subscriptionId) = some b)
      (moves : L.movedTo b e.priceId = .ok moved) (ends : Reconcile.takesAway e = true)
      (standard : L.defaultProduct = .ok product) :
      Applies now L (.updated e) ⟨some b, { b with
        productId := moved.getD b.productId
        status := e.status.getD b.status
        expiresAt := e.cancelAt.getD e.currentPeriodEnd }, e.columns moved, some product.id⟩
  | cancels {e : SubscriptionDeleted} (known : L.carrier? (.text e.subscriptionId) = some b)
      (standard : L.defaultProduct = .ok product) :
      Applies now L (.deleted e)
        ⟨some b, { b with status := .canceled, expiresAt := now }, ["status", "expires_at"], some product.id⟩

def recorded (L : Ledger) (x : Effect) : Ledger :=
  match x.old with
  | none => L.add x.new
  | some old => { L with billings := L.billings.map fun b => if b.id = old.id then x.new else b }

def effected (L : Ledger) (x : Effect) : Ledger := (L.recorded x).placed x.new.userId x.plan

end Ledger

-- The row of a name is written where it stands, in some columns and with the time of the write.
inductive Rewritten (now : Moment) (name : String) (columns : List String) : List Row → List Row → Prop where
  | row (front back : List Row) {old new : Row} (named : Members.find? old "id" = some (.text name))
      (stamped : Members.find? new "updated_at" = some (.text now.instant.columnText))
      (kept : ∀ c ∉ columns, c ≠ "updated_at" → Members.find? new c = Members.find? old c) :
      Rewritten now name columns (front ++ old :: back) (front ++ new :: back)

structure Store.Confined (s s' : Store) (now : Moment) (x : Effect) : Prop where
  products : s'.products = s.products
  users : s'.users = s.users ∨
    x.plan.isSome ∧ Rewritten now x.new.userId ["current_product_id"] s.users s'.users
  amended : x.old.isSome → Rewritten now x.new.id x.columns s.billings s'.billings ∧ s'.inserted = s.inserted
  opened : x.old = none → ∃ row, Members.find? row "id" = some (.text x.new.id) ∧
    s'.billings = s.billings ++ [row] ∧ s'.inserted = s.inserted + 1

section Carrying

variable {s : Store} {L : Ledger} {w : Surroundings} {j : Journal} {now : Moment}

def Store.goOn (s : Store) (now : Moment) (userId : String) : Option String → Store
  | none => s
  | some plan => (s.ask now (.assignProduct userId plan)).2

def Store.carryOut (s : Store) (now : Moment) : Decision → Store
  | .rest _ => s
  | .amend b u t => (s.ask now (.updateBilling b.id u)).2.goOn now b.userId t.target
  | .create new t => (s.ask now (.createBilling new)).2.goOn now new.userId t.target

theorem Journal.ask_calm (calm : w.Calm) (j : Journal) (q : Query) :
    (j.ask w q).1 = (j.store.ask w.now q).1 ∧ (j.ask w q).2.store = (j.store.ask w.now q).2 := by
  unfold Journal.ask
  dsimp only
  rw [calm.quiet]
  exact ⟨rfl, rfl⟩

theorem Sequel.store_follow (calm : w.Calm) (t : Sequel) (b : Billing) (j : Journal) :
    ((t.follow b).run w j).2.store = j.store.goOn w.now b.userId t.target := by
  unfold Sequel.follow
  cases t.target with
  | none => rfl
  | some plan =>
    obtain ⟨-, after⟩ := Journal.ask_calm calm j (.assignProduct b.userId plan)
    dsimp only [Program.run, Store.goOn]
    rw [← after]
    cases (j.ask w (.assignProduct b.userId plan)).1 <;> rfl

theorem Program.Plain.goesOn {next : Except Fault q.Reply → Program α} (plain : (Program.ask q next).Plain)
    (shows_ : s.Shows L) (sound : L.Sound) (calm : w.Calm) (here : j.store = s) :
    next (j.ask w q).1 = next (L.ask w.now q).1 ∧ (next (L.ask w.now q).1).Plain ∧
      (j.ask w q).2.store = (s.ask w.now q).2 := by
  obtain ⟨asks, blind, rest⟩ := plain
  obtain ⟨reply, after⟩ := Journal.ask_calm calm j q
  obtain ⟨same, -⟩ := Store.ask_shows shows_ sound calm.clock asks
  rw [here] at reply after
  refine ⟨?_, rest _ (Ledger.ask_named sound w.now q), after⟩
  rw [reply, ← same, blind]

theorem Ledger.Settles.store (settles : L.Settles userId p d) (plain : (p.thenRelease key).Plain) (shows_ : s.Shows L)
    (sound : L.Sound) (calm : w.Calm) (here : j.store = s) (succeeds : (L.enact w.now d).1 = .ok r) :
    ((p.thenRelease key).run w j).2.store = s.carryOut w.now d := by
  induction settles generalizing j with
  | done => exact here
  | fail => exact here
  | read own stops goesOn ih =>
    obtain ⟨same, later, after⟩ := plain.goesOn shows_ sound calm here
    rw [L.ask_of_reads w.now own.reads] at same later
    rw [s.ask_reads w.now own.reads] at after
    unfold Program.thenRelease Program.run
    dsimp only
    rw [same]
    exact ih later after succeeds
  | @amend b u t next found follows stops =>
    obtain ⟨member, owner⟩ := sound.billingOf?_eq_some.1 found
    obtain ⟨same, -, after⟩ := plain.goesOn shows_ sound calm here
    rw [ask_update (sound.billing?_eq_some.2 ⟨member, rfl⟩)] at same
    unfold enact at succeeds
    dsimp only at succeeds
    split at succeeds
    · cases succeeds
    · rename_i free
      rw [if_neg free] at same
      unfold Program.thenRelease Program.run
      dsimp only
      rw [same, show next (.ok (b.apply u)) = _ from follows _ owner, Program.run_thenRelease, Sequel.store_follow calm, after]
      rfl
  | @create new t next absent owner follows stops ih =>
    obtain ⟨same, -, after⟩ := plain.goesOn shows_ sound calm here
    rw [ask_create] at same
    unfold enact at succeeds
    dsimp only at succeeds
    split at succeeds
    · cases succeeds
    · rename_i free
      rw [if_neg free] at same
      unfold Program.thenRelease Program.run
      dsimp only
      rw [same, show next (.ok (L.opened w.now new)) = _ from follows _ owner, Program.run_thenRelease,
        Sequel.store_follow calm, after]
      rfl

theorem Ledger.Opens.store (opens : L.Opens p d) (plain : p.Plain) (shows_ : s.Shows L) (sound : L.Sound) (calm : w.Calm)
    (here : j.store = s) (succeeds : (L.enact w.now d).1 = .ok r) : (p.run w j).2.store = s.carryOut w.now d := by
  induction opens generalizing j with
  | done => exact here
  | fail => exact here
  | read reads stops goesOn ih =>
    obtain ⟨same, later, after⟩ := plain.goesOn shows_ sound calm here
    rw [L.ask_of_reads w.now reads] at same later
    rw [s.ask_reads w.now reads] at after
    unfold Program.run
    dsimp only
    rw [same]
    exact ih later after succeeds
  | enter settles => exact settles.store (plain (.ok ())) shows_ sound calm here succeeds

theorem Store.deliver_carries (shows_ : s.Shows L) (sound : L.Sound) (calm : w.Calm) (proper : e.Proper)
    (returns : (s.deliver w e).1 = .ok r) : (s.deliver w e).2 = s.carryOut w.now (L.decision w.now e) := by
  obtain ⟨told, -⟩ := s.deliver_calm shows_ sound calm proper
  exact (Ledger.opens_reconcile sound w.now e).store (plain_reconcile calm.clock.here proper) shows_ sound calm rfl
    (told.symm.trans returns)

end Carrying

def Sequel.Places (t : Sequel) (L : Ledger) (userId : String) (plan : Option String) : Prop :=
  t.target = plan ∨ t.target = none ∧ ∃ a, L.account? (.text userId) = some a ∧
    a.user.currentProductId.isSome ∧ plan = a.user.currentProductId

inductive Decision.Makes (now : Moment) (L : Ledger) : Decision → EventKind → Effect → Prop where
  | amend (member : b ∈ L.billings) (window : ∀ t ∈ u.expiresAt, t.Proper) (covers : u.columns.map (·.1) ⊆ columns)
      (places : t.Places L b.userId plan) : Makes now L (.amend b u t) t.kind ⟨some b, b.apply u, columns, plan⟩
  | create (window : new.expiresAt.Proper) (places : t.Places L new.userId plan) :
      Makes now L (.create new t) t.kind ⟨none, L.opened now new, [], plan⟩

section Effects

variable {s : Store} {L M : Ledger} {now : Moment} {b : Billing} {u : BillingUpdate} {t : Sequel} {x : Effect}

theorem Ledger.finish_places (sound : M.Sound) (places : t.Places M b.userId plan) (returns : (M.finish b t).1 = .ok r) :
    r = Reconcile.applied t.kind b ∧ (M.finish b t).2 = M.placed b.userId plan ∧
      ∀ p ∈ plan, ∃ a, (M.placed b.userId plan).account? (.text b.userId) = some a ∧ a.user.currentProductId = some p := by
  rcases places with target | ⟨target, a, known, there, rfl⟩
  · unfold finish at returns ⊢
    rw [target] at returns ⊢
    cases plan with
    | none =>
      cases returns
      exact ⟨rfl, rfl, nofun⟩
    | some plan =>
      dsimp only at returns ⊢
      cases known : M.account? (.text b.userId) with
      | none =>
        rw [known] at returns
        cases returns
      | some a =>
        rw [known] at returns
        cases returns
        refine ⟨rfl, rfl, ?_⟩
        rintro p ⟨⟩
        refine ⟨{ a with user := a.user.moved plan }, ?_, rfl⟩
        have owner : a.user.id = b.userId := by simpa using List.find?_some known
        dsimp only [placed]
        rw [account?_move, known, Option.map_some, if_pos (congrArg Document.text owner)]
  · rw [finish_none target] at returns ⊢
    cases returns
    obtain ⟨p, here⟩ := Option.isSome_iff_exists.1 there
    rw [here]
    have stays : M.placed b.userId (some p) = M := move_same sound known here
    rw [stays]
    refine ⟨rfl, rfl, ?_⟩
    rintro p ⟨⟩
    exact ⟨a, known, here⟩

theorem Ledger.recorded_amend (sound : L.Sound) (member : b ∈ L.billings) :
    L.recorded ⟨some b, b.apply u, columns, plan⟩ = L.amend (.text b.id) u := by
  unfold recorded amend
  dsimp only
  refine congrArg (fun bs => { L with billings := bs }) (List.map_congr_left fun c there => ?_)
  by_cases same : c.id = b.id
  · rw [if_pos same, if_pos (congrArg Document.text same), eq_of_apart sound.ids there member same]
  · rw [if_neg same, if_neg fun other => same (Document.text.inj other)]

theorem Decision.Makes.enact {d : Decision} (makes : d.Makes now L kind x) (sound : L.Sound)
    (returns : (L.enact now d).1 = .ok r) : r = Reconcile.applied kind x.new ∧ (L.enact now d).2 = L.effected x ∧
      ∀ p ∈ x.plan, ∃ a, (L.effected x).account? (.text x.new.userId) = some a ∧ a.user.currentProductId = some p := by
  unfold Ledger.enact at returns ⊢
  cases makes with
  | @amend b u columns t plan member window covers places =>
    dsimp only at returns ⊢
    split at returns
    · cases returns
    · rename_i free
      rw [if_neg free]
      unfold Ledger.effected
      rw [Ledger.recorded_amend sound member]
      exact Ledger.finish_places (Ledger.amend_sound_of_free sound member (by simpa using free)) places returns
  | create window places =>
    dsimp only at returns ⊢
    split at returns
    · cases returns
    · rename_i free
      rw [if_neg free]
      refine Ledger.finish_places (Ledger.add_sound sound fun other there shared => free ?_) places returns
      exact List.any_eq_true.2 ⟨other, there, shared⟩

theorem Store.goOn_rewrites (standing : List.Forall₂ Account.Stands s.users L.accounts)
    (users : L.accounts.Pairwise fun a b => a.user.id ≠ b.user.id) (now : Moment) (userId : String) (target : Option String) :
    ((s.goOn now userId target).users = s.users ∨
      target.isSome ∧ Rewritten now userId ["current_product_id"] s.users (s.goOn now userId target).users) ∧
    (s.goOn now userId target).products = s.products ∧ (s.goOn now userId target).billings = s.billings ∧
    (s.goOn now userId target).inserted = s.inserted := by
  cases target with
  | none => exact ⟨.inl rfl, rfl, rfl, rfl⟩
  | some plan =>
    dsimp only [goOn]
    cases known : L.account? (.text userId) with
    | none =>
      rw [assign_unknown standing known]
      exact ⟨.inl rfl, rfl, rfl, rfl⟩
    | some a =>
      obtain ⟨before, row, after, -, -, rows, -, stands, -, -, -, here, -, asked⟩ := assign_known standing users known
      rw [asked]
      refine ⟨.inr ⟨rfl, ?_⟩, rfl, rfl, rfl⟩
      rw [rows]
      have distinct : ((Query.stamped now [("current_product_id", Document.text plan)]).map (·.1)).Nodup := by
        simp [Query.stamped]
      refine .row before after ?_ ?_ fun c other old => ?_
      · rw [stands.id, here]
      · rw [Members.find?_putAll distinct]
        rfl
      · have apart : c ≠ "current_product_id" := by simpa using other
        rw [Members.find?_putAll distinct]
        unfold Query.stamped
        rw [List.singleton_append, Members.find?_cons, if_neg (Ne.symm apart), Members.find?_cons, if_neg (Ne.symm old)]
        rfl

theorem Store.update_rewrites (shows_ : s.Shows L) (sound : L.Sound) (clock : now.Clock) (window : ∀ t ∈ u.expiresAt, t.Proper)
    (member : b ∈ L.billings) (free : L.amendClashes b u = false) (covers : u.columns.map (·.1) ⊆ columns) :
    ∃ billings, Rewritten now b.id columns s.billings billings ∧
      (s.ask now (.updateBilling b.id u)).2 = { s with billings } := by
  have known : L.billing? (.text b.id) = some b := sound.billing?_eq_some.2 ⟨member, rfl⟩
  obtain ⟨before, row, after, -, -, rows, -, stands, -, -, -, -, -, asked⟩ := update_known shows_.billings sound.ids known
  obtain ⟨reply, -⟩ := ask_shows shows_ sound clock (q := .updateBilling b.id u) window
  rw [Ledger.ask_update known, if_neg (by rw [free]; decide), asked] at reply
  rw [asked]
  split at reply
  · cases reply
  · rename_i apart
    rw [if_neg apart]
    refine ⟨_, ?_, rfl⟩
    rw [rows]
    refine .row before after stands.id BillingUpdate.find?_stamp fun c other old => ?_
    rw [Members.find?_putAll (u.nodup_stamped now)]
    unfold Query.stamped
    rw [Members.find?_append, Members.find?_isNone fun named => other (covers named), Members.find?_cons,
      if_neg (Ne.symm old)]
    rfl

theorem Sequel.Places.moves (places : t.Places L userId plan) (moves : t.target.isSome) : plan.isSome := by
  rcases places with same | ⟨none, -⟩
  · rwa [same] at moves
  · rw [none] at moves
    cases moves

theorem Decision.Makes.confined {d : Decision} (makes : d.Makes now L kind x) (shows_ : s.Shows L) (sound : L.Sound)
    (clock : now.Clock) (returns : (L.enact now d).1 = .ok r) : s.Confined (s.carryOut now d) now x := by
  unfold Ledger.enact at returns
  cases makes with
  | @amend b u columns t plan member window covers places =>
    dsimp only at returns
    split at returns
    · cases returns
    · rename_i free
      obtain ⟨billings, written, asked⟩ :=
        Store.update_rewrites shows_ sound clock window member (by simpa using free) covers
      unfold Store.carryOut
      dsimp only
      rw [asked]
      obtain ⟨users, products, kept, inserted⟩ :=
        Store.goOn_rewrites (s := { s with billings }) shows_.users sound.users now b.userId t.target
      refine ⟨products, users.imp_right fun moved => ⟨places.moves moved.1, moved.2⟩, fun _ => ?_, nofun⟩
      rw [kept]
      exact ⟨written, inserted⟩
  | @create new t plan window places =>
    dsimp only at returns
    split at returns
    · cases returns
    · rename_i free
      obtain ⟨row, stands, asked⟩ := Store.create_asked shows_ clock window
      rw [if_neg (show ¬ L.billings.any (L.opened now new).shares = true from free)] at asked
      unfold Store.carryOut
      dsimp only
      rw [asked]
      obtain ⟨users, products, kept, inserted⟩ :=
        Store.goOn_rewrites (s := { s with billings := s.billings ++ [row], inserted := s.inserted + 1 }) shows_.users
          sound.users now new.userId t.target
      exact ⟨products, users.imp_right fun moved => ⟨places.moves moved.1, moved.2⟩, nofun, fun _ => ⟨row, stands.id, kept, inserted⟩⟩

end Effects

section Events

variable {s : Store} {L : Ledger} {now : Moment} {b : Billing}

structure Ledger.Quiet (L : Ledger) (e : Event) (r : Reconciliation) : Prop where
  kind : r.kind = e.kind
  unapplied : r.outcome ≠ .applied
  ignored : r.outcome = .ignored ↔ e.kind = .ignored
  noop : r.outcome = .noop ↔ L.Misses e

-- What becomes of an event: it fails before it writes, or rests, or has its effect.
inductive Ledger.Becomes (now : Moment) (L : Ledger) (e : Event) : Decision → Prop where
  | fails : Becomes now L e (.rest (.error f))
  | rests (quiet : L.Quiet e r) : Becomes now L e (.rest (.ok r))
  | makes (applies : L.Applies now e x) (hits : ¬ L.Misses e) (known : e.kind ≠ .ignored)
      (makes : Decision.Makes now L d e.kind x) : Becomes now L e d

theorem Ledger.productOf_eq_none {price : String} :
    L.productOf price = .ok none ↔ ∀ row ∈ L.catalog, ¬ row.matches [("external_price_id", .text price)] := by
  rw [← List.find?_eq_none (p := (Row.matches · [("external_price_id", .text price)]))]
  unfold productOf offered
  rw [take_one_filter]
  cases found : L.catalog.find? (Row.matches · [("external_price_id", .text price)]) with
  | none => simp [Query.first?]
  | some row =>
    have matched := List.find?_some found
    cases row with
    | nil => simp [Row.matches, Members.find?] at matched
    | cons c rest =>
      simp only [Option.toList, Query.first?]
      cases Product.ofRow (c :: rest) <;> simp [Except.map]

theorem Ledger.paidSequel_places {a : Account} (known : L.account? (.text a.user.id) = some a) (product : Product) :
    (paidSequel a.user product).Places L a.user.id (some product.id) := by
  unfold paidSequel Sequel.Places
  by_cases there : a.user.currentProductId = some product.id
  · exact .inr ⟨if_pos there, a, known, by rw [there]; rfl, there.symm⟩
  · exact .inl (if_neg there)

theorem Ledger.becomes_paid (sound : L.Sound) {e : InvoicePaid} (window : e.periodEnd.Proper) :
    L.Becomes now (.paid e) (L.decidePaid e) := by
  unfold decidePaid
  cases offer : L.productOf e.priceId with
  | error f => exact .fails
  | ok found =>
    cases found with
    | none => exact .rests ⟨rfl, nofun, by simp [Reconcile.noop, Event.kind], iff_of_true rfl (productOf_eq_none.1 offer)⟩
    | some product =>
      have hits : ¬ L.Misses (.paid e) := by
        intro misses
        have none := productOf_eq_none.2 misses
        cases offer.symm.trans none
      dsimp only
      cases payer : L.accountAt? (Query.keptEmail e.customerEmail) with
      | none => exact .fails
      | some a =>
        have there : L.account? (.text a.user.id) = some a :=
          sound.account?_eq_some.2 ⟨List.mem_of_find?_eq_some payer, rfl⟩
        have places := paidSequel_places there product
        unfold decideSettle
        dsimp only
        cases known : L.billingOf? (.text a.user.id) with
        | none => exact .makes (.opens offer payer known) hits nofun (.create window places)
        | some b =>
          obtain ⟨member, owner⟩ := sound.billingOf?_eq_some.1 known
          refine .makes (.renews offer payer known) hits nofun ?_
          rw [← Billing.apply_renewal]
          refine .amend member ?_ ?_ (owner ▸ places)
          · rintro t ⟨⟩
            exact window
          · exact (List.filter_sublist.map _).subset

theorem Ledger.becomes_onCarrier (follows : e.Follows subscription) {work : Billing → Decision}
    (works : ∀ b, L.carrier? (.text subscription) = some b → b ∈ L.billings → ¬ L.Misses e → L.Becomes now e (work b)) :
    L.Becomes now e (L.onCarrier e.kind subscription work) := by
  have misses : L.Misses e ↔ L.carrier? (.text subscription) = none := by
    rw [carrier?_eq_none]
    cases e with
    | paid | ignored => exact follows.elim
    | paymentFailed e | updated e | deleted e =>
      cases follows
      rfl
  unfold onCarrier
  cases known : L.carrier? (.text subscription) with
  | none =>
    refine .rests ⟨rfl, nofun, ?_, iff_of_true rfl (misses.2 known)⟩
    cases e with
    | paid | ignored => exact follows.elim
    | paymentFailed | updated | deleted => simp [Reconcile.unknownSubscription, Reconcile.noop, Event.kind]
  | some b =>
    refine works b known (List.mem_of_find?_eq_some known) ?_
    rw [misses, known]
    nofun

theorem Ledger.becomes_failed (e : InvoicePaymentFailed) : L.Becomes now (.paymentFailed e) (L.decideFailed e) := by
  refine becomes_onCarrier (e := .paymentFailed e) rfl fun b known member hits => ?_
  exact .makes (.marks known) hits nofun (.amend member nofun (by decide) (.inl rfl))

theorem Ledger.becomes_deleted (clock : now.Clock) (e : SubscriptionDeleted) :
    L.Becomes now (.deleted e) (L.decideDeleted now e) := by
  refine becomes_onCarrier (e := .deleted e) rfl fun b known member hits => ?_
  unfold cancelOn
  cases standard : L.defaultProduct with
  | error f => exact .fails
  | ok product =>
    refine .makes (.cancels known standard) hits nofun (.amend member ?_ ?_ (.inl rfl))
    · rintro t ⟨⟩
      exact clock.here
    · simp [BillingUpdate.columns, BillingUpdate.allColumns, Document.ofText?, Document.ofOption, BillingStatus.toDocument,
        Document.ofMoment]

theorem Ledger.becomes_updated {e : SubscriptionUpdated} (window : e.effectiveExpiry.Proper) :
    L.Becomes now (.updated e) (L.decideUpdated e) := by
  refine becomes_onCarrier (e := .updated e) rfl fun b known member hits => ?_
  unfold updateOn
  cases moves : L.movedTo b e.priceId with
  | error f => exact .fails
  | ok moved =>
    have named : (changes e moved).columns.map (·.1) ⊆ e.columns moved := by
      unfold changes SubscriptionUpdated.columns
      cases e.status <;> cases moved <;>
        simp [BillingUpdate.columns, BillingUpdate.allColumns, Document.ofText?, Document.ofOption, BillingStatus.toDocument,
          Document.ofMoment]
    have expires : ∀ t ∈ (changes e moved).expiresAt, t.Proper := by
      rintro t ⟨⟩
      exact window
    unfold destination
    have reconciled : (Event.updated e).kind ≠ .ignored := by rintro ⟨⟩
    cases ends : Reconcile.takesAway e with
    | false => exact .makes (.keeps known moves ends) hits reconciled (.amend member expires named (.inl rfl))
    | true =>
      dsimp only
      cases standard : L.defaultProduct with
      | error f => exact .fails
      | ok product => exact .makes (.revokes known moves ends standard) hits reconciled (.amend member expires named (.inl rfl))

theorem Ledger.becomes_decision (sound : L.Sound) (clock : now.Clock) (proper : e.Proper) :
    L.Becomes now e (L.decision now e) := by
  cases e with
  | paid e => exact becomes_paid sound proper
  | paymentFailed e => exact becomes_failed e
  | updated e => exact becomes_updated proper
  | deleted e => exact becomes_deleted clock e
  | ignored e => exact .rests ⟨rfl, nofun, iff_of_true rfl rfl, by simp [Misses]⟩

-- The footprint of a delivery that returns.
theorem Store.footprint {w : Surroundings} (shows_ : s.Shows L) (sound : L.Sound) (calm : w.Calm) (proper : e.Proper)
    (returns : (s.deliver w e).1 = .ok r) :
    r.kind = e.kind ∧ (r.outcome = .ignored ↔ e.kind = .ignored) ∧ (r.outcome = .noop ↔ L.Misses e) ∧
      (r.outcome ≠ .applied → (s.deliver w e).2 = s) ∧
      (r.outcome = .applied → ∃ x, L.Applies w.now e x ∧ r.billingId = some x.new.id ∧
        s.Confined (s.deliver w e).2 w.now x ∧ (s.deliver w e).2.Shows (L.effected x) ∧
        ∀ p ∈ x.plan, ∃ a, (L.effected x).account? (.text x.new.userId) = some a ∧ a.user.currentProductId = some p) := by
  obtain ⟨told, after, -⟩ := s.deliver_calm shows_ sound calm proper
  rw [returns] at told
  rw [s.deliver_carries shows_ sound calm proper returns] at after ⊢
  have becomes := Ledger.becomes_decision sound calm.clock proper
  generalize L.decision w.now e = d at *
  cases becomes with
  | fails => cases told
  | rests quiet =>
    cases told
    exact ⟨quiet.kind, quiet.ignored, quiet.noop, fun _ => rfl, fun applied => absurd applied quiet.unapplied⟩
  | makes applies hits known makes =>
    obtain ⟨rfl, effected, placed⟩ := makes.enact sound told.symm
    rw [effected] at after
    refine ⟨rfl, iff_of_false nofun known, iff_of_false nofun hits, fun rests => absurd rfl rests, fun _ => ?_⟩
    exact ⟨_, applies, rfl, makes.confined shows_ sound calm.clock told.symm, after, placed⟩

end Events

namespace Shop

theorem growth_footprint : ∃ x,
    (ledger .active "pro" "pro").Applies ⟨0, some 0⟩ (.updated (change none (some "price-team"))) x ∧
      some "bill-1" = some x.new.id ∧
      (ledger .active "pro" "pro").store.Confined
        ((ledger .active "pro" "pro").store.deliver (.quiet ⟨0, some 0⟩) (.updated (change none (some "price-team")))).2 ⟨0, some 0⟩ x ∧
      ((ledger .active "pro" "pro").store.deliver (.quiet ⟨0, some 0⟩) (.updated (change none (some "price-team")))).2.Shows
        ((ledger .active "pro" "pro").effected x) ∧
      ∀ p ∈ x.plan, ∃ a, ((ledger .active "pro" "pro").effected x).account? (.text x.new.userId) = some a ∧
        a.user.currentProductId = some p := by
  have window : Moment.Proper ⟨1893456000000000, some 0⟩ := by decide
  have proper : (Event.updated (change none (some "price-team"))).Proper := window
  have shown := shows_ .active "pro" "pro" (by decide)
  have calm : (Surroundings.quiet ⟨0, some 0⟩).Calm := Surroundings.calm_quiet (by decide)
  have comes : ((ledger .active "pro" "pro").enact ⟨0, some 0⟩ ((ledger .active "pro" "pro").decision ⟨0, some 0⟩
      (.updated (change none (some "price-team"))))).1 = .ok ⟨.subscriptionUpdated, .applied, some "bill-1", none⟩ := by
    decide +kernel
  have returns := (Store.deliver_calm shown (sound _ _ _) calm proper).1.trans comes
  obtain ⟨-, -, -, -, applied⟩ := Store.footprint shown (sound _ _ _) calm proper returns
  exact applied rfl

end Shop
end SubscriptionLedger
