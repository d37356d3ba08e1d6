import SubscriptionLedger.Billing.Reconcile
import SubscriptionLedger.Proofs.Store

namespace SubscriptionLedger

def Query.Reads : Query → Prop
  | .assignProduct _ _ | .createBilling _ | .updateBilling _ _ => False
  | _ => True

theorem Query.Reads.ne_create {q : Query} (reads : q.Reads) (new : NewBilling) : q ≠ .createBilling new := by
  rintro rfl
  exact reads

def Ledger.cutShort (subscriptionId : String) (b : Billing) : Fault → Fault
  | .cancelled => .cancelled
  | f => .incomplete b.id b.userId subscriptionId f

namespace Event

def blame : Event → Billing → Fault → Fault
  | .deleted e => Ledger.cutShort e.subscriptionId
  | _ => fun _ f => f

def opens? : Event → Option String
  | .paid e => some e.subscriptionId
  | _ => none

def window? (now : Moment) : Event → Option Moment
  | .paid e => some e.periodEnd
  | .updated e => some e.effectiveExpiry
  | .deleted _ => some now
  | _ => none

theorem subscription_of_opens {e : Event} (opens : e.opens? = some subscriptionId) : e.subscriptionId? = some subscriptionId := by
  cases e with
  | paid => exact opens
  | _ => cases opens

theorem blame_cases (e : Event) (b : Billing) (f : Fault) :
    e.blame b f = f ∨ ∃ subscriptionId, e.blame b f = .incomplete b.id b.userId subscriptionId f := by
  cases e with
  | deleted e =>
    cases f with
    | cancelled => exact .inl rfl
    | _ => exact .inr ⟨e.subscriptionId, rfl⟩
  | _ => exact .inl rfl

end Event

-- What is known of replies.
abbrev Knowledge := (q : Query) → q.Reply → Prop

def anything : Knowledge := fun _ _ => True

def Knowledge.Offers (told : Knowledge) (plan : String) : Prop :=
  ∃ product : Product, product.id = plan ∧ (told .defaultProduct product ∨ ∃ price, told (.productByPrice price) (some product))

-- What follows the write of a record: nothing, or the move of its user. Who that is, is known from the record that is
-- written, and from the one that was looked for.
inductive Ends (told : Knowledge) (e : Event) (userId : String) (b : Billing) : Program Reconciliation → Prop where
  | done : Ends told e userId b (.done r)
  | move {next : Except Fault (Query.assignProduct (.text mover) (.text plan)).Reply → Program Reconciliation}
      (offers : told.Offers plan) (user : mover = userId ∨ mover = b.userId) (moved : ∀ u, next (.ok u) = .done r)
      (refused : ∀ f, next (.error f) = .fail (e.blame b f)) :
      Ends told e userId b (.ask (.assignProduct (.text mover) (.text plan)) next)

-- How a record is opened, if the store may find one in its way. The user's own is looked for again then.
structure Rechecks (new : NewBilling) (next : Except Fault (Query.createBilling new).Reply → Program Reconciliation)
    (again : String → Except Fault (Query.billingByUser (.text new.userId)).Reply → Program Reconciliation) : Prop where
  looks : ∀ owner, next (.error (.duplicateBilling owner)) = .ask (.billingByUser (.text new.userId)) (again owner)
  stops : ∀ f, (∀ owner, f ≠ .duplicateBilling owner) → next (.error f) = .fail f
  vain : ∀ owner, again owner (.ok none) = .fail (.duplicateBilling owner)
  fails : ∀ owner f, again owner (.error f) = .fail f
  blind : ∀ owner found, again owner (.ok (Option.map Billing.timeless found)) = again owner (.ok found)

theorem Rechecks.refused (rechecks : Rechecks new next again) (f : Fault) : next (.error f) = .fail f ∨
    ∃ owner, f = .duplicateBilling owner ∧ next (.error f) = .ask (.billingByUser (.text new.userId)) (again owner) := by
  cases f with
  | duplicateBilling owner => exact .inr ⟨owner, rfl, rechecks.looks owner⟩
  | _ => exact .inl (rechecks.stops _ fun _ => nofun)

-- Work on the record of a user: it reads, and makes one write, of the record of the user or of a new one. It goes on
-- along the replies that are possible by what is known, and never looks at the time of a last change.
inductive Work (told : Knowledge) (now : Moment) (e : Event) : Program Reconciliation → Prop where
  | done : Work told now e (.done r)
  | read {next : Except Fault q.Reply → Program Reconciliation} (reads : q.Reads) (plain : q.Plain)
      (blind : ∀ a, next (.ok (q.timeless a)) = next (.ok a)) (stops : ∀ f, next (.error f) = .fail f)
      (goesOn : ∀ a, told q a → Work told now e (next (.ok a))) : Work told now e (.ask q next)
  | amend {b : Billing} {next : Except Fault (Query.updateBilling (.text b.id) u).Reply → Program Reconciliation}
      (found : told (.billingByUser (.text userId)) (some b)) (carries : (b.apply u).subscriptionId = e.subscriptionId?)
      (window : ∀ t ∈ u.expiresAt, t ∈ e.window? now) (blind : ∀ b : Billing, next (.ok b.timeless) = next (.ok b))
      (stops : ∀ f, next (.error f) = .fail f) (ends : ∀ b : Billing, Ends told e userId b (next (.ok b))) :
      Work told now e (.ask (.updateBilling (.text b.id) u) next)
  | create {next : Except Fault (Query.createBilling new).Reply → Program Reconciliation}
      {again : String → Except Fault (Query.billingByUser (.text new.userId)).Reply → Program Reconciliation}
      (absent : told (.billingByUser (.text new.userId)) none) (opens : e.opens? = some new.subscriptionId)
      (window : new.expiresAt ∈ e.window? now) (blind : ∀ b : Billing, next (.ok b.timeless) = next (.ok b))
      (ends : ∀ b : Billing, Ends told e new.userId b (next (.ok b))) (rechecks : Rechecks new next again)
      (renews : ∀ owner b, told (.billingByUser (.text new.userId)) (some b) → Work told now e (again owner (.ok (some b)))) :
      Work told now e (.ask (.createBilling new) next)

-- The course of a reconciliation: it reads, and then works under one key, if at all.
inductive Course (told : Knowledge) (now : Moment) (e : Event) : Program Reconciliation → Prop where
  | done : Course told now e (.done r)
  | unpaid : Course told now e (.fail (.payerUnknown email subscriptionId))
  | read {next : Except Fault q.Reply → Program Reconciliation} (reads : q.Reads) (plain : q.Plain)
      (blind : ∀ a, next (.ok (q.timeless a)) = next (.ok a)) (stops : ∀ f, next (.error f) = .fail f)
      (goesOn : ∀ a, told q a → Course told now e (next (.ok a))) : Course told now e (.ask q next)
  | enter (work : Work told now e p) : Course told now e (.holding key p)

-- Faults that a reconciliation raises by itself; it hands on all others.
def Fault.Own : Fault → Prop
  | .payerUnknown _ _ | .duplicateBilling _ | .incomplete _ _ _ _ => True
  | _ => False

def Query.Due (told : Knowledge) (now : Moment) (e : Event) : Query → Prop
  | .assignProduct _ plan => ∃ product, plan = .text product ∧ told.Offers product
  | .createBilling new => new.expiresAt ∈ e.window? now
  | .updateBilling _ u => ∀ t ∈ u.expiresAt, t ∈ e.window? now
  | q => q.Plain

-- What makes a predicate on programs hold of every reconciliation. It may look at the fault of the call that has just
-- been answered.
structure Rules (told : Knowledge) (now : Moment) (e : Event) (P : Option Fault → Program Reconciliation → Prop) : Prop where
  done : ∀ last r, P last (.done r)
  handedOn : ∀ f, P (some f) (.fail f)
  raised : ∀ last f, f.Own → P last (.fail f)
  asked : ∀ last q (next : Except Fault q.Reply → Program Reconciliation), q.Due told now e →
    (∀ a, next (.ok (q.timeless a)) = next (.ok a)) → (∀ a, told q a → P none (next (.ok a))) →
    (∀ f, P (some f) (next (.error f))) → P last (.ask q next)

section Following

variable {told : Knowledge} {now : Moment} {e : Event} {q : Query} {P : Option Fault → Program Reconciliation → Prop}

theorem Query.Reads.due (reads : q.Reads) (plain : q.Plain) : q.Due told now e := by
  cases q with
  | assignProduct | createBilling | updateBilling => exact reads.elim
  | _ => exact plain

theorem Rules.stopped (rules : Rules told now e P) (stops : p = .fail f) : P (some f) p := by
  rw [stops]
  exact rules.handedOn f

theorem Ends.follows (ends : Ends told e userId b p) (rules : Rules told now e P) : P none p := by
  cases ends with
  | done => exact rules.done none _
  | move offers _ moved refused =>
    refine rules.asked none _ _ ⟨_, rfl, offers⟩ (fun u => (moved _).trans (moved u).symm) (fun u _ => ?_) fun f => ?_
    · rw [moved]
      exact rules.done none _
    · rw [refused]
      rcases e.blame_cases b f with same | ⟨_, incomplete⟩
      · rw [same]
        exact rules.handedOn f
      · rw [incomplete]
        exact rules.raised _ _ trivial

theorem Rechecks.follows (rechecks : Rechecks new next again) (rules : Rules told now e P)
    (renews : ∀ owner b, told (.billingByUser (.text new.userId)) (some b) → P none (again owner (.ok (some b)))) (f : Fault) :
    P (some f) (next (.error f)) := by
  rcases rechecks.refused f with stops | ⟨owner, -, looks⟩
  · exact rules.stopped stops
  · rw [looks]
    refine rules.asked _ _ _ trivial (rechecks.blind owner) (fun found reply => ?_) fun g => rules.stopped (rechecks.fails owner g)
    cases found with
    | none =>
      rw [rechecks.vain]
      exact rules.raised _ _ trivial
    | some b => exact renews owner b reply

theorem Work.follows (work : Work told now e p) (rules : Rules told now e P) : P none p := by
  induction work with
  | done => exact rules.done none _
  | read reads plain blind stops _ ih =>
    exact rules.asked none _ _ (reads.due plain) blind ih fun f => rules.stopped (stops f)
  | amend _ _ window blind stops ends =>
    exact rules.asked none _ _ window blind (fun b _ => (ends b).follows rules) fun f => rules.stopped (stops f)
  | create _ _ window blind ends rechecks _ ih =>
    exact rules.asked none _ _ window blind (fun b _ => (ends b).follows rules) (rechecks.follows rules ih)

theorem Course.follows (course : Course told now e p) (rules : Rules told now e P)
    (enters : ∀ key work, Work told now e work → P none (.holding key work)) : P none p := by
  induction course with
  | done => exact rules.done none _
  | unpaid => exact rules.raised none _ trivial
  | read reads plain blind stops _ ih =>
    exact rules.asked none _ _ (reads.due plain) blind ih fun f => rules.stopped (stops f)
  | enter work => exact enters _ _ work

end Following

namespace Reconcile

open Program

variable {told : Knowledge} {now : Moment} {ev : Event} {q : Query} {b : Billing}

theorem query_congr {f g : q.Reply → Program α} (same : ∀ a, f a = g a) : (query q >>= f) = query q >>= g :=
  congrArg (Program.bind (query q)) (funext same)

def underRecordKey (kind : EventKind) (subscriptionId userId : String) (work : Billing → Program Reconciliation) :
    Program Reconciliation := do
  match ← query (.billingByUser userId) with
  | none => return unknownSubscription kind
  | some current => if current.subscriptionId = some subscriptionId then work current else return unknownSubscription kind

theorem withRecord_eq (kind : EventKind) (subscriptionId : String) (work : Billing → Program Reconciliation) :
    withRecord kind subscriptionId work = query (.billingBySubscription subscriptionId) >>= fun
      | none => return unknownSubscription kind
      | some found => holding found.userId (underRecordKey kind subscriptionId found.userId work) := by
  unfold withRecord
  refine query_congr fun found => ?_
  cases found with
  | none => rfl
  | some found =>
    refine congrArg (holding found.userId) (query_congr fun current => ?_)
    cases current <;> rfl

theorem work_query {f : q.Reply → Program Reconciliation} (reads : q.Reads) (plain : q.Plain)
    (blind : ∀ a, f (q.timeless a) = f a) (goesOn : ∀ a, told q a → Work told now ev (f a)) :
    Work told now ev (query q >>= f) := .read reads plain blind (fun _ => rfl) goesOn

theorem course_query {f : q.Reply → Program Reconciliation} (reads : q.Reads) (plain : q.Plain)
    (blind : ∀ a, f (q.timeless a) = f a) (goesOn : ∀ a, told q a → Course told now ev (f a)) :
    Course told now ev (query q >>= f) := .read reads plain blind (fun _ => rfl) goesOn

theorem work_update {f : Billing → Program Reconciliation} (found : told (.billingByUser (.text userId)) (some b))
    (carries : (b.apply u).subscriptionId = ev.subscriptionId?) (window : ∀ t ∈ u.expiresAt, t ∈ ev.window? now)
    (blind : ∀ b, f b.timeless = f b) (ends : ∀ b, Ends told ev userId b (f b)) :
    Work told now ev (query (.updateBilling b.id u) >>= f) := .amend found carries window blind (fun _ => rfl) ends

theorem course_withRecord {work : Billing → Program Reconciliation} (blind : ∀ b, work b.timeless = work b)
    (works : ∀ userId b, told (.billingByUser (.text userId)) (some b) → b.subscriptionId = some subscriptionId →
      Work told now ev (work b)) : Course told now ev (withRecord kind subscriptionId work) := by
  rw [withRecord_eq]
  refine course_query trivial ⟨_, rfl⟩ (fun found => ?_) fun found _ => ?_
  · cases found <;> rfl
  · cases found with
    | none => exact .done
    | some found =>
      refine .enter (work_query trivial trivial (fun current => ?_) fun current reply => ?_)
      · cases current with
        | none => rfl
        | some b =>
          change (if b.subscriptionId = some subscriptionId then work b.timeless else _) = if _ then work b else _
          rw [blind]
      · cases current with
        | none => exact .done
        | some b =>
          dsimp only
          split
          · rename_i carries
            exact works found.userId b reply carries
          · exact .done

theorem course_paymentFailed (e : InvoicePaymentFailed) : Course told now (.paymentFailed e) (paymentFailed e) := by
  refine course_withRecord (fun _ => rfl) fun userId b found carries => ?_
  exact work_update found carries nofun (fun _ => rfl) fun _ => .done

theorem work_movedTo {f : Option String → Program Reconciliation}
    (goesOn : ∀ moved : Option String, (∀ plan ∈ moved, told.Offers plan) → Work told now ev (f moved)) :
    Work told now ev (movedTo b priceId >>= f) := by
  unfold movedTo
  split
  · exact goesOn none nofun
  · exact goesOn none nofun
  · rw [LawfulMonad.bind_assoc]
    refine work_query trivial trivial (fun found => ?_) fun found reply => ?_
    · cases found <;> rfl
    · cases found with
      | none => exact goesOn none nofun
      | some product =>
        refine goesOn _ ?_
        split
        · rintro plan ⟨⟩
          exact ⟨product, rfl, .inr ⟨_, reply⟩⟩
        · nofun

theorem work_destination {f : Option String → Program Reconciliation} (offers : ∀ plan ∈ moved, told.Offers plan)
    (goesOn : ∀ target : Option String, (∀ plan ∈ target, told.Offers plan) → Work told now ev (f target)) :
    Work told now ev (destination e moved >>= f) := by
  unfold destination
  split
  · rw [LawfulMonad.bind_assoc]
    refine work_query trivial trivial (fun _ => rfl) fun product reply => goesOn _ ?_
    rintro plan ⟨⟩
    exact ⟨product, rfl, .inl reply⟩
  · exact goesOn moved offers

theorem ends_moveUser (offers : ∀ plan ∈ target, told.Offers plan) (blames : ∀ f, ev.blame b f = f) (r : Reconciliation) :
    Ends told ev userId b (moveUser b.userId target >>= fun _ => Program.done r) := by
  cases target with
  | none => exact .done
  | some plan =>
    unfold moveUser
    rw [LawfulMonad.bind_assoc]
    exact .move (offers plan rfl) (.inr rfl) (fun _ => rfl) fun f => by rw [blames]; rfl

theorem course_updated (e : SubscriptionUpdated) : Course told now (.updated e) (updated e) := by
  refine course_withRecord (fun _ => rfl) fun userId b found carries => ?_
  refine work_movedTo fun moved offers => work_destination offers fun target known => ?_
  exact work_update found carries (fun _ => id) (fun _ => rfl) fun new => ends_moveUser known (fun _ => rfl) _

theorem ends_downgrade (offers : told.Offers product.id) (r : Reconciliation) :
    Ends told (.deleted e) userId b (downgrade b product e.subscriptionId >>= fun _ => Program.done r) := by
  refine .move offers (.inr rfl) (fun _ => rfl) fun f => ?_
  cases f <;> rfl

theorem downgrade_timeless (b : Billing) (product : Product) (subscriptionId : String) :
    downgrade b.timeless product subscriptionId = downgrade b product subscriptionId := by
  refine congrArg (ask (.assignProduct b.userId product.id)) (funext fun reply => ?_)
  cases reply with
  | ok => rfl
  | error f => cases f <;> rfl

theorem course_deleted (now : Moment) (e : SubscriptionDeleted) : Course told now (.deleted e) (deleted now e) := by
  refine course_withRecord (fun _ => rfl) fun userId b found carries => ?_
  refine work_query trivial trivial (fun _ => rfl) fun product reply => ?_
  refine work_update found carries (fun _ => id) (fun b => ?_) fun new => ends_downgrade ⟨product, rfl, .inl reply⟩ _
  exact congrArg (fun moved : Program Unit => moved >>= fun _ => Program.done (applied .subscriptionDeleted b))
    (downgrade_timeless b product e.subscriptionId)

theorem ends_assign (offers : told.Offers plan) (user : User) (r : Reconciliation) :
    Ends told (.paid e) user.id b (assign user plan >>= fun _ => Program.done r) := by
  unfold assign
  split
  · exact .done
  · rw [LawfulMonad.bind_assoc]
    exact .move offers (.inl rfl) (fun _ => rfl) fun _ => rfl

theorem openBilling_timeless (user : User) : openBilling user.timeless product e = openBilling user product e := by
  refine congrArg (ask (.createBilling (opening user product e))) (funext fun reply => ?_)
  cases reply with
  | ok => rfl
  | error f =>
    cases f with
    | duplicateBilling owner => exact query_congr fun found => by cases found <;> rfl
    | _ => rfl

theorem settle_timeless (user : User) : settle user.timeless product e = settle user product e := by
  refine query_congr fun found => ?_
  cases found with
  | none => exact openBilling_timeless user
  | some => rfl

theorem paidUnderKey_timeless (found : User) : paidUnderKey found.timeless product e = paidUnderKey found product e := by
  refine query_congr fun user => ?_
  cases user with
  | none =>
    change (settle found.timeless product e >>= _) = settle found product e >>= _
    rw [settle_timeless]
    rfl
  | some => rfl

theorem work_renew {f : Billing → Program Reconciliation} (found : told (.billingByUser (.text userId)) (some b))
    (blind : ∀ b, f b.timeless = f b) (ends : ∀ new, Ends told (.paid e) userId new (f new)) :
    Work told now (.paid e) (renew b product e >>= f) := work_update found rfl (fun _ => id) blind ends

def recheck (product : Product) (e : InvoicePaid) (f : Billing → Program Reconciliation) (owner : String) :
    Except Fault (Option Billing) → Program Reconciliation
  | .ok none => fail (.duplicateBilling owner)
  | .ok (some existing) => renew existing product e >>= f
  | .error g => fail g

theorem work_openBilling {f : Billing → Program Reconciliation} (absent : told (.billingByUser (.text user.id)) none)
    (blind : ∀ b, f b.timeless = f b) (ends : ∀ new, Ends told (.paid e) user.id new (f new)) :
    Work told now (.paid e) (openBilling user product e >>= f) := by
  refine .create absent rfl rfl blind ends (?_ : Rechecks _ _ (recheck product e f)) fun _ _ found =>
    work_renew found blind ends
  refine ⟨fun owner => ?_, fun g other => ?_, fun _ => rfl, fun _ _ => rfl, fun _ found => ?_⟩
  · change ((query (.billingByUser user.id) >>= _) >>= f) = _
    rw [LawfulMonad.bind_assoc]
    refine congrArg (ask (.billingByUser user.id)) (funext fun reply => ?_)
    cases reply with
    | error => rfl
    | ok found => cases found <;> rfl
  · cases g with
    | duplicateBilling owner => exact absurd rfl (other owner)
    | _ => rfl
  · cases found <;> rfl

theorem work_settle {f : Billing → Program Reconciliation} (blind : ∀ b, f b.timeless = f b)
    (ends : ∀ new, Ends told (.paid e) user.id new (f new)) : Work told now (.paid e) (settle user product e >>= f) := by
  unfold settle
  rw [LawfulMonad.bind_assoc]
  refine work_query trivial trivial (fun found => ?_) fun found reply => ?_
  · cases found <;> rfl
  · cases found with
    | none => exact work_openBilling reply blind ends
    | some existing => exact work_renew reply blind ends

theorem work_paidUnderKey (offers : told.Offers product.id) (found : User) :
    Work told now (.paid e) (paidUnderKey found product e) := by
  refine work_query trivial trivial (fun user => ?_) fun user _ => ?_
  · cases user with
    | none => rfl
    | some user =>
      change (settle user.timeless product e >>= _) = settle user product e >>= _
      rw [settle_timeless]
      rfl
  · exact work_settle (fun _ => rfl) fun new => ends_assign offers _ _

theorem course_paid (e : InvoicePaid) : Course told now (.paid e) (paid e) := by
  refine course_query trivial trivial (fun found => ?_) fun found price => ?_
  · cases found <;> rfl
  · cases found with
    | none => exact .done
    | some product =>
      refine course_query trivial trivial (fun user => ?_) fun user _ => ?_
      · cases user with
        | none => rfl
        | some user =>
          change holding user.id (paidUnderKey user.timeless product e) = holding user.id (paidUnderKey user product e)
          rw [paidUnderKey_timeless]
      · cases user with
        | none => exact .unpaid
        | some found => exact .enter (work_paidUnderKey ⟨product, rfl, .inr ⟨_, price⟩⟩ found)

end Reconcile

theorem course_reconcile (told : Knowledge) (now : Moment) (e : Event) : Course told now e (reconcile now e) := by
  cases e with
  | paid e => exact Reconcile.course_paid e
  | paymentFailed e => exact Reconcile.course_paymentFailed e
  | updated e => exact Reconcile.course_updated e
  | deleted e => exact Reconcile.course_deleted now e
  | ignored => exact .done

end SubscriptionLedger
