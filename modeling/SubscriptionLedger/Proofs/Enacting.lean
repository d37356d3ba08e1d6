import SubscriptionLedger.Proofs.Redelivery
import SubscriptionLedger.Proofs.Serial

namespace SubscriptionLedger

-- News about a subscription that are no payment for it.
def Event.Follows (subscriptionId : String) : Event → Prop
  | .paymentFailed e => e.subscriptionId = subscriptionId
  | .updated e => e.subscriptionId = subscriptionId
  | .deleted e => e.subscriptionId = subscriptionId
  | .paid _ | .ignored _ => False

def Billing.paidFor (b : Billing) (product : Product) (e : InvoicePaid) : Billing :=
  { b with
    productId := product.id
    subscriptionId := some e.subscriptionId
    customerId := some e.customerId
    status := .active
    expiresAt := e.periodEnd }

theorem Billing.apply_renewal (b : Billing) (product : Product) (e : InvoicePaid) :
    b.apply (Reconcile.renewal b product e) = b.paidFor product e := by
  unfold Billing.apply Reconcile.renewal Billing.paidFor
  by_cases same : b.productId = product.id <;> simp [same]

namespace Ledger

variable {L M : Ledger} {b c : Billing} {u : BillingUpdate} {t : Sequel} {new : NewBilling}

theorem enact_amend (free : L.amendClashes b u = false) :
    L.enact now (.amend b u t) = (L.amend (.text b.id) u).finish (b.apply u) t := if_neg (by rw [free]; decide)

theorem enact_create (free : L.createClashes now new = false) :
    L.enact now (.create new t) = (L.add (L.opened now new)).finish (L.opened now new) t := if_neg (by rw [free]; decide)

theorem written_amend (free : L.amendClashes b u = false) : L.written now (.amend b u t) = L.amend (.text b.id) u :=
  if_neg (by rw [free]; decide)

theorem written_create (free : L.createClashes now new = false) :
    L.written now (.create new t) = L.add (L.opened now new) := if_neg (by rw [free]; decide)

theorem carrier?_eq_none : L.carrier? (.text subscription) = none ↔ ∀ x ∈ L.billings, x.subscriptionId ≠ some subscription := by
  unfold carrier?
  rw [List.find?_eq_none]
  refine forall₂_congr fun x _ => not_congr ?_
  simp only [Option.any_eq_true, decide_eq_true_eq, Document.text.injEq, exists_eq_right]

theorem decision_of_none (follows : event.Follows old) (gone : M.carrier? (.text old) = none) (reading : Moment) :
    M.decision reading event = .rest (.ok (Reconcile.unknownSubscription event.kind)) := by
  cases event with
  | paid | ignored => exact follows.elim
  | paymentFailed e | updated e | deleted e =>
    cases follows
    dsimp only [decision, decideFailed, decideUpdated, decideDeleted, onCarrier]
    rw [gone]
    rfl

theorem enact_sound (sound : L.Sound) (now reading : Moment) (e : Event) :
    (L.enact now (L.decision reading e)).2.Sound := by
  rw [← run_reconcile sound now reading 0 e]
  exact run_sound sound now _ 0 _

theorem amendClashes_same (sound : L.Sound) (member : b ∈ L.billings) (same : b.apply u = b) : L.amendClashes b u = false := by
  refine List.any_eq_false.2 fun other there => ?_
  rw [same]
  simp only [Bool.and_eq_true, decide_eq_true_eq, not_and]
  intro distinct shared
  exact distinct (congrArg (fun b : Billing => Document.text b.id) (sound.eq_of_shares member there shared).symm)

theorem amend_same (sound : L.Sound) (member : b ∈ L.billings) (same : b.apply u = b) : L.amend (.text b.id) u = L := by
  have kept : L.billings.map (fun x => if Document.text x.id = .text b.id then x.apply u else x) = L.billings := by
    refine (List.map_congr_left fun x there => ?_).trans (List.map_id' L.billings)
    split
    · rename_i here
      rw [eq_of_apart sound.ids there member (Document.text.inj here), same]
    · rfl
  unfold amend
  rw [kept]

theorem billingOf?_amended (found : L.billingOf? (.text userId) = some b) :
    (L.amend (.text b.id) u).billingOf? (.text userId) = some (b.apply u) := by
  rw [billingOf?_amend, found, Option.map_some, if_pos rfl]

theorem finish_snd (L : Ledger) (b : Billing) (t : Sequel) :
    (L.finish b t).2 = match t.target with
      | none => L
      | some plan => L.move (.text b.userId) plan := by
  unfold finish
  cases t.target with
  | none => rfl
  | some plan =>
    dsimp only
    cases known : L.account? (.text b.userId) with
    | some a => rfl
    | none =>
      have nobody : L.accounts.map (fun a => if Document.text a.user.id = .text b.userId then
          { a with user := a.user.moved plan } else a) = L.accounts := by
        refine (List.map_congr_left fun a there => ?_).trans (List.map_id' L.accounts)
        have other := List.find?_eq_none.1 known a there
        exact if_neg (by simpa using other)
      dsimp only
      unfold move
      rw [nobody]

def placed (L : Ledger) (userId : String) : Option String → Ledger
  | none => L
  | some plan => L.move (.text userId) plan

theorem finish_placed (L : Ledger) (b : Billing) (t : Sequel) : (L.finish b t).2 = L.placed b.userId t.target := by
  rw [finish_snd]
  cases t.target <;> rfl

theorem accounts_finish (L : Ledger) (b : Billing) (t : Sequel) :
    (L.finish b t).2.accounts = match t.target with
      | none => L.accounts
      | some plan => (L.move (.text b.userId) plan).accounts := by
  rw [finish_snd]
  cases t.target <;> rfl

theorem amend_finish (L : Ledger) (t : Sequel) (name : Document) (u : BillingUpdate) (owner : b.userId = c.userId) :
    (L.finish b t).2.amend name u = ((L.amend name u).finish c t).2 := by
  rw [finish_snd, finish_snd, owner]
  cases t.target <;> rfl

theorem finish_twice (L : Ledger) (b : Billing) (t : Sequel) : (L.finish b t).2.finish b t = L.finish b t := by
  unfold finish
  cases t.target with
  | none => rfl
  | some plan =>
    dsimp only
    cases known : L.account? (.text b.userId) with
    | none =>
      dsimp only
      rw [known]
    | some a =>
      dsimp only
      rw [account?_move, known, Option.map_some, move_move]

theorem inserted_finish (L : Ledger) (b : Billing) (t : Sequel) : (L.finish b t).2.inserted = L.inserted := by
  rw [finish_snd]
  cases t.target <;> rfl

theorem inserted_enact (L : Ledger) (now : Moment) (d : Decision) : (L.enact now d).2.inserted ≤ L.inserted + 1 := by
  cases d with
  | rest outcome => exact Nat.le_succ _
  | amend b u t =>
    unfold enact
    dsimp only
    split
    · exact Nat.le_succ _
    · rw [inserted_finish]
      exact Nat.le_succ _
  | create new t =>
    unfold enact
    dsimp only
    split
    · exact Nat.le_succ _
    · rw [inserted_finish]
      exact Nat.le_refl _

theorem billingOf?_finish (L : Ledger) (b : Billing) (t : Sequel) (owner : Document) :
    (L.finish b t).2.billingOf? owner = L.billingOf? owner := by
  unfold billingOf?
  rw [(finish_stays L b t).1]

theorem carrier?_finish (L : Ledger) (b : Billing) (t : Sequel) (subscription : Document) :
    (L.finish b t).2.carrier? subscription = L.carrier? subscription := by
  unfold carrier?
  rw [(finish_stays L b t).1]

end Ledger
end SubscriptionLedger
