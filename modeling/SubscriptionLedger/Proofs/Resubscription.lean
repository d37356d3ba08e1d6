import SubscriptionLedger.Proofs.Access
import SubscriptionLedger.Proofs.Enacting
import SubscriptionLedger.Proofs.Turns

namespace SubscriptionLedger

namespace World

variable {α : Type} {w : World α}

def turnOn (w : World α) (L : Ledger) (id : String) : World α × Ledger :=
  match w.job? id with
  | none => (w, L)
  | some t =>
    match t.stage with
    | .standing q next =>
      let (w', called) := w.settle t ((next (L.ask w.now q).1).runOn t.id (w.lock t.bench) t.tickets)
      (w'.resumeCalled called, (L.ask w.now q).2)
    | _ => ((w.advance id).1, L)

def rehearse (w : World α) (L : Ledger) : List (Moment × String) → World α
  | [] => w
  | (now, id) :: rest => (({ w with now }).turnOn L id).1.rehearse (({ w with now }).turnOn L id).2 rest

def rehearsed (w : World α) (L : Ledger) : List (Moment × String) → Ledger
  | [] => L
  | (now, id) :: rest => (({ w with now }).turnOn L id).1.rehearsed (({ w with now }).turnOn L id).2 rest

variable {L : Ledger} {s : Store} {calls : List Calling}

theorem Reads.turnOn (reads : w.Reads L) (clock : w.now.Clock) (store : Store) (id : String) :
    (({ w with store }).turnOn L id).1 = { (w.advance id).1 with store } ∧
      (w.advance id).1.Reads (({ w with store }).turnOn L id).2 := by
  obtain ⟨L', goesOn, -⟩ := reads.advance clock id
  -- where the ledger goes is found out from the store, which shows one ledger only
  suffices turned : (({ w with store }).turnOn L id).1 = { (w.advance id).1 with store } ∧
      (w.advance id).1.store.Shows (({ w with store }).turnOn L id).2 by
    obtain ⟨same, shown⟩ := turned
    rw [← Store.shows_unique goesOn.shows_ shown]
    exact ⟨same, goesOn⟩
  have there : ({ w with store } : World α).job? id = w.job? id := rfl
  unfold World.turnOn World.advance
  rw [there]
  cases known : w.job? id with
  | none => exact ⟨rfl, reads.shows_⟩
  | some t =>
    dsimp only
    cases stood : t.stage with
    | fresh p =>
      refine ⟨World.resumeAll_store (w.start t p).1 store _ _, ?_⟩
      have kept := World.resumeAll_keeps (w.start t p).1 (2 * (w.start t p).1.jobs.length + 1) (w.start t p).2
      change ((w.start t p).1.resumeAll _ _).store.Shows L
      rw [kept]
      exact reads.shows_
    | standing q next =>
      obtain ⟨same, after⟩ := reads.asked clock (left_of_standing known stood)
      have kept := World.resumeAll_keeps (w.carryOut t q next).1 (2 * (w.carryOut t q next).1.jobs.length + 1)
        (w.carryOut t q next).2
      refine ⟨?_, ?_⟩
      · dsimp only
        rw [← same]
        exact World.resumeAll_store (w.carryOut t q next).1 store _ _
      · change ((w.carryOut t q next).1.resumeAll _ _).store.Shows (L.ask w.now q).2
        rw [kept]
        exact after
    | waiting | finished => exact ⟨rfl, reads.shows_⟩

theorem Reads.rehearse (reads : w.Reads L) (store : Store) (schedule : List (Moment × String))
    (clock : ∀ x ∈ schedule, x.1.Clock) :
    ({ w with store }).rehearse L schedule = { w.follow schedule with store } ∧
      (w.follow schedule).Reads (({ w with store }).rehearsed L schedule) := by
  induction schedule generalizing w L with
  | nil => exact ⟨rfl, reads⟩
  | cons x rest ih =>
    obtain ⟨now, id⟩ := x
    have reset : World.Reads { w with now } L := ⟨reads.shows_, reads.sound, reads.plain⟩
    obtain ⟨turned, further⟩ := reset.turnOn (clock _ (.head _)) store id
    obtain ⟨same, shown⟩ := ih further fun x there => clock x (.tail _ there)
    have rehearsed : ({ w with store }).rehearsed L ((now, id) :: rest) =
        ({ (({ w with now } : World α).advance id).1 with store }).rehearsed
          (({ w with now, store } : World α).turnOn L id).2 rest := congrArg (World.rehearsed · _ rest) turned
    rw [rehearsed]
    refine ⟨?_, shown⟩
    change (({ w with now, store } : World α).turnOn L id).1.rehearse _ rest = _
    rw [turned]
    exact same

theorem shows_of_rehearsal (shows_ : s.Shows L) (sound : L.Sound) (proper : ∀ c ∈ calls, c.Proper) (now : Moment)
    (benches : Nat) (bench : Calling → Nat) {schedule : List (Moment × String)} (clock : ∀ x ∈ schedule, x.1.Clock) :
    ((spread now s benches bench calls).follow schedule).jobs =
        ((spread now ⟨[], [], [], 0⟩ benches bench calls).rehearse L schedule).jobs ∧
      ((spread now s benches bench calls).follow schedule).store.Shows
        ((spread now ⟨[], [], [], 0⟩ benches bench calls).rehearsed L schedule) := by
  obtain ⟨same, reads⟩ := (reads_spread now shows_ sound benches bench proper).rehearse ⟨[], [], [], 0⟩ schedule clock
  exact ⟨(congrArg World.jobs same).symm, reads.shows_⟩

theorem finished_of_rehearsal (shows_ : s.Shows L) (sound : L.Sound)
    (proper : ∀ c ∈ calls, c.Proper) (now : Moment) {schedule : List (Moment × String)} (clock : ∀ x ∈ schedule, x.1.Clock)
    (rehearsed : ((World.opened now ⟨[], [], [], 0⟩ calls).rehearse L schedule).jobs.all isFinished) :
    ((World.opened now s calls).follow schedule).jobs.all isFinished := by
  obtain ⟨jobs, -⟩ := shows_of_rehearsal shows_ sound proper now 1 (fun _ => 0) clock
  change ((World.opened now s calls).follow schedule).jobs = _ at jobs
  rw [jobs]
  exact rehearsed

end World

namespace Ledger

structure Resubscribes (L : Ledger) (e : InvoicePaid) (a : Account) (b : Billing) (old : String) (product : Product) :
    Prop where
  price : L.productOf e.priceId = .ok (some product)
  payer : L.accountAt? (Query.keptEmail e.customerEmail) = some a
  record : L.billingOf? (.text a.user.id) = some b
  carries : b.subscriptionId = some old
  other : e.subscriptionId ≠ old
  free : ∀ x ∈ L.billings, x ≠ b → x.subscriptionId ≠ some e.subscriptionId

-- The payment has not come yet: the record carries the old subscription, and no record the new one.
structure Awaits (M L : Ledger) (e : InvoicePaid) (userId : String) (b : Billing) (old : String) : Prop where
  sound : M.Sound
  kin : M.Kin L
  record : ∃ c, M.billingOf? (.text userId) = some c ∧ c.subscriptionId = some old ∧
    ∀ product, c.paidFor product e = b.paidFor product e
  free : M.carrier? (.text e.subscriptionId) = none

-- The payment has come: its user has what has been paid for, and no record carries the old subscription.
structure Resubscribed (M : Ledger) (e : InvoicePaid) (userId : String) (b : Billing) (old : String) (product : Product) :
    Prop where
  record : M.billingOf? (.text userId) = some (b.paidFor product e)
  user : ∃ a, M.account? (.text userId) = some a ∧ a.user.currentProductId = some product.id
  gone : M.carrier? (.text old) = none

variable {L M : Ledger} {e : InvoicePaid} {a : Account} {b : Billing} {old : String} {product : Product}
  {order : List (Calling × Moment)}

theorem decision_of_carrier (follows : event.Follows old) (known : M.carrier? (.text old) = some c) (reading : Moment) :
    (∃ outcome, M.decision reading event = .rest outcome) ∨
      ∃ u t, M.decision reading event = .amend c u t ∧ u.subscriptionId = none := by
  cases event with
  | paid | ignored => exact follows.elim
  | paymentFailed e =>
    cases follows
    dsimp only [decision, decideFailed, onCarrier]
    rw [known]
    exact .inr ⟨_, _, rfl, rfl⟩
  | updated e =>
    cases follows
    rcases M.decideUpdated_cases e with rests | ⟨b, moved, target, updates⟩
    · exact .inl rests
    · cases Option.some.inj (known.symm.trans updates.known)
      exact .inr ⟨_, _, updates.decides, rfl⟩
  | deleted e =>
    cases follows
    dsimp only [decision, decideDeleted, onCarrier, cancelOn]
    rw [known]
    dsimp only
    cases M.defaultProduct with
    | error f => exact .inl ⟨_, rfl⟩
    | ok product => exact .inr ⟨_, _, rfl, rfl⟩

theorem Resubscribes.awaits (resubscribes : L.Resubscribes e a b old product) (sound : L.Sound) :
    L.Awaits L e a.user.id b old where
  sound
  kin := .refl L
  record := ⟨b, resubscribes.record, resubscribes.carries, fun _ => rfl⟩
  free := by
    refine carrier?_eq_none.2 fun x there carries => ?_
    by_cases own : x = b
    · rw [own, resubscribes.carries] at carries
      exact resubscribes.other (Option.some.inj carries).symm
    · exact resubscribes.free x there own carries

theorem serve_follows (sound : M.Sound) (known : M.carrier? (.text old) = some c) {x : Calling × Moment}
    (follows : x.1.event.Follows old) : (M.serve x).2 = M ∨
      ∃ u t, u.subscriptionId = none ∧ (M.serve x).2 = ((M.amend (.text c.id) u).finish (c.apply u) t).2 := by
  unfold serve Calling.decision
  rcases decision_of_carrier follows known x.1.reading with ⟨outcome, rests⟩ | ⟨u, t, amends, same⟩
  · rw [rests]
    exact .inl rfl
  · rw [amends, enact_amend (amend_meets_none sound (sound.carrier?_eq_some.1 known).1 same)]
    exact .inr ⟨u, t, same, rfl⟩

theorem Awaits.serve (awaits : M.Awaits L e userId b old) {x : Calling × Moment} (follows : x.1.event.Follows old) :
    (M.serve x).2.Awaits L e userId b old := by
  obtain ⟨c, found, carries, paid⟩ := awaits.record
  have known := awaits.sound.carrier?_eq_some.2 ⟨(awaits.sound.billingOf?_eq_some.1 found).1, carries⟩
  have whole : (M.serve x).2.Sound := enact_sound awaits.sound x.2 x.1.reading x.1.event
  have kin : (M.serve x).2.Kin L := (enact_kin _ _ _).trans awaits.kin
  rcases serve_follows awaits.sound known follows with stays | ⟨u, t, same, amended⟩
  · rw [stays]
    exact awaits
  · refine ⟨whole, kin, ⟨c.apply u, ?_, ?_, fun product => paid product⟩, ?_⟩
    · rw [amended, billingOf?_finish, billingOf?_amended found]
    · unfold Billing.apply
      rw [same]
      exact carries
    · rw [amended, carrier?_finish, carrier?_amend M _ _ same, awaits.free]
      rfl

theorem Awaits.after (awaits : M.Awaits L e userId b old) (follows : ∀ x ∈ order, x.1.event.Follows old) :
    (M.after order).Awaits L e userId b old := by
  induction order generalizing M with
  | nil => exact awaits
  | cons x rest ih => exact ih (awaits.serve (follows x (.head _))) fun y there => follows y (.tail _ there)

theorem Awaits.renews (awaits : M.Awaits L e userId b old) (found : M.billingOf? (.text userId) = some c) :
    M.amendClashes c (Reconcile.renewal c product e) = false := by
  obtain ⟨member, -⟩ := awaits.sound.billingOf?_eq_some.1 found
  refine List.any_eq_false.2 fun x there => ?_
  simp only [Bool.and_eq_true, decide_eq_true_eq, not_and]
  intro distinct shared
  rw [Billing.apply_renewal] at shared
  unfold Billing.shares Billing.paidFor at shared
  simp only [Bool.or_eq_true, Bool.and_eq_true, decide_eq_true_eq] at shared
  rcases shared with owner | ⟨-, subscription⟩
  · exact distinct (congrArg (fun b : Billing => Document.text b.id) (eq_of_owner awaits.sound member there owner).symm)
  · exact carrier?_eq_none.1 awaits.free x there subscription.symm

theorem Awaits.pays (awaits : M.Awaits L e a.user.id b old) (resubscribes : L.Resubscribes e a b old product)
    {x : Calling × Moment} (event : x.1.event = .paid e) : (M.serve x).2.Resubscribed e a.user.id b old product := by
  obtain ⟨c, found, carries, paid⟩ := awaits.record
  obtain ⟨member, owner⟩ := awaits.sound.billingOf?_eq_some.1 found
  obtain ⟨a', account, same⟩ := accountAt?_kin awaits.kin resubscribes.payer
  have user : M.account? (.text a.user.id) = some a' :=
    awaits.sound.account?_eq_some.2 ⟨List.mem_of_find?_eq_some account, same⟩
  have decides : x.1.decision M = .amend c (Reconcile.renewal c product e) (paidSequel a'.user product) := by
    unfold Calling.decision
    rw [event]
    dsimp only [decision, decidePaid]
    rw [productOf_congr awaits.kin.catalog, resubscribes.price]
    dsimp only
    rw [account]
    dsimp only [decideSettle]
    rw [same, found]
  have free : M.amendClashes c (Reconcile.renewal c product e) = false := awaits.renews found
  have record : (M.serve x).2.billingOf? (.text a.user.id) = some (b.paidFor product e) := by
    unfold Ledger.serve
    rw [decides, enact_amend free, billingOf?_finish, billingOf?_amended found, Billing.apply_renewal, paid]
  refine ⟨record, ?_, ?_⟩
  · unfold Ledger.serve
    rw [decides, enact_amend free, finish_snd, Billing.userId_apply, owner]
    unfold paidSequel
    dsimp only
    by_cases there : a'.user.currentProductId = some product.id
    · rw [if_pos there]
      exact ⟨a', user, there⟩
    · rw [if_neg there]
      dsimp only
      rw [account?_move]
      change ∃ moved, (M.account? (.text a.user.id)).map _ = some moved ∧ _
      rw [user, Option.map_some, if_pos (congrArg Document.text same)]
      exact ⟨_, rfl, rfl⟩
  · -- whoever carried the old subscription was the record that has been renewed
    have whole := enact_sound awaits.sound x.2 x.1.reading x.1.event
    refine carrier?_eq_none.2 fun y there old' => ?_
    unfold Ledger.serve at there record
    rw [decides, enact_amend free] at there
    rw [(finish_stays _ _ _).1] at there
    obtain ⟨z, before, rfl⟩ := List.mem_map.1 there
    by_cases here : Document.text z.id = .text c.id
    · rw [if_pos here, eq_of_apart awaits.sound.ids before member (Document.text.inj here), Billing.apply_renewal] at old'
      exact resubscribes.other (Option.some.inj old')
    · rw [if_neg here] at old'
      have shared := (awaits.sound.carrier?_eq_some.2 ⟨before, old'⟩).symm.trans
        (awaits.sound.carrier?_eq_some.2 ⟨member, carries⟩)
      exact here (congrArg (fun b : Billing => Document.text b.id) (Option.some.inj shared))

theorem Resubscribed.after (resubscribed : M.Resubscribed e userId b old product)
    (follows : ∀ x ∈ order, x.1.event.Follows old) : M.after order = M := by
  induction order with
  | nil => rfl
  | cons x rest ih =>
    have stays : (M.serve x).2 = M := by
      unfold Ledger.serve Calling.decision
      rw [decision_of_none (follows x (.head _)) resubscribed.gone]
      rfl
    change (M.serve x).2.after rest = M
    rw [stays]
    exact ih fun y there => follows y (.tail _ there)

theorem Resubscribes.after (resubscribes : L.Resubscribes e a b old product) (sound : L.Sound)
    (before behind : List (Calling × Moment)) {x : Calling × Moment} (event : x.1.event = .paid e)
    (follows : ∀ y ∈ before ++ behind, y.1.event.Follows old) :
    (L.after (before ++ x :: behind)).Resubscribed e a.user.id b old product := by
  have comes := (resubscribes.awaits sound).after fun y there => follows y (List.mem_append_left _ there)
  have paid := comes.pays resubscribes event
  rw [after_append]
  change (((L.after before).serve x).2.after behind).Resubscribed _ _ _ _ _
  rw [paid.after fun y there => follows y (List.mem_append_right _ there)]
  exact paid

end Ledger

namespace World

variable {calls : List Calling} {s : Store} {L : Ledger} {a : Account} {b : Billing} {old : String} {product : Product}

theorem shows_in_order (shows_ : s.Shows L) (sound : L.Sound) (ids : (calls.map (·.id)).Nodup)
    (proper : ∀ c ∈ calls, c.Proper) (now : Moment) {schedule : List (Moment × String)} (clock : ∀ x ∈ schedule, x.1.Clock)
    (finished : ((World.opened now s calls).follow schedule).jobs.all isFinished) :
    ∃ order : List (Calling × Moment), (order.map (·.1)).Perm calls ∧
      ((World.opened now s calls).follow schedule).store.Shows (L.after order) := by
  obtain ⟨f, steps, mirrors⟩ := (mirrors_opened now shows_ sound ids proper).follow ids schedule clock
  obtain ⟨order, all, -, after, -⟩ := (Floor.begins_opened L ids).in_order sound ids steps fun c member => by
    obtain ⟨t, known, -, stands⟩ := mirrors.jobs c member
    have ended := List.all_eq_true.1 finished t (List.mem_of_find?_eq_some known)
    generalize f.phase c.id = phase at stands ⊢
    generalize t.tickets = tickets at stands
    unfold isFinished at ended
    generalize t.stage = stage at stands ended
    cases stands with
    | @finished result => exact ⟨result, rfl⟩
    | _ => cases ended
  refine ⟨order, all, ?_⟩
  rw [after]
  exact mirrors.shows_

-- A payment for a new subscription outlives whatever is told about the old one meanwhile.
theorem resubscribed (shows_ : s.Shows L) (sound : L.Sound) (ids : (calls.map (·.id)).Nodup)
    (proper : ∀ c ∈ calls, c.Proper) (now : Moment) {schedule : List (Moment × String)} (clock : ∀ x ∈ schedule, x.1.Clock)
    (resubscribes : L.Resubscribes e a b old product) (paying : c ∈ calls) (event : c.event = .paid e)
    (follows : ∀ x ∈ calls, x ≠ c → x.event.Follows old)
    (finished : ((World.opened now s calls).follow schedule).jobs.all isFinished) :
    ∃ M, ((World.opened now s calls).follow schedule).store.Shows M ∧
      M.billingOf? (.text a.user.id) = some (b.paidFor product e) ∧
      ∃ served, M.account? (.text a.user.id) = some served ∧ served.user.currentProductId = some product.id := by
  obtain ⟨order, all, shown⟩ := shows_in_order shows_ sound ids proper now clock finished
  obtain ⟨x, there, rfl⟩ := List.mem_map.1 (all.mem_iff.2 paying)
  obtain ⟨before, behind, rfl⟩ := List.append_of_mem there
  -- the payment is called once, so the others are old news
  have once : ∀ y ∈ before ++ behind, y.1 ∈ calls ∧ y.1 ≠ x.1 := by
    intro y near
    have distinct := all.nodup_iff.2 (List.Nodup.of_map _ ids)
    rw [List.map_append, List.map_cons] at distinct
    have apart := (List.nodup_middle.1 distinct).notMem
    rw [← List.map_append] at apart
    refine ⟨all.mem_iff.1 (List.mem_map.2 ⟨y, ?_, rfl⟩), fun same => apart (List.mem_map.2 ⟨y, near, same⟩)⟩
    rcases List.mem_append.1 near with early | late
    · exact List.mem_append_left _ early
    · exact List.mem_append_right _ (.tail _ late)
  have paid := resubscribes.after sound before behind event fun y near =>
    follows y.1 (once y near).1 (once y near).2
  exact ⟨_, shown, paid.record, paid.user⟩

end World

namespace Shop

def renewed : InvoicePaid where
  head := ⟨none, "invoice.paid"⟩
  customerEmail := "ann@shop.com"
  customerId := "customer"
  priceId := "price-pro"
  subscriptionId := "new-sub"
  periodEnd := ⟨1893456000000000, some 0⟩

def payment : Calling := ⟨"payment", .paid renewed, ⟨0, some 0⟩⟩

def ending : Calling := ⟨"ending", .deleted cancellation, ⟨0, some 0⟩⟩

def overtaken : List (Moment × String) :=
  ["payment", "payment", "payment", "ending", "ending", "payment", "payment", "payment", "payment", "ending"].map
    fun id => (⟨0, some 0⟩, id)

theorem resubscribes_renewed : (ledger .active "team" "team").Resubscribes renewed (ann "team") (bill .active "team") "sub" proPlan where
  price := productOf_pro _ _ _
  payer := by decide +kernel
  record := rfl
  carries := rfl
  other := by decide
  free := by
    intro x there distinct
    exact absurd (List.mem_singleton.1 there) distinct

theorem payment_overtakes_ending :
    ∃ M, ((World.opened ⟨0, some 0⟩ (ledger .active "team" "team").store [payment, ending]).follow overtaken).store.Shows M ∧
      M.billingOf? (.text "ann") = some ((bill .active "team").paidFor proPlan renewed) ∧
      ∃ served, M.account? (.text "ann") = some served ∧ served.user.currentProductId = some "pro" := by
  have proper : ∀ c ∈ [payment, ending], c.Proper := by
    refine List.forall_mem_cons.2 ⟨⟨?_, by decide⟩, List.forall_mem_singleton.2 ⟨trivial, by decide⟩⟩
    change Moment.Proper ⟨1893456000000000, some 0⟩
    decide
  have clock : ∀ x ∈ overtaken, x.1.Clock := by decide
  have shown := shows_ .active "team" "team" (by decide)
  have rehearsed : ((World.opened ⟨0, some 0⟩ ⟨[], [], [], 0⟩ [payment, ending]).rehearse (ledger .active "team" "team")
      overtaken).jobs.all World.isFinished := by decide +kernel
  have finished := World.finished_of_rehearsal shown (sound _ _ _) proper ⟨0, some 0⟩ clock rehearsed
  refine World.resubscribed shown (sound _ _ _) (by decide) proper ⟨0, some 0⟩ clock resubscribes_renewed (.head _) rfl ?_ finished
  intro x there other
  rcases List.mem_cons.1 there with rfl | late
  · exact absurd rfl other
  · cases List.mem_singleton.1 late
    rfl

end Shop
end SubscriptionLedger
