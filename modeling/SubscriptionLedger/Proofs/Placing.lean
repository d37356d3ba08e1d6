import Mathlib.Logic.Relation
import SubscriptionLedger.Proofs.Floor

namespace SubscriptionLedger

namespace Program

variable {α : Type} {p p' : Program α}

theorem thenRelease_injective (same : p.thenRelease key = p'.thenRelease other) : p = p' := by
  induction p generalizing p' with
  | done a =>
    cases p' with
    | done | fail => cases same <;> rfl
    | release other next => cases next <;> cases same
    | _ => cases same
  | fail f =>
    cases p' with
    | done | fail => cases same <;> rfl
    | release other next => cases next <;> cases same
    | _ => cases same
  | ask q next ih =>
    cases p' with
    | ask q' next' =>
      unfold thenRelease at same
      obtain ⟨rfl, nexts⟩ := Program.ask.inj same
      have each : next = next' := funext fun reply => ih reply (congrFun (eq_of_heq nexts) reply)
      rw [each]
    | _ => cases same
  | pay r next ih =>
    cases p' with
    | pay r' next' =>
      unfold thenRelease at same
      obtain ⟨rfl, nexts⟩ := Program.pay.inj same
      have each : next = next' := funext fun reply => ih reply (congrFun nexts reply)
      rw [each]
    | _ => cases same
  | acquire k next ih =>
    cases p' with
    | acquire k' next' =>
      unfold thenRelease at same
      obtain ⟨rfl, nexts⟩ := Program.acquire.inj same
      have each : next = next' := funext fun reply => ih reply (congrFun nexts reply)
      rw [each]
    | _ => cases same
  | release k next ih =>
    cases p' with
    | release k' next' =>
      unfold thenRelease at same
      obtain ⟨rfl, nexts⟩ := Program.release.inj same
      rw [ih nexts]
    | _ => cases next <;> cases same

theorem holding_injective (same : holding key p = holding other p') : key = other ∧ p = p' := by
  obtain ⟨keys, nexts⟩ := Program.acquire.inj same
  exact ⟨keys, thenRelease_injective (congrFun nexts (.ok ()))⟩

theorem ofExcept_injective {r s : Except Fault α} (same : ofExcept r = ofExcept s) : r = s := by
  cases r <;> cases s <;> cases same <;> rfl

end Program

open Reconcile

inductive Calling.Kind (L₀ : Ledger) (c : Calling) : Prop where
  | idle (program : c.program = .done r) (decides : ∀ M, c.decision M = .rest (.ok r))
  | payment {e : InvoicePaid} (event : c.event = .paid e)
  | record {kind : EventKind} {subscriptionId : String} {work : Billing → Program Reconciliation} {d : Billing → Decision}
    (on : OnRecord L₀ c kind subscriptionId work d)

theorem Calling.kind (L₀ : Ledger) (c : Calling) : c.Kind L₀ := by
  obtain ⟨id, event, reading⟩ := c
  cases event with
  | paid e => exact .payment rfl
  | ignored e => exact .idle rfl fun _ => rfl
  | paymentFailed e =>
    refine .record ⟨rfl, fun _ _ => rfl, fun M _ b found => ?_⟩
    exact Ledger.settles_update found fun _ _ => rfl
  | updated e =>
    refine .record (d := L₀.updateOn e) ⟨rfl, fun M kin => ?_, fun M kin b found => ?_⟩
    · exact congrArg (M.onCarrier _ _) (funext (Ledger.updateOn_congr kin.catalog e))
    · rw [← Ledger.updateOn_congr kin.catalog e b]
      exact Ledger.settles_updated found e
  | deleted e =>
    refine .record (d := L₀.cancelOn reading e) ⟨rfl, fun M kin => ?_, fun M kin b found => ?_⟩
    · exact congrArg (M.onCarrier _ _) (funext (Ledger.cancelOn_congr kin.catalog reading e))
    · rw [← Ledger.cancelOn_congr kin.catalog reading e b]
      exact Ledger.settles_deleted found reading e

namespace Calling

variable {L₀ R M : Ledger} {order : List (Calling × Moment)} {pending : String → Option String} {c : Calling}

theorem program_paid (event : c.event = .paid e) : c.program = paid e := by
  unfold program
  rw [event]
  rfl

theorem decision_paid (event : c.event = .paid e) (M : Ledger) : c.decision M = M.decidePaid e := by
  unfold decision
  rw [event]
  rfl

theorem rests_price (event : c.event = .paid e) (kin : M.Kin L₀) (failed : L₀.productOf e.priceId = .error f) :
    c.decision M = .rest (.error f) := by
  rw [decision_paid event]
  unfold Ledger.decidePaid
  rw [Ledger.productOf_congr kin.catalog, failed]

theorem rests_unpriced (event : c.event = .paid e) (kin : M.Kin L₀) (unknown : L₀.productOf e.priceId = .ok none) :
    c.decision M = .rest (.ok (noop .invoicePaid "unknown price id")) := by
  rw [decision_paid event]
  unfold Ledger.decidePaid
  rw [Ledger.productOf_congr kin.catalog, unknown]

theorem rests_unknown (event : c.event = .paid e) (kin : M.Kin L₀) (price : L₀.productOf e.priceId = .ok (some product))
    (unknown : L₀.accountAt? (Query.keptEmail e.customerEmail) = none) :
    c.decision M = .rest (.error (.payerUnknown e.customerEmail e.subscriptionId)) := by
  rw [decision_paid event]
  unfold Ledger.decidePaid
  rw [Ledger.productOf_congr kin.catalog, price]
  dsimp only
  rw [Ledger.accountAt?_eq_none_kin kin unknown]

end Calling

section Outside

variable {L₀ R : Ledger} {order : List (Calling × Moment)} {pending : String → Option String} {c : Calling}

theorem OnRecord.missed (on : OnRecord L₀ c kind subscriptionId work works) (kin : M.Kin L₀)
    (none : M.carrier? (.text subscriptionId) = none) : c.decision M = .rest (.ok (unknownSubscription kind)) := by
  rw [on.decides M kin]
  unfold Ledger.onCarrier
  rw [none]

theorem Outside.ask (outside : Outside L₀ order R c p) (asks : p = .ask q next) (sound : R.Sound) (kin : R.Kin L₀)
    (ahead : L₀.after order = R.ahead pending) : q.Reads ∧ Outside L₀ order R c (next (R.look q)) := by
  have after := Ledger.after_kin L₀ order
  cases outside with
  | start =>
    cases c.kind L₀ with
    | idle program =>
      rw [program] at asks
      cases asks
    | @payment e event =>
      rw [Calling.program_paid event, paid_eq] at asks
      cases asks
      refine ⟨trivial, ?_⟩
      have look : R.look (.productByPrice e.priceId) = L₀.productOf e.priceId := Ledger.productOf_congr kin.catalog _
      cases price : L₀.productOf e.priceId with
      | error f =>
        rw [look.trans price]
        exact .ended (r := .error f) (Ledger.visits_here (Calling.rests_price event after price))
      | ok found =>
        rw [look.trans price]
        cases found with
        | none => exact .ended (r := .ok _) (Ledger.visits_here (Calling.rests_unpriced event after price))
        | some product => exact .payer event price
    | @record kind subscriptionId work works on =>
      rw [on.program, withRecord_eq] at asks
      cases asks
      refine ⟨trivial, ?_⟩
      cases carrier : R.carrier? (.text subscriptionId) with
      | none =>
        have missed : (L₀.after order).carrier? (.text subscriptionId) = none := by
          rw [ahead]
          exact carrier
        rw [show R.look (.billingBySubscription subscriptionId) = .ok none from congrArg Except.ok carrier]
        exact .ended (r := .ok _) (Ledger.visits_here (on.missed after missed))
      | some b =>
        obtain ⟨member, carries⟩ := sound.carrier?_eq_some.1 carrier
        rw [show R.look (.billingBySubscription subscriptionId) = .ok (some b) from congrArg Except.ok carrier]
        exact .door (.record on (.inl ⟨b, member, rfl, carries⟩))
  | @payer e product event price =>
    cases asks
    refine ⟨trivial, ?_⟩
    cases found : R.accountAt? (Query.keptEmail e.customerEmail) with
    | none =>
      have unknown := Ledger.accountAt?_eq_none_kin kin.symm found
      rw [show R.look (.userByEmail e.customerEmail) = .ok none by rw [Ledger.look, Ledger.ask, found]; rfl]
      exact .ended (r := .error _) (Ledger.visits_here (Calling.rests_unknown event after price unknown))
    | some a =>
      obtain ⟨a', account, same⟩ := Ledger.accountAt?_kin kin.symm found
      rw [show R.look (.userByEmail e.customerEmail) = .ok (some a.user) by rw [Ledger.look, Ledger.ask, found]; rfl]
      exact .door (.payer event price account same)
  | door => cases asks
  | @ended result => cases result <;> cases asks

theorem Outside.knock (outside : Outside L₀ order R c p) (knocks : p = .holding key work) : AtDoor L₀ order R c key work := by
  cases outside with
  | start =>
    cases c.kind L₀ with
    | idle program =>
      rw [program] at knocks
      cases knocks
    | @payment e event =>
      rw [Calling.program_paid event] at knocks
      cases knocks
    | record on =>
      rw [on.program, withRecord_eq] at knocks
      cases knocks
  | payer => cases knocks
  | door seen =>
    obtain ⟨rfl, rfl⟩ := Program.holding_injective knocks
    exact seen
  | @ended result => cases result <;> cases knocks

theorem Outside.stop (outside : Outside L₀ order R c p) (ends : p = .ofExcept result) :
    L₀.Visits order fun M => c.decision M = .rest result := by
  cases outside with
  | start =>
    cases c.kind L₀ with
    | @idle r program decides =>
      rw [program] at ends
      have same : result = .ok r := (Program.ofExcept_injective (r := .ok r) ends).symm
      rw [same]
      exact Ledger.visits_here (decides _)
    | @payment e event =>
      rw [Calling.program_paid event] at ends
      cases result <;> cases ends
    | record on =>
      rw [on.program, withRecord_eq] at ends
      cases result <;> cases ends
  | payer => cases result <;> cases ends
  | door => cases result <;> cases ends
  | ended visits =>
    rw [← Program.ofExcept_injective ends]
    exact visits

end Outside

section Inside

variable {L₀ R : Ledger} {order : List (Calling × Moment)} {pending : String → Option String} {c : Calling}

theorem OnRecord.deciding (on : OnRecord L₀ c kind subscriptionId work works) (sound : R.Sound) (kin : R.Kin L₀)
    (found : R.billingOf? (.text key) = some b) (carries : b.subscriptionId = some subscriptionId) :
    Deciding L₀ order R c key (underRecordKey kind subscriptionId key work) := by
  obtain ⟨-, rfl⟩ := sound.billingOf?_eq_some.1 found
  refine ⟨works b, Ledger.settles_underRecordKey found carries (on.settles R kin b found), .inl fun M whole near agrees => ?_⟩
  obtain ⟨there, -⟩ := whole.billingOf?_eq_some.1 (agrees.record.trans found)
  have carrier := whole.carrier?_eq_some.2 ⟨there, carries⟩
  rw [on.decides M near]
  unfold Ledger.onCarrier
  rw [carrier]

theorem OnRecord.unknown (on : OnRecord L₀ c kind subscriptionId work works)
    (gone : L₀.Visits order fun M => M.carrier? (.text subscriptionId) = none)
    (other : ∀ b, R.billingOf? (.text key) = some b → b.subscriptionId ≠ some subscriptionId) :
    Deciding L₀ order R c key (underRecordKey kind subscriptionId key work) := by
  refine ⟨.rest (.ok (unknownSubscription kind)), ?_, .inr ⟨_, rfl, Ledger.visits_imp gone fun M kin none => on.missed kin none⟩⟩
  refine Ledger.settles_query (q := .billingByUser key) rfl rfl ?_
  cases found : R.billingOf? (.text key) with
  | none => exact .done
  | some b =>
    dsimp only
    rw [if_neg (other b found)]
    exact .done

theorem AtDoor.enter (seen : AtDoor L₀ order R c key work) (sound : R.Sound) (kin : R.Kin L₀) :
    Deciding L₀ order R c key work := by
  cases seen with
  | @payer product a e found event price account same =>
    obtain ⟨here, known, named⟩ := Ledger.accountAt?_kin kin account
    have member := List.mem_of_find?_eq_some known
    have owner := named.trans same
    refine ⟨R.decideSettle here.user product e, Ledger.settles_paidUnderKey sound member owner, .inl fun M whole near agrees => ?_⟩
    obtain ⟨there, known', named'⟩ := Ledger.accountAt?_kin near account
    have mine : R.account? (.text found.id) = some here := sound.account?_eq_some.2 ⟨member, owner⟩
    have theirs : M.account? (.text found.id) = some there :=
      whole.account?_eq_some.2 ⟨List.mem_of_find?_eq_some known', named'.trans same⟩
    cases Option.some.inj (theirs.symm.trans (agrees.account.trans mine))
    rw [Calling.decision_paid event]
    unfold Ledger.decidePaid
    rw [Ledger.productOf_congr near.catalog, price]
    dsimp only
    rw [known']
    unfold Ledger.decideSettle
    dsimp only
    rw [owner, agrees.record]
  | @record kind subscriptionId work works userId on seen =>
    rcases seen with ⟨b, member, owner, carries⟩ | gone
    · exact on.deciding sound kin (sound.billingOf?_eq_some.2 ⟨member, owner⟩) carries
    · by_cases here : ∃ b, R.billingOf? (.text key) = some b ∧ b.subscriptionId = some subscriptionId
      · obtain ⟨b, found, carries⟩ := here
        exact on.deciding sound kin found carries
      · exact on.unknown gone fun b found carries => here ⟨b, found, carries⟩

end Inside

section Steps

variable {calls : List Calling} {L₀ R : Ledger} {f : Floor} {order order' : List (Calling × Moment)}
  {pending : String → Option String} {c : Calling} {phase : Phase} {key : String} {now : Moment}

theorem Ordered.turn (ordered : Ordered calls L₀ f order pending) (ids : (calls.map (·.id)).Nodup) (member : c ∈ calls)
    (here : f.phase c.id = before) (goes : Goes calls L₀ order order' c) (same : L₀.after order' = L₀.after order)
    (holds : ∀ key, phase.Holds key → before.Holds key ∨ ∀ other ∈ calls, ¬ (f.phase other.id).Holds key)
    (owed : ∀ userId plan, pending userId = some plan → before.Holds userId → phase.Holds userId)
    (fits : Fits L₀ order' f.ledger pending c phase) : Ordered calls L₀ (f.put c f.ledger phase) order' pending := by
  subst here
  refine ordered.put ids member goes ordered.sound (.refl _) (same.trans ordered.ahead) holds ?_
    (fun key _ => ⟨.refl _ key, rfl⟩) (fun b there s carries => .inl ⟨b, there, rfl, carries⟩) fits
  intro userId plan waits
  by_cases here : (f.phase c.id).Holds userId
  · exact .inl (owed userId plan waits here)
  · exact .inr ⟨waits, here⟩

theorem Ordered.write (ordered : Ordered calls L₀ f order pending) (ids : (calls.map (·.id)).Nodup) (member : c ∈ calls)
    (here : f.phase c.id = .inside key work) (goes : Goes calls L₀ order order' c) (wait : Option String) (sound : R.Sound)
    (kin : R.Kin f.ledger) (ahead : L₀.after order' = R.ahead (Function.update pending key wait))
    (own : ∀ other, other ≠ key → R.Matches f.ledger other)
    (rows : ∀ b ∈ f.ledger.billings, ∀ s, b.subscriptionId = some s →
      (∃ b' ∈ R.billings, b'.userId = b.userId ∧ b'.subscriptionId = some s) ∨
        L₀.Visits order' fun M => M.carrier? (.text s) = none)
    (fits : Fits L₀ order' R (Function.update pending key wait) c (.inside key rest)) :
    Ordered calls L₀ (f.put c R (.inside key rest)) order' (Function.update pending key wait) := by
  refine ordered.put ids member goes sound kin ahead ?_ ?_ ?_ rows fits
  · rintro other rfl
    rw [here]
    exact .inl rfl
  · intro userId plan waits
    by_cases same : userId = key
    · exact .inl same.symm
    · rw [Function.update_of_ne same] at waits
      rw [here]
      exact .inr ⟨waits, fun inside => same inside.symm⟩
  · intro other outside
    rw [here] at outside
    have distinct : other ≠ key := fun same => outside same.symm
    exact ⟨own other distinct, Function.update_of_ne distinct ..⟩

theorem Ordered.ask (ordered : Ordered calls L₀ f order pending) (ids : (calls.map (·.id)).Nodup) (member : c ∈ calls)
    (here : f.phase c.id = .outside (.ask q next)) :
    Ordered calls L₀ (f.put c (f.ledger.ask now q).2 (.outside (next (f.ledger.ask now q).1))) order pending := by
  have fits := ordered.fits c member
  rw [here] at fits
  obtain ⟨fresh, outside⟩ := fits
  obtain ⟨reads, later⟩ := outside.ask rfl ordered.sound ordered.kin ordered.ahead
  rw [f.ledger.ask_of_reads now reads]
  exact ordered.turn ids member here (ordered.stays c) rfl (fun _ none => none.elim) (fun _ _ _ none => none.elim)
    ⟨fresh, later⟩

theorem Ordered.stop (ordered : Ordered calls L₀ f order pending) (ids : (calls.map (·.id)).Nodup) (member : c ∈ calls)
    (here : f.phase c.id = .outside (.ofExcept result)) (clock : now.Clock) :
    ∃ order', Ordered calls L₀ (f.put c f.ledger (.finished result)) order' pending := by
  have fits := ordered.fits c member
  rw [here] at fits
  obtain ⟨fresh, outside⟩ := fits
  obtain ⟨order', grows, same, told⟩ := Ledger.grows_rest (outside.stop rfl) now
  exact ⟨order', ordered.turn ids member here (ordered.grows member fresh clock grows) same (fun _ none => none.elim)
    (fun _ _ _ none => none.elim) told⟩

theorem Ordered.knock (ordered : Ordered calls L₀ f order pending) (ids : (calls.map (·.id)).Nodup) (member : c ∈ calls)
    (here : f.phase c.id = .outside (.holding key work)) :
    Ordered calls L₀ (f.put c f.ledger (.door key work)) order pending := by
  have fits := ordered.fits c member
  rw [here] at fits
  obtain ⟨fresh, outside⟩ := fits
  exact ordered.turn ids member here (ordered.stays c) rfl (fun _ none => none.elim) (fun _ _ _ none => none.elim)
    ⟨fresh, outside.knock rfl⟩

theorem Ordered.enter (ordered : Ordered calls L₀ f order pending) (ids : (calls.map (·.id)).Nodup) (member : c ∈ calls)
    (here : f.phase c.id = .door key work) (free : ∀ other ∈ calls, ¬ (f.phase other.id).Holds key) :
    Ordered calls L₀ (f.put c f.ledger (.inside key work)) order pending := by
  have fits := ordered.fits c member
  rw [here] at fits
  obtain ⟨fresh, seen⟩ := fits
  have waits : pending key = none := by
    cases owed : pending key with
    | none => rfl
    | some plan =>
      obtain ⟨other, there, inside⟩ := ordered.owed key plan owed
      exact absurd inside (free other there)
  refine ordered.turn ids member here (ordered.stays c) rfl ?_ (fun _ _ _ none => none.elim)
    (.inl ⟨fresh, waits, seen.enter ordered.sound ordered.kin⟩)
  rintro other rfl
  exact .inr free

theorem settles_over (settles : Ledger.Settles R key (.ofExcept result) d) : d = .rest result := by
  cases result <;> cases settles <;> rfl

theorem Closing.ended (closing : Closing R wait key (.ofExcept result) told) : wait = none ∧ told = result := by
  rcases closing with ⟨free, settles⟩ | ⟨t, b, owner, follows, rfl, moves⟩
  · cases settles_over settles
    exact ⟨free, rfl⟩
  · unfold Sequel.follow at follows
    unfold Ledger.finish
    cases target : t.target with
    | none =>
      rw [target] at follows moves
      rw [ite_self] at moves
      exact ⟨moves, (Program.ofExcept_injective (s := .ok (applied t.kind b)) follows).symm⟩
    | some plan =>
      rw [target] at follows
      cases result <;> cases follows

theorem Ordered.decided (ordered : Ordered calls L₀ f order pending) (waits : pending key = none)
    (bound : c.Bound L₀ key f.ledger d) : c.decision (L₀.after order) = d := by
  rw [ordered.ahead]
  exact bound _ (Ledger.ahead_sound ordered.sound pending) ((Ledger.ahead_kin _ _).trans ordered.kin)
    (Ledger.ahead_matches waits f.ledger)

theorem Ordered.leave (ordered : Ordered calls L₀ f order pending) (ids : (calls.map (·.id)).Nodup) (member : c ∈ calls)
    (here : f.phase c.id = .inside key (.ofExcept result)) (clock : now.Clock) :
    ∃ order', Ordered calls L₀ (f.put c f.ledger (.finished result)) order' pending := by
  have fits := ordered.fits c member
  rw [here] at fits
  have leaves : pending key = none → ∀ userId plan, pending userId = some plan →
      (Phase.inside key (.ofExcept result)).Holds userId → (Phase.finished result).Holds userId := by
    rintro none userId plan waits rfl
    rw [none] at waits
    cases waits
  rcases fits with ⟨fresh, waits, d, settles, bound⟩ | ⟨told, tells, closing⟩
  · cases settles_over settles
    have visits : L₀.Visits order fun M => c.decision M = .rest result := by
      rcases bound with bound | ⟨outcome, rest, gone⟩
      · exact Ledger.visits_here (ordered.decided waits bound)
      · cases rest
        exact gone
    obtain ⟨order', grows, same, tells⟩ := Ledger.grows_rest visits now
    exact ⟨order', ordered.turn ids member here (ordered.grows member fresh clock grows) same (fun _ none => none.elim)
      (leaves waits) tells⟩
  · obtain ⟨waits, rfl⟩ := closing.ended
    exact ⟨order, ordered.turn ids member here (ordered.stays c) rfl (fun _ none => none.elim) (leaves waits) tells⟩

theorem Ordered.fails (ordered : Ordered calls L₀ f order pending) (ids : (calls.map (·.id)).Nodup) (member : c ∈ calls)
    (here : f.phase c.id = .inside key work) (fresh : c ∉ order.map (·.1)) (waits : pending key = none) (clock : now.Clock)
    (served : (L₀.after order).serve (c, now) = (.error fault, L₀.after order))
    (settles : Ledger.Settles f.ledger key rest (.rest (.error fault))) :
    Ordered calls L₀ (f.put c f.ledger (.inside key rest)) (order ++ [(c, now)]) pending := by
  have tells := L₀.tells_append order c now
  rw [served] at tells
  refine ordered.turn ids member here (ordered.grows member fresh clock (L₀.grows_append order (c, now))) ?_
    (fun _ inside => .inl inside) (fun _ _ _ inside => inside) (.inr ⟨.error fault, tells, .inl ⟨waits, settles⟩⟩)
  rw [Ledger.after_snoc, served]

-- A write has its place at once, and the move that comes after it is waited for.
theorem Ordered.writes (ordered : Ordered calls L₀ f order pending) (ids : (calls.map (·.id)).Nodup) (member : c ∈ calls)
    (here : f.phase c.id = .inside key work) (fresh : c ∉ order.map (·.1)) (waits : pending key = none) (clock : now.Clock)
    (sound : R.Sound) (kin : R.Kin f.ledger) (owner : b.userId = key)
    (served : (L₀.after order).serve (c, now) = (R.ahead pending).finish b t)
    (own : ∀ other, other ≠ key → R.Matches f.ledger other)
    (rows : ∀ b ∈ f.ledger.billings, ∀ s, b.subscriptionId = some s →
      (∃ b' ∈ R.billings, b'.userId = b.userId ∧ b'.subscriptionId = some s) ∨ R.carrier? (.text s) = none) :
    ∃ wait, Ordered calls L₀ (f.put c R (.inside key (t.follow b))) (order ++ [(c, now)]) (Function.update pending key wait) := by
  subst owner
  have ends := Ledger.finish_ahead waits R t
  have tells := L₀.tells_append order c now
  rw [served, ends] at tells
  have after : L₀.after (order ++ [(c, now)]) = R.ahead (Function.update pending b.userId
      (if (R.account? (.text b.userId)).isSome then t.target else none)) := by
    rw [Ledger.after_snoc, served, ends]
  refine ⟨_, ordered.write ids member here (ordered.grows member fresh clock (L₀.grows_append order (c, now))) _ sound kin
    after own ?_ (.inr ⟨_, tells, .inr ⟨t, b, rfl, rfl, rfl, Function.update_self ..⟩⟩)⟩
  intro x there s carries
  rcases rows x there s carries with kept | gone
  · exact .inl kept
  · refine .inr (Ledger.visits_here ?_)
    rw [after]
    exact gone

theorem Ordered.amends (ordered : Ordered calls L₀ f order pending) (ids : (calls.map (·.id)).Nodup) (member : c ∈ calls)
    (here : f.phase c.id = .inside key work) (fresh : c ∉ order.map (·.1)) (waits : pending key = none) (clock : now.Clock)
    {b : Billing} {next : Except Fault (Query.updateBilling b.id u).Reply → Program Reconciliation}
    (found : f.ledger.billingOf? (.text key) = some b) (follows : ∀ new : Billing, new.userId = key → next (.ok new) = t.follow new)
    (stops : ∀ fault, next (.error fault) = .fail fault) (decides : c.decision (L₀.after order) = .amend b u t) :
    ∃ order' pending', Ordered calls L₀ (f.put c (f.ledger.ask now (.updateBilling b.id u)).2
      (.inside key (next (f.ledger.ask now (.updateBilling b.id u)).1))) order' pending' := by
  obtain ⟨there, owner⟩ := ordered.sound.billingOf?_eq_some.1 found
  have known := ordered.sound.billing?_eq_some.2 ⟨there, rfl⟩
  -- the update meets the same records after the order, for a move that is waited for touches no record
  have served : (L₀.after order).serve (c, now) = if f.ledger.amendClashes b u then (.error Store.violation, L₀.after order)
      else ((f.ledger.amend (.text b.id) u).ahead pending).finish (b.apply u) t := by
    unfold Ledger.serve
    rw [decides, ordered.ahead]
    rfl
  have kept := Ledger.ask_sound ordered.sound now (.updateBilling b.id u)
  rw [Ledger.ask_update known] at kept ⊢
  by_cases clash : f.ledger.amendClashes b u
  · rw [if_pos clash] at served ⊢
    refine ⟨_, _, ordered.fails ids member here fresh waits clock served ?_⟩
    rw [show next (.error Store.violation) = _ from stops _]
    exact .fail
  · rw [if_neg clash] at kept served ⊢
    rw [show next (.ok (b.apply u)) = _ from follows _ owner]
    obtain ⟨wait, moved⟩ := ordered.writes (b := b.apply u) ids member here fresh waits clock kept (Ledger.amend_kin _ _ u)
      owner served (fun other distinct => Ledger.amend_matches ordered.sound there (by rw [owner]; exact distinct))
      (Ledger.amend_rows ordered.sound there u)
    exact ⟨_, _, moved⟩

theorem Ordered.creates (ordered : Ordered calls L₀ f order pending) (ids : (calls.map (·.id)).Nodup) (member : c ∈ calls)
    (here : f.phase c.id = .inside key work) (fresh : c ∉ order.map (·.1)) (waits : pending key = none) (clock : now.Clock)
    {new : NewBilling} {next : Except Fault (Query.createBilling new).Reply → Program Reconciliation}
    (owner : new.userId = key) (follows : ∀ b : Billing, b.userId = key → next (.ok b) = t.follow b)
    (stops : ∀ fault, Ledger.Settles f.ledger key (next (.error fault)) (.rest (.error fault)))
    (decides : c.decision (L₀.after order) = .create new t) :
    ∃ order' pending', Ordered calls L₀ (f.put c (f.ledger.ask now (.createBilling new)).2
      (.inside key (next (f.ledger.ask now (.createBilling new)).1))) order' pending' := by
  have served : (L₀.after order).serve (c, now) = if f.ledger.createClashes now new
      then (.error (.duplicateBilling new.userId), L₀.after order)
      else ((f.ledger.add (f.ledger.opened now new)).ahead pending).finish (f.ledger.opened now new) t := by
    unfold Ledger.serve
    rw [decides, ordered.ahead]
    rfl
  have kept := Ledger.ask_sound ordered.sound now (.createBilling new)
  rw [Ledger.ask_create] at kept ⊢
  by_cases clash : f.ledger.createClashes now new
  · rw [if_pos clash] at served ⊢
    exact ⟨_, _, ordered.fails ids member here fresh waits clock served (stops _)⟩
  · rw [if_neg clash] at kept served ⊢
    rw [show next (.ok (f.ledger.opened now new)) = _ from follows _ owner]
    obtain ⟨wait, moved⟩ := ordered.writes (b := f.ledger.opened now new) ids member here fresh waits clock kept
      (Ledger.add_kin _ _) owner served (fun other distinct => Ledger.add_matches (by rw [← owner] at distinct; exact distinct))
      (fun b there s carries => .inl ⟨b, List.mem_append_left _ there, rfl, carries⟩)
    exact ⟨_, _, moved⟩

theorem Ordered.decide (ordered : Ordered calls L₀ f order pending) (ids : (calls.map (·.id)).Nodup) (member : c ∈ calls)
    (here : f.phase c.id = .inside key (.ask q next)) (fresh : c ∉ order.map (·.1)) (waits : pending key = none)
    (clock : now.Clock) (deciding : Deciding L₀ order f.ledger c key (.ask q next)) :
    ∃ order' pending', Ordered calls L₀ (f.put c (f.ledger.ask now q).2 (.inside key (next (f.ledger.ask now q).1)))
      order' pending' := by
  obtain ⟨d, settles, bound⟩ := deciding
  -- who found nothing to do makes no write
  have decided : (∃ outcome, d = .rest outcome) ∨ c.decision (L₀.after order) = d := by
    rcases bound with bound | ⟨outcome, rest, -⟩
    · exact .inr (ordered.decided waits bound)
    · exact .inl ⟨outcome, rest⟩
  cases settles with
  | read own stops goesOn =>
    rw [f.ledger.ask_of_reads now own.reads]
    exact ⟨order, pending, ordered.turn ids member here (ordered.stays c) rfl (fun _ inside => .inl inside)
      (fun _ _ _ inside => inside) (.inl ⟨fresh, waits, d, goesOn, bound⟩)⟩
  | amend found follows stops =>
    rcases decided with ⟨outcome, rest⟩ | decides
    · cases rest
    · exact ordered.amends ids member here fresh waits clock found follows stops decides
  | create absent owner follows stops =>
    rcases decided with ⟨outcome, rest⟩ | decides
    · cases rest
    · exact ordered.creates ids member here fresh waits clock owner follows stops decides

theorem Ordered.close (ordered : Ordered calls L₀ f order pending) (ids : (calls.map (·.id)).Nodup) (member : c ∈ calls)
    (here : f.phase c.id = .inside key (.ask q next)) (tells : L₀.Tells order c result)
    (closing : Closing f.ledger (pending key) key (.ask q next) result) :
    ∃ pending', Ordered calls L₀ (f.put c (f.ledger.ask now q).2 (.inside key (next (f.ledger.ask now q).1))) order pending' := by
  rcases closing with ⟨waits, settles⟩ | ⟨t, b, owner, follows, comes, moves⟩
  · cases settles with
    | read own stops goesOn =>
      rw [f.ledger.ask_of_reads now own.reads]
      exact ⟨pending, ordered.turn ids member here (ordered.stays c) rfl (fun _ inside => .inl inside)
        (fun _ _ _ inside => inside) (.inr ⟨result, tells, .inl ⟨waits, goesOn⟩⟩)⟩
  · unfold Sequel.follow at follows
    unfold Ledger.finish at comes
    cases target : t.target with
    | none =>
      rw [target] at follows
      cases follows
    | some plan =>
      rw [target] at follows comes moves
      cases follows
      subst owner
      rw [Ledger.ask_assign]
      cases known : f.ledger.account? (.text b.userId) with
      | none =>
        rw [known] at comes moves
        refine ⟨pending, ordered.turn ids member here (ordered.stays c) rfl (fun _ inside => .inl inside)
          (fun _ _ _ inside => inside) (.inr ⟨result, tells, .inl ⟨moves, ?_⟩⟩)⟩
        rw [comes]
        exact .fail
      | some a =>
        rw [known] at comes moves
        refine ⟨_, ordered.write ids member here (ordered.stays c) none (Ledger.move_sound ordered.sound)
          (Ledger.move_kin _ _ plan) ?_ (fun other distinct => Ledger.move_matches distinct)
          (fun b there s carries => .inl ⟨b, there, rfl, carries⟩)
          (.inr ⟨result, tells, .inl ⟨Function.update_self .., ?_⟩⟩)⟩
        · rw [Ledger.move_ahead moves]
          exact ordered.ahead
        · rw [comes]
          exact .done

theorem Ordered.step (ordered : Ordered calls L₀ f order pending) (ids : (calls.map (·.id)).Nodup) (step : f.Step calls f') :
    ∃ order' pending', Ordered calls L₀ f' order' pending' := by
  cases step with
  | ask member here => exact ⟨_, _, ordered.ask ids member here⟩
  | stop member here clock =>
    obtain ⟨order', stopped⟩ := ordered.stop ids member here clock
    exact ⟨order', _, stopped⟩
  | knock member here => exact ⟨_, _, ordered.knock ids member here⟩
  | enter member here free => exact ⟨_, _, ordered.enter ids member here free⟩
  | @work c key q next now member here clock =>
    have fits := ordered.fits c member
    rw [here] at fits
    rcases fits with ⟨fresh, waits, deciding⟩ | ⟨result, tells, closing⟩
    · exact ordered.decide ids member here fresh waits clock deciding
    · exact ⟨order, ordered.close ids member here tells closing⟩
  | leave member here clock =>
    obtain ⟨order', left⟩ := ordered.leave ids member here clock
    exact ⟨order', _, left⟩

structure Floor.Begins (calls : List Calling) (L : Ledger) (f : Floor) : Prop where
  ledger : f.ledger = L
  phase : ∀ c ∈ calls, f.phase c.id = .outside c.program

theorem Floor.Begins.ordered (begins : f.Begins calls L₀) (sound : L₀.Sound) : Ordered calls L₀ f [] fun _ => none := by
  obtain ⟨rfl, phase⟩ := begins
  refine ⟨sound, .refl _, (Ledger.ahead_nothing (fun _ => rfl) _).symm, List.nodup_nil, ?_, ?_, ?_, ?_⟩
  · intro x none
    exact absurd none List.not_mem_nil
  · intro userId plan waits
    cases waits
  · intro c member other _ key inside
    rw [phase c member] at inside
    exact inside.elim
  · intro c member
    rw [phase c member]
    exact ⟨List.not_mem_nil, .start⟩

def Floor.Runs (calls : List Calling) : Floor → Floor → Prop := Relation.ReflTransGen (Floor.Step calls)

theorem Ordered.runs (ordered : Ordered calls L₀ f order pending) (ids : (calls.map (·.id)).Nodup)
    (runs : Floor.Runs calls f f') : ∃ order' pending', Ordered calls L₀ f' order' pending' := by
  induction runs with
  | refl => exact ⟨order, pending, ordered⟩
  | tail _ step ih =>
    obtain ⟨order', pending', ordered⟩ := ih
    exact ordered.step ids step

-- When everyone has finished, the order is one of all calls, and nobody is waited for.
theorem Ordered.finished (ordered : Ordered calls L₀ f order pending) (ids : (calls.map (·.id)).Nodup)
    (finished : ∀ c ∈ calls, ∃ result, f.phase c.id = .finished result) :
    (order.map (·.1)).Perm calls ∧ L₀.after order = f.ledger ∧
      ∀ c ∈ calls, ∀ result, f.phase c.id = .finished result → L₀.Tells order c result := by
  have tells : ∀ c ∈ calls, ∀ result, f.phase c.id = .finished result → L₀.Tells order c result := by
    intro c member result ends
    have fits := ordered.fits c member
    rw [ends] at fits
    exact fits
  refine ⟨(List.perm_ext_iff_of_nodup ordered.once (List.Nodup.of_map _ ids)).2 fun c => ⟨?_, ?_⟩, ?_, tells⟩
  · intro placed
    obtain ⟨x, there, rfl⟩ := List.mem_map.1 placed
    exact (ordered.known x there).1
  · intro member
    obtain ⟨result, ends⟩ := finished c member
    obtain ⟨before, now, behind, rfl, -⟩ := tells c member result ends
    simp
  · rw [ordered.ahead, Ledger.ahead_nothing]
    intro userId
    cases waits : pending userId with
    | none => rfl
    | some plan =>
      obtain ⟨c, member, inside⟩ := ordered.owed userId plan waits
      obtain ⟨result, ends⟩ := finished c member
      rw [ends] at inside
      exact inside.elim

theorem Floor.Begins.in_order (begins : f.Begins calls L₀) (sound : L₀.Sound) (ids : (calls.map (·.id)).Nodup)
    (runs : Floor.Runs calls f f') (finished : ∀ c ∈ calls, ∃ result, f'.phase c.id = .finished result) :
    ∃ order, (order.map (·.1)).Perm calls ∧ (∀ x ∈ order, x.2.Clock) ∧ L₀.after order = f'.ledger ∧
      ∀ c ∈ calls, ∀ result, f'.phase c.id = .finished result → L₀.Tells order c result := by
  obtain ⟨order, pending, ordered⟩ := (begins.ordered sound).runs ids runs
  obtain ⟨all, after, tells⟩ := ordered.finished ids finished
  exact ⟨order, all, fun x there => (ordered.known x there).2, after, tells⟩

end Steps

end SubscriptionLedger
