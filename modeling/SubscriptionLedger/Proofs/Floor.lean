import SubscriptionLedger.Proofs.Serial

namespace SubscriptionLedger

inductive Phase where
  | outside (p : Program Reconciliation)
  | door (key : String) (work : Program Reconciliation)
  | inside (key : String) (work : Program Reconciliation)
  | finished (result : Except Fault Reconciliation)

def Phase.Holds (key : String) : Phase → Prop
  | .inside other _ => other = key
  | _ => False

structure Floor where
  ledger : Ledger
  phase : String → Phase

namespace Floor

def put (f : Floor) (c : Calling) (ledger : Ledger) (phase : Phase) : Floor :=
  ⟨ledger, Function.update f.phase c.id phase⟩

theorem phase_put_self (f : Floor) (c : Calling) (ledger : Ledger) (phase : Phase) :
    (f.put c ledger phase).phase c.id = phase := Function.update_self ..

theorem phase_put_of_ne {id : String} (distinct : id ≠ c.id) (f : Floor) (ledger : Ledger) (phase : Phase) :
    (f.put c ledger phase).phase id = f.phase id := Function.update_of_ne distinct ..

theorem put_put (f : Floor) (c : Calling) (L M : Ledger) (first second : Phase) :
    (f.put c L first).put c M second = f.put c M second := by
  unfold put
  rw [Function.update_idem]

theorem put_self {f : Floor} {here : Phase} (stays : f.phase c.id = here) : f.put c f.ledger here = f := by
  unfold put
  rw [← stays, Function.update_eq_self]

-- One step of one call. A call enters only where nobody is inside.
inductive Step (calls : List Calling) (f : Floor) : Floor → Prop where
  | ask (member : c ∈ calls) (here : f.phase c.id = .outside (.ask q next)) (clock : Moment.Clock now) :
    Step calls f (f.put c (f.ledger.ask now q).2 (.outside (next (f.ledger.ask now q).1)))
  | stop (member : c ∈ calls) (here : f.phase c.id = .outside (.ofExcept result)) (clock : Moment.Clock now) :
    Step calls f (f.put c f.ledger (.finished result))
  | knock (member : c ∈ calls) (here : f.phase c.id = .outside (.holding key work)) :
    Step calls f (f.put c f.ledger (.door key work))
  | enter (member : c ∈ calls) (here : f.phase c.id = .door key work)
    (free : ∀ other ∈ calls, ¬ (f.phase other.id).Holds key) : Step calls f (f.put c f.ledger (.inside key work))
  | work (member : c ∈ calls) (here : f.phase c.id = .inside key (.ask q next)) (clock : Moment.Clock now) :
    Step calls f (f.put c (f.ledger.ask now q).2 (.inside key (next (f.ledger.ask now q).1)))
  | leave (member : c ∈ calls) (here : f.phase c.id = .inside key (.ofExcept result)) (clock : Moment.Clock now) :
    Step calls f (f.put c f.ledger (.finished result))

end Floor

namespace Reconcile

open Program

def lookPayer (product : Product) (e : InvoicePaid) : Program Reconciliation :=
  query (.userByEmail e.customerEmail) >>= fun
    | none => fail (.payerUnknown e.customerEmail e.subscriptionId)
    | some found => holding found.id (paidUnderKey found product e)

theorem paid_eq (e : InvoicePaid) : paid e = query (.productByPrice e.priceId) >>= fun
    | none => return noop .invoicePaid "unknown price id"
    | some product => lookPayer product e := by
  refine query_congr fun found => ?_
  cases found with
  | none => rfl
  | some product => exact query_congr fun user => by cases user <;> rfl

end Reconcile

open Reconcile

structure OnRecord (L₀ : Ledger) (c : Calling) (kind : EventKind) (subscriptionId : String)
    (work : Billing → Program Reconciliation) (works : Billing → Decision) : Prop where
  program : c.program = withRecord kind subscriptionId work
  decides : ∀ M : Ledger, M.Kin L₀ → c.decision M = M.onCarrier kind subscriptionId works
  settles : ∀ M : Ledger, M.Kin L₀ → ∀ b, M.billingOf? (.text b.userId) = some b → Ledger.Settles M b.userId (work b) (works b)

-- A call that has found out whose key it needs. What it has seen of a record holds on, or the record was
-- gone at some point of the order.
inductive AtDoor (L₀ : Ledger) (order : List (Calling × Moment)) (R : Ledger) (c : Calling) :
    String → Program Reconciliation → Prop where
  | payer {e : InvoicePaid} {found : User} (event : c.event = .paid e) (price : L₀.productOf e.priceId = .ok (some product))
    (account : L₀.accountAt? (Query.keptEmail e.customerEmail) = some a) (same : a.user.id = found.id) :
    AtDoor L₀ order R c found.id (paidUnderKey found product e)
  | record (on : OnRecord L₀ c kind subscriptionId work works)
    (seen : (∃ b ∈ R.billings, b.userId = userId ∧ b.subscriptionId = some subscriptionId) ∨
      L₀.Visits order fun M => M.carrier? (.text subscriptionId) = none) :
    AtDoor L₀ order R c userId (underRecordKey kind subscriptionId userId work)

inductive Outside (L₀ : Ledger) (order : List (Calling × Moment)) (R : Ledger) (c : Calling) : Program Reconciliation → Prop where
  | start : Outside L₀ order R c c.program
  | payer (event : c.event = .paid e) (price : L₀.productOf e.priceId = .ok (some product)) :
    Outside L₀ order R c (lookPayer product e)
  | door (seen : AtDoor L₀ order R c key work) : Outside L₀ order R c (.holding key work)
  | ended (visits : L₀.Visits order fun M => c.decision M = .rest r) : Outside L₀ order R c (.ofExcept r)

def Calling.Bound (L₀ : Ledger) (c : Calling) (userId : String) (R : Ledger) (d : Decision) : Prop :=
  ∀ M : Ledger, M.Sound → M.Kin L₀ → M.Matches R userId → c.decision M = d

-- A call inside that has not written: what it will come to is what it comes to now, or it found nothing to do.
def Deciding (L₀ : Ledger) (order : List (Calling × Moment)) (R : Ledger) (c : Calling) (key : String)
    (work : Program Reconciliation) : Prop :=
  ∃ d, Ledger.Settles R key work d ∧
    (c.Bound L₀ key R d ∨ ∃ outcome, d = .rest outcome ∧ L₀.Visits order fun M => c.decision M = .rest outcome)

-- A call inside that has its place in the order: it has a result to tell, or a user to move.
def Closing (R : Ledger) (pending : Option String) (key : String) (work : Program Reconciliation)
    (result : Except Fault Reconciliation) : Prop :=
  pending = none ∧ Ledger.Settles R key work (.rest result) ∨
    ∃ (t : Sequel) (b : Billing), b.userId = key ∧ work = t.follow b ∧ result = (R.finish b t).1 ∧
      pending = if (R.account? (.text key)).isSome then t.target else none

def Fits (L₀ : Ledger) (order : List (Calling × Moment)) (R : Ledger) (pending : String → Option String) (c : Calling) :
    Phase → Prop
  | .outside p => c ∉ order.map (·.1) ∧ Outside L₀ order R c p
  | .door key work => c ∉ order.map (·.1) ∧ AtDoor L₀ order R c key work
  | .inside key work => c ∉ order.map (·.1) ∧ pending key = none ∧ Deciding L₀ order R c key work ∨
      ∃ result, L₀.Tells order c result ∧ Closing R (pending key) key work result
  | .finished result => L₀.Tells order c result

-- A floor with the order of the calls that have taken their places: the ledger after the order is the one
-- of the floor, but for the moves that are still to be made.
structure Ordered (calls : List Calling) (L₀ : Ledger) (f : Floor) (order : List (Calling × Moment))
    (pending : String → Option String) : Prop where
  sound : f.ledger.Sound
  kin : f.ledger.Kin L₀
  ahead : L₀.after order = f.ledger.ahead pending
  once : (order.map (·.1)).Nodup
  known : ∀ x ∈ order, x.1 ∈ calls ∧ x.2.Clock
  owed : ∀ userId plan, pending userId = some plan → ∃ c ∈ calls, (f.phase c.id).Holds userId
  apart : ∀ c ∈ calls, ∀ other ∈ calls, ∀ key, (f.phase c.id).Holds key → (f.phase other.id).Holds key → c = other
  fits : ∀ c ∈ calls, Fits L₀ order f.ledger pending c (f.phase c.id)

structure Goes (calls : List Calling) (L₀ : Ledger) (order order' : List (Calling × Moment)) (c : Calling) : Prop where
  visits : ∀ P, L₀.Visits order P → L₀.Visits order' P
  tells : ∀ other result, L₀.Tells order other result → L₀.Tells order' other result
  once : (order'.map (·.1)).Nodup
  known : ∀ x ∈ order', x.1 ∈ calls ∧ x.2.Clock
  absent : ∀ other, other ≠ c → other ∉ order.map (·.1) → other ∉ order'.map (·.1)

variable {calls : List Calling} {L₀ R R' : Ledger} {f : Floor} {order order' : List (Calling × Moment)}
  {pending pending' : String → Option String} {c : Calling} {phase : Phase}

theorem Ordered.stays (ordered : Ordered calls L₀ f order pending) (c : Calling) : Goes calls L₀ order order c :=
  ⟨fun _ visits => visits, fun _ _ tells => tells, ordered.once, ordered.known, fun _ _ absent => absent⟩

theorem Ordered.grows (ordered : Ordered calls L₀ f order pending) (member : c ∈ calls) (fresh : c ∉ order.map (·.1))
    (clock : now.Clock) (grows : L₀.Grows order order' (c, now)) : Goes calls L₀ order order' c := by
  have names : (order'.map (·.1)).Perm (c :: order.map (·.1)) := grows.perm.map (·.1)
  refine ⟨grows.visits, grows.tells, names.nodup_iff.2 (List.nodup_cons.2 ⟨fresh, ordered.once⟩), ?_, ?_⟩
  · intro x there
    rcases List.mem_cons.1 (grows.perm.mem_iff.1 there) with rfl | old
    · exact ⟨member, clock⟩
    · exact ordered.known x old
  · intro other distinct absent there
    rcases List.mem_cons.1 (names.mem_iff.1 there) with here | old
    · exact distinct here
    · exact absent old

theorem Fits.pass (fits : Fits L₀ order R pending c phase) (visits : ∀ P, L₀.Visits order P → L₀.Visits order' P)
    (tells : ∀ result, L₀.Tells order c result → L₀.Tells order' c result)
    (absent : c ∉ order.map (·.1) → c ∉ order'.map (·.1)) (shop : R'.catalog = R.catalog)
    (own : ∀ key, phase.Holds key → R'.Matches R key ∧ pending' key = pending key)
    (rows : ∀ b ∈ R.billings, ∀ s, b.subscriptionId = some s →
      (∃ b' ∈ R'.billings, b'.userId = b.userId ∧ b'.subscriptionId = some s) ∨
        L₀.Visits order' fun M => M.carrier? (.text s) = none) : Fits L₀ order' R' pending' c phase := by
  have atDoor : ∀ {key work}, AtDoor L₀ order R c key work → AtDoor L₀ order' R' c key work := by
    intro key work seen
    cases seen with
    | payer event price account same => exact .payer event price account same
    | record on seen =>
      refine .record on ?_
      rcases seen with ⟨b, there, owner, carries⟩ | gone
      · rcases rows b there _ carries with ⟨b', here, same, carried⟩ | gone
        · exact .inl ⟨b', here, same.trans owner, carried⟩
        · exact .inr gone
      · exact .inr (visits _ gone)
  -- outside nothing is known of the ledger but what the order visits; inside the rows of one user are known
  cases phase with
  | outside p =>
    obtain ⟨fresh, outside⟩ := fits
    refine ⟨absent fresh, ?_⟩
    cases outside with
    | start => exact .start
    | payer event price => exact .payer event price
    | door seen => exact .door (atDoor seen)
    | ended gone => exact .ended (visits _ gone)
  | door key work => exact ⟨absent fits.1, atDoor fits.2⟩
  | inside key work =>
    obtain ⟨same, waits⟩ := own key rfl
    rcases fits with ⟨fresh, free, d, settles, bound⟩ | ⟨result, told, closing⟩
    · refine .inl ⟨absent fresh, waits.trans free, d, Ledger.settles_congr same shop settles, ?_⟩
      rcases bound with bound | ⟨outcome, rest, gone⟩
      · exact .inl fun M whole kin agrees => bound M whole kin (agrees.trans same)
      · exact .inr ⟨outcome, rest, visits _ gone⟩
    · refine .inr ⟨result, tells _ told, ?_⟩
      rw [waits]
      rcases closing with ⟨free, settles⟩ | ⟨t, b, owner, follows, comes, moves⟩
      · exact .inl ⟨free, Ledger.settles_congr same shop settles⟩
      · refine .inr ⟨t, b, owner, follows, ?_, ?_⟩
        · rw [comes]
          unfold Ledger.finish
          rw [owner, same.account]
          cases t.target with
          | none => rfl
          | some plan =>
            dsimp only
            cases R.account? (.text key) <;> rfl
        · rw [moves, same.account]
  | finished result => exact tells result fits

theorem Ordered.put (ordered : Ordered calls L₀ f order pending) (ids : (calls.map (·.id)).Nodup) (member : c ∈ calls)
    (goes : Goes calls L₀ order order' c) (sound : R'.Sound) (kin : R'.Kin f.ledger)
    (ahead : L₀.after order' = R'.ahead pending')
    (holds : ∀ key, phase.Holds key → (f.phase c.id).Holds key ∨ ∀ other ∈ calls, ¬ (f.phase other.id).Holds key)
    (owed : ∀ userId plan, pending' userId = some plan → phase.Holds userId ∨
      pending userId = some plan ∧ ¬ (f.phase c.id).Holds userId)
    (own : ∀ key, ¬ (f.phase c.id).Holds key → R'.Matches f.ledger key ∧ pending' key = pending key)
    (rows : ∀ b ∈ f.ledger.billings, ∀ s, b.subscriptionId = some s →
      (∃ b' ∈ R'.billings, b'.userId = b.userId ∧ b'.subscriptionId = some s) ∨
        L₀.Visits order' fun M => M.carrier? (.text s) = none)
    (fits : Fits L₀ order' R' pending' c phase) : Ordered calls L₀ (f.put c R' phase) order' pending' := by
  have self := f.phase_put_self c R' phase
  have others : ∀ other ∈ calls, other ≠ c → (f.put c R' phase).phase other.id = f.phase other.id := by
    intro other there distinct
    refine Floor.phase_put_of_ne (fun same => distinct ?_) ..
    exact List.inj_on_of_nodup_map ids there member same
  refine ⟨sound, kin.trans ordered.kin, ahead, goes.once, goes.known, ?_, ?_, ?_⟩
  · intro userId plan waits
    rcases owed userId plan waits with here | ⟨old, elsewhere⟩
    · exact ⟨c, member, by rw [self]; exact here⟩
    · obtain ⟨other, there, inside⟩ := ordered.owed userId plan old
      have distinct : other ≠ c := by
        rintro rfl
        exact elsewhere inside
      refine ⟨other, there, ?_⟩
      rw [others other there distinct]
      exact inside
  · have alone : ∀ other ∈ calls, ∀ key, other ≠ c → phase.Holds key → ¬ (f.phase other.id).Holds key := by
      intro other there key distinct here inside
      rcases holds key here with old | nobody
      · exact distinct (ordered.apart other there c member key inside old)
      · exact nobody other there inside
    intro one first two second key mine theirs
    by_cases left : one = c
    · by_cases right : two = c
      · rw [left, right]
      · rw [others two second right] at theirs
        rw [left, self] at mine
        exact absurd theirs (alone two second key right mine)
    · rw [others one first left] at mine
      by_cases right : two = c
      · rw [right, self] at theirs
        exact absurd mine (alone one first key left theirs)
      · rw [others two second right] at theirs
        exact ordered.apart one first two second key mine theirs
  · intro other there
    by_cases same : other = c
    · rw [same, self]
      exact fits
    · rw [others other there same]
      refine (ordered.fits other there).pass goes.visits (goes.tells other) (goes.absent other same) kin.catalog ?_ rows
      intro key inside
      exact own key fun mine => same (ordered.apart other there c member key inside mine)

end SubscriptionLedger
