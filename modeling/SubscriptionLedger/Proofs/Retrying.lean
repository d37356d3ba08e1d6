import SubscriptionLedger.Proofs.Access
import SubscriptionLedger.Proofs.Enacting

namespace SubscriptionLedger

-- A clock that shows moments of the calendar, and calls that may fail but are not disturbed otherwise.
structure Surroundings.Fallible (w : Surroundings) : Prop where
  clock : w.now.Clock
  faulty : ∃ faults, w.Faulty faults

theorem Surroundings.Sporadic.fallible {w : Surroundings} (sporadic : w.Sporadic) : w.Fallible :=
  ⟨sporadic.clock, sporadic.faulty⟩

-- The moment of the delivery that a record has been left by: a payment or a failed payment leaves the moment of
-- the first delivery that wrote, a cancellation that of the last.
def Event.lasting (first last : Moment) : Event → Moment
  | .deleted _ => last
  | _ => first

-- A record as it is but for when it was opened.
def Billing.undated (b : Billing) : Billing := { b with createdAt := none }

def Billing.ended (e : Event) (now : Moment) (b : Billing) : Billing :=
  match e with
  | .deleted e => if b.subscriptionId = some e.subscriptionId then { b with expiresAt := now } else b
  | _ => b

namespace Ledger

-- The same users on the same plans, and the same records but for when they were opened; what an event has
-- canceled ends at a moment.
structure Agrees (e : Event) (now : Moment) (M N : Ledger) : Prop where
  accounts : M.accounts = N.accounts
  billings : M.billings.map Billing.undated = N.billings.map fun b => (b.ended e now).undated

-- What can become of a ledger while an event is delivered: the record written at a moment, or all done.
def Begun (L : Ledger) (e : Event) (now : Moment) (M : Ledger) : Prop :=
  M = L.written now (L.decision now e) ∨ M = (L.enact now (L.decision now e)).2

structure Resumes (L : Ledger) (e : Event) (first now : Moment) (M : Ledger) : Prop where
  enact : M.enact now (M.decision now e) = L.enact (e.lasting first now) (L.decision (e.lasting first now) e)
  written : L.Begun e (e.lasting first now) (M.written now (M.decision now e))

variable {L M K : Ledger} {b c : Billing} {u v : BillingUpdate} {t : Sequel} {first now : Moment}

theorem Begun.rest (begun : L.Begun e first M) (rests : L.decision first e = .rest outcome) : M = L := by
  unfold Begun at begun
  rw [rests] at begun
  rcases begun with rfl | rfl <;> rfl

theorem resumes_rest (begun : L.Begun e first M) (rests : ∀ now, L.decision now e = .rest outcome) : L.Resumes e first now M := by
  cases begun.rest (rests first)
  refine ⟨?_, .inl ?_⟩ <;> rw [rests, rests] <;> rfl

theorem amend_over (written : K = L.amend (.text b.id) u) (reached : M = K ∨ M = (K.finish (b.apply u) t).2)
    (replaces : ∀ x : Billing, (x.apply u).apply v = x.apply v) :
    M.amend (.text b.id) v = L.amend (.text b.id) v ∨
      M.amend (.text b.id) v = ((L.amend (.text b.id) v).finish (b.apply v) t).2 := by
  have twice : K.amend (.text b.id) v = L.amend (.text b.id) v := by
    rw [written, amend_amend]
    simp only [replaces]
    rfl
  rcases reached with rfl | rfl
  · exact .inl twice
  · right
    rw [amend_finish (b := b.apply u) (c := b.apply v) K t _ v rfl, twice]

theorem resumes_carrier {changed : Moment → BillingUpdate} (sound : L.Sound) (whole : M.Sound)
    (known : L.carrier? (.text subscription) = some b)
    (decides : ∀ N : Ledger, N.catalog = L.catalog → ∀ c, N.carrier? (.text subscription) = some c →
      ∀ now, N.decision now e = .amend c (changed now) t)
    (kept : ∀ now, (changed now).subscriptionId = none)
    (replaces : ∀ now now' (x : Billing), (x.apply (changed now)).apply (changed now') = x.apply (changed now'))
    (lasts : changed (e.lasting first now) = changed now) (begun : L.Begun e first M) : L.Resumes e first now M := by
  have member := (sound.carrier?_eq_some.1 known).1
  have free : ∀ now, L.amendClashes b (changed now) = false := fun now => amend_meets_none sound member (kept now)
  unfold Begun at begun
  rw [decides L rfl b known, written_amend (free first), enact_amend (free first)] at begun
  have found : M.carrier? (.text subscription) = some (b.apply (changed first)) := by
    have there := carrier?_amend L (.text b.id) (.text subscription) (kept first)
    rw [known, Option.map_some, if_pos rfl] at there
    rcases begun with rfl | rfl
    · exact there
    · rw [carrier?_finish, there]
  have shop : M.catalog = L.catalog := by
    rcases begun with rfl | rfl
    · rfl
    · exact (finish_stays _ _ _).2
  have free' : M.amendClashes (b.apply (changed first)) (changed now) = false :=
    amend_meets_none whole (whole.carrier?_eq_some.1 found).1 (kept now)
  have again := decides M shop _ found now
  have ends := amend_over rfl begun (replaces first now)
  refine ⟨?_, ?_⟩
  · rw [again, enact_amend free', Billing.id_apply, replaces, decides L rfl b known, enact_amend (free _), lasts]
    rcases ends with same | same <;> rw [same]
    exact finish_twice _ _ t
  · unfold Begun
    rw [again, written_amend free', Billing.id_apply, decides L rfl b known, written_amend (free _), enact_amend (free _), lasts]
    exact ends

theorem resumes_paymentFailed (sound : L.Sound) (whole : M.Sound) (begun : L.Begun (.paymentFailed e) first M) :
    L.Resumes (.paymentFailed e) first now M := by
  have follows : (Event.paymentFailed e).Follows e.subscriptionId := rfl
  cases known : L.carrier? (.text e.subscriptionId) with
  | none => exact resumes_rest begun (decision_of_none follows known)
  | some b =>
    have decides : ∀ N : Ledger, N.catalog = L.catalog → ∀ c, N.carrier? (.text e.subscriptionId) = some c → ∀ now,
        N.decision now (.paymentFailed e) =
          .amend c { status := some .pastDue } { kind := .invoicePaymentFailed, target := none } := by
      intro N _ c found now
      dsimp only [decision, decideFailed, onCarrier]
      rw [found]
    exact resumes_carrier sound whole known decides (fun _ => rfl) (fun _ _ _ => rfl) rfl begun

theorem resumes_deleted (sound : L.Sound) (whole : M.Sound) (begun : L.Begun (.deleted e) first M) :
    L.Resumes (.deleted e) first now M := by
  have follows : (Event.deleted e).Follows e.subscriptionId := rfl
  cases known : L.carrier? (.text e.subscriptionId) with
  | none => exact resumes_rest begun (decision_of_none follows known)
  | some b =>
    cases standard : L.defaultProduct with
    | error f =>
      have rests : ∀ now, L.decision now (.deleted e) = .rest (.error f) := by
        intro now
        dsimp only [decision, decideDeleted, onCarrier, cancelOn]
        rw [known]
        dsimp only
        rw [standard]
      exact resumes_rest begun rests
    | ok product =>
      have decides : ∀ N : Ledger, N.catalog = L.catalog → ∀ c, N.carrier? (.text e.subscriptionId) = some c → ∀ now,
          N.decision now (.deleted e) = .amend c { status := some .canceled, expiresAt := some now }
            { kind := .subscriptionDeleted, target := some product.id, blame := cutShort e.subscriptionId } := by
        intro N shop c found now
        dsimp only [decision, decideDeleted, onCarrier, cancelOn]
        rw [found]
        dsimp only
        rw [defaultProduct_congr shop, standard]
      exact resumes_carrier sound whole known decides (fun _ => rfl) (fun _ _ _ => rfl) rfl begun

structure Renewed (K : Ledger) (e : InvoicePaid) (a : Account) (product : Product) (c : Billing) : Prop where
  sound : K.Sound
  price : K.productOf e.priceId = .ok (some product)
  payer : K.accountAt? (Query.keptEmail e.customerEmail) = some a
  record : K.billingOf? (.text a.user.id) = some c
  paid : c.paidFor product e = c

namespace Renewed

variable {product : Product} {a : Account} {e : InvoicePaid}

theorem account (renewed : K.Renewed e a product c) : K.account? (.text c.userId) = some a := by
  obtain ⟨-, owner⟩ := renewed.sound.billingOf?_eq_some.1 renewed.record
  rw [owner]
  exact renewed.sound.account?_eq_some.2 ⟨List.mem_of_find?_eq_some renewed.payer, rfl⟩

theorem decides (renewed : K.Renewed e a product c) (now : Moment) :
    K.enact now (K.decidePaid e) = K.finish c (paidSequel a.user product) ∧ K.written now (K.decidePaid e) = K := by
  obtain ⟨member, -⟩ := renewed.sound.billingOf?_eq_some.1 renewed.record
  have same : c.apply (Reconcile.renewal c product e) = c := (Billing.apply_renewal c product e).trans renewed.paid
  have free := amendClashes_same renewed.sound member same
  unfold decidePaid
  rw [renewed.price]
  dsimp only
  rw [renewed.payer]
  unfold decideSettle
  dsimp only
  rw [renewed.record]
  dsimp only
  rw [enact_amend free, written_amend free, amend_same renewed.sound member same, same]
  exact ⟨rfl, rfl⟩

theorem finish_eq (renewed : K.Renewed e a product c) : K.finish c (paidSequel a.user product) =
    (.ok (Reconcile.applied .invoicePaid c), (K.finish c (paidSequel a.user product)).2) := by
  unfold finish
  cases (paidSequel a.user product).target with
  | none => rfl
  | some plan =>
    dsimp only
    rw [renewed.account]
    rfl

theorem finish (renewed : K.Renewed e a product c) (whole : (K.finish c (paidSequel a.user product)).2.Sound) :
    ∃ a', (K.finish c (paidSequel a.user product)).2.Renewed e a' product c ∧ a'.user.currentProductId = some product.id := by
  by_cases there : a.user.currentProductId = some product.id
  · rw [finish_none (if_pos there)]
    exact ⟨a, renewed, there⟩
  · have target : (paidSequel a.user product).target = some product.id := if_neg there
    rw [finish_snd, target] at whole ⊢
    obtain ⟨-, owner⟩ := renewed.sound.billingOf?_eq_some.1 renewed.record
    obtain ⟨a', payer, same⟩ := accountAt?_kin (move_kin K (.text c.userId) product.id) renewed.payer
    have known := whole.account?_eq_some.2 ⟨List.mem_of_find?_eq_some payer, same.trans owner.symm⟩
    rw [account?_move, renewed.account, Option.map_some, if_pos (congrArg Document.text owner.symm)] at known
    cases Option.some.inj known
    exact ⟨_, ⟨whole, renewed.price, payer, renewed.record, renewed.paid⟩, rfl⟩

theorem resumes (renewed : K.Renewed e a product c) (whole : (K.finish c (paidSequel a.user product)).2.Sound)
    (reached : M = K ∨ M = (K.finish c (paidSequel a.user product)).2) (now : Moment) :
    M.enact now (M.decidePaid e) = K.finish c (paidSequel a.user product) ∧ M.written now (M.decidePaid e) = M := by
  rcases reached with rfl | rfl
  · exact renewed.decides now
  · obtain ⟨a', again, there⟩ := renewed.finish whole
    obtain ⟨ends, stays⟩ := again.decides now
    refine ⟨?_, stays⟩
    rw [ends, finish_none (if_pos there), renewed.finish_eq]
    rfl

end Renewed

theorem createClashes_at (L : Ledger) (now now' : Moment) (new : NewBilling) :
    L.createClashes now new = L.createClashes now' new := rfl

theorem decideSettle_renews (sound : L.Sound) (price : L.productOf e.priceId = .ok (some product))
    (payer : L.accountAt? (Query.keptEmail e.customerEmail) = some a) :
    (∃ f, ∀ now, L.enact now (L.decideSettle a.user product e) = (.error f, L) ∧
        L.written now (L.decideSettle a.user product e) = L) ∨
      ∀ now, ∃ c, (L.written now (L.decideSettle a.user product e)).Renewed e a product c ∧
        L.enact now (L.decideSettle a.user product e) =
          (L.written now (L.decideSettle a.user product e)).finish c (paidSequel a.user product) := by
  unfold decideSettle
  cases found : L.billingOf? (.text a.user.id) with
  | some b =>
    dsimp only
    by_cases free : L.amendClashes b (Reconcile.renewal b product e) = false
    · refine .inr fun now => ?_
      have member := (sound.billingOf?_eq_some.1 found).1
      rw [enact_amend free, written_amend free]
      refine ⟨_, ⟨amend_sound_of_free sound member free, price, payer, billingOf?_amended found, ?_⟩, rfl⟩
      rw [Billing.apply_renewal]
      rfl
    · exact .inl ⟨_, fun now => ⟨if_pos (by simpa using free), if_pos (by simpa using free)⟩⟩
  | none =>
    dsimp only
    by_cases free : L.createClashes ⟨0, none⟩ (Reconcile.opening a.user product e) = false
    · refine .inr fun now => ?_
      rw [createClashes_at L _ now] at free
      rw [enact_create free, written_create free]
      refine ⟨_, ⟨?_, price, payer, ?_, rfl⟩, rfl⟩
      · exact add_sound sound fun other there shared => List.any_eq_false.1 free other there shared
      · unfold billingOf? add
        rw [List.find?_append, show L.billings.find? _ = none from found]
        exact List.find?_cons_of_pos (p := fun b : Billing => decide (.text b.userId = Document.text a.user.id)) (decide_eq_true rfl)
    · refine .inl ⟨.duplicateBilling a.user.id, fun now => ?_⟩
      rw [createClashes_at L _ now] at free
      exact ⟨if_pos (by simpa using free), if_pos (by simpa using free)⟩

theorem decidePaid_cases (L : Ledger) (e : InvoicePaid) : (∃ outcome, L.decidePaid e = .rest outcome) ∨
    ∃ product a, L.productOf e.priceId = .ok (some product) ∧
      L.accountAt? (Query.keptEmail e.customerEmail) = some a ∧ L.decidePaid e = L.decideSettle a.user product e := by
  unfold decidePaid
  cases price : L.productOf e.priceId with
  | error f => exact .inl ⟨_, rfl⟩
  | ok found =>
    cases found with
    | none => exact .inl ⟨_, rfl⟩
    | some product =>
      dsimp only
      cases payer : L.accountAt? (Query.keptEmail e.customerEmail) with
      | none => exact .inl ⟨_, rfl⟩
      | some a => exact .inr ⟨product, a, rfl, rfl, rfl⟩

theorem resumes_paid (sound : L.Sound) (begun : L.Begun (.paid e) first M) : L.Resumes (.paid e) first now M := by
  rcases L.decidePaid_cases e with ⟨outcome, rests⟩ | ⟨product, a, price, payer, settles⟩
  · exact resumes_rest begun fun _ => rests
  have whole := enact_sound sound first first (.paid e)
  unfold Begun at begun
  change M = L.written first (L.decidePaid e) ∨ M = (L.enact first (L.decidePaid e)).2 at begun
  change (L.enact first (L.decidePaid e)).2.Sound at whole
  rw [settles] at begun whole
  rcases decideSettle_renews sound price payer with ⟨f, clash⟩ | renews
  · obtain ⟨fails, nothing⟩ := clash first
    have same : M = L := by
      rw [fails, nothing, or_self] at begun
      exact begun
    subst same
    refine ⟨?_, .inl ?_⟩
    · change M.enact now (M.decidePaid e) = M.enact first (M.decidePaid e)
      rw [settles, (clash now).1, fails]
    · change M.written now (M.decidePaid e) = M.written first (M.decidePaid e)
      rw [settles, (clash now).2, nothing]
  · obtain ⟨c, renewed, ends⟩ := renews first
    rw [ends] at begun whole
    obtain ⟨again, stays⟩ := renewed.resumes whole begun now
    refine ⟨?_, ?_⟩
    · change M.enact now (M.decidePaid e) = L.enact first (L.decidePaid e)
      rw [again, settles, ends]
    · change L.Begun _ first (M.written now (M.decidePaid e))
      rw [stays]
      unfold Begun
      change M = L.written first (L.decidePaid e) ∨ M = (L.enact first (L.decidePaid e)).2
      rw [settles, ends]
      exact begun

theorem Begun.resumes (begun : L.Begun e first M) (sound : L.Sound) (whole : M.Sound) (other : e.kind ≠ .subscriptionUpdated)
    (now : Moment) : L.Resumes e first now M := by
  cases e with
  | paid e => exact resumes_paid sound begun
  | paymentFailed e => exact resumes_paymentFailed sound whole begun
  | updated e => exact absurd rfl other
  | deleted e => exact resumes_deleted sound whole begun
  | ignored e => exact resumes_rest begun fun _ => rfl

def Stands (L : Ledger) (e : Event) (M : Ledger) : Prop := M = L ∨ ∃ first, L.Begun e first M

theorem Stands.comes (stands : L.Stands e M) (sound : L.Sound) (whole : M.Sound) (other : e.kind ≠ .subscriptionUpdated)
    {result : Except Fault Reconciliation × Ledger} (comes : M.Comes now faults (M.decision now e) result) :
    L.Stands e result.2 ∧ (result.1.isOk → ∃ first, result =
      L.enact (e.lasting first now) (L.decision (e.lasting first now) e)) := by
  have resumes : ∃ first, L.Resumes e first now M := by
    rcases stands with rfl | ⟨first, begun⟩
    · refine ⟨now, ?_, .inl ?_⟩ <;> cases e <;> rfl
    · exact ⟨first, begun.resumes sound whole other now⟩
  obtain ⟨first, ends, written⟩ := resumes
  rcases comes with calm | ⟨-, f, none | half⟩
  · rw [calm, ends]
    exact ⟨.inr ⟨_, .inr rfl⟩, fun _ => ⟨first, rfl⟩⟩
  · rw [none]
    exact ⟨stands, nofun⟩
  · rw [half]
    exact ⟨.inr ⟨_, written⟩, nofun⟩

theorem ended_lasting (e : Event) (first now : Moment) (b : Billing) : b.ended e (e.lasting first now) = b.ended e now := by
  cases e <;> rfl

theorem agrees_same (kept : ∀ b : Billing, b.ended e now = b) (M : Ledger) : M.Agrees e now M := by
  refine ⟨rfl, List.map_congr_left fun b _ => ?_⟩
  rw [kept]

theorem finish_agrees {M N : Ledger} {c : Billing} (agrees : M.Agrees e now N) (name : b.id = c.id) (owner : b.userId = c.userId)
    (blames : t.blame b = t.blame c) :
    (M.finish b t).1 = (N.finish c t).1 ∧ (M.finish b t).2.Agrees e now (N.finish c t).2 := by
  refine ⟨?_, ?_, ?_⟩
  · have told : Reconcile.applied t.kind b = Reconcile.applied t.kind c := by
      unfold Reconcile.applied
      rw [name]
    have account : M.account? (.text c.userId) = N.account? (.text c.userId) := by
      unfold account?
      rw [agrees.accounts]
    unfold finish
    rw [told, owner, account, blames]
    cases t.target with
    | none => rfl
    | some plan =>
      dsimp only
      cases N.account? (.text c.userId) <;> rfl
  · rw [accounts_finish, accounts_finish, owner]
    unfold move
    rw [agrees.accounts]
  · rw [(finish_stays M b t).1, (finish_stays N c t).1]
    exact agrees.billings

theorem ended_of_carries (carries : b.subscriptionId = some e.subscriptionId) :
    b.ended (.deleted e) now = { b with expiresAt := now } := if_pos carries

theorem ended_of_other (apart : b.subscriptionId ≠ some e.subscriptionId) : b.ended (.deleted e) now = b := if_neg apart

theorem amended_agrees (sound : L.Sound) (known : L.carrier? (.text e.subscriptionId) = some b) (now now' : Moment) :
    (L.amend (.text b.id) { status := some .canceled, expiresAt := some now }).Agrees (.deleted e) now
      (L.amend (.text b.id) { status := some .canceled, expiresAt := some now' }) := by
  obtain ⟨member, carries⟩ := sound.carrier?_eq_some.1 known
  refine ⟨rfl, ?_⟩
  unfold amend
  rw [List.map_map, List.map_map]
  refine List.map_congr_left fun x there => ?_
  dsimp only [Function.comp]
  by_cases here : Document.text x.id = .text b.id
  · have same : x = b := eq_of_apart sound.ids there member (Document.text.inj here)
    have carries' : (b.apply { status := some .canceled, expiresAt := some now' }).subscriptionId = some e.subscriptionId := carries
    rw [if_pos here, if_pos here, same, ended_of_carries carries']
    rfl
  · rw [if_neg here, if_neg here, ended_of_other]
    intro shared
    have same := (sound.carrier?_eq_some.2 ⟨there, shared⟩).symm.trans known
    exact here (congrArg (fun b : Billing => Document.text b.id) (Option.some.inj same))

theorem agrees_decideFailed (L : Ledger) (e : InvoicePaymentFailed) (now now' : Moment) :
    (L.enact now (L.decideFailed e)).1 = (L.enact now' (L.decideFailed e)).1 ∧
      (L.enact now (L.decideFailed e)).2.Agrees (.paymentFailed e) now (L.enact now' (L.decideFailed e)).2 := by
  have same : L.enact now (L.decideFailed e) = L.enact now' (L.decideFailed e) := by
    unfold decideFailed onCarrier
    cases L.carrier? (.text e.subscriptionId) <;> rfl
  rw [same]
  exact ⟨rfl, agrees_same (fun _ => rfl) _⟩

theorem agrees_decidePaid (L : Ledger) (e : InvoicePaid) (now now' : Moment) :
    (L.enact now (L.decidePaid e)).1 = (L.enact now' (L.decidePaid e)).1 ∧
      (L.enact now (L.decidePaid e)).2.Agrees (.paid e) now (L.enact now' (L.decidePaid e)).2 := by
  rcases L.decidePaid_cases e with ⟨outcome, rests⟩ | ⟨product, a, -, -, settles⟩
  · rw [rests]
    exact ⟨rfl, agrees_same (fun _ => rfl) L⟩
  rw [settles]
  unfold decideSettle
  cases L.billingOf? (.text a.user.id) with
  | some b => exact ⟨rfl, agrees_same (fun _ => rfl) _⟩
  | none =>
    dsimp only
    cases clash : L.createClashes now (Reconcile.opening a.user product e) with
    | false =>
      rw [enact_create clash, enact_create ((L.createClashes_at now' now _).trans clash)]
      refine finish_agrees ⟨rfl, ?_⟩ rfl rfl rfl
      unfold add
      rw [List.map_append, List.map_append]
      rfl
    | true =>
      unfold enact
      dsimp only
      rw [if_pos clash, if_pos ((L.createClashes_at now' now _).trans clash)]
      exact ⟨rfl, agrees_same (fun _ => rfl) L⟩

theorem agrees_decideDeleted (sound : L.Sound) {e : SubscriptionDeleted} (now now' : Moment)
    (succeeds : (L.enact now (L.decideDeleted now e)).1.isOk) :
    (L.enact now (L.decideDeleted now e)).1 = (L.enact now' (L.decideDeleted now' e)).1 ∧
      (L.enact now (L.decideDeleted now e)).2.Agrees (.deleted e) now (L.enact now' (L.decideDeleted now' e)).2 := by
  unfold decideDeleted onCarrier cancelOn at *
  cases known : L.carrier? (.text e.subscriptionId) with
  | none =>
    refine ⟨rfl, rfl, List.map_congr_left fun x there => ?_⟩
    rw [ended_of_other (carrier?_eq_none.1 known x there)]
  | some b =>
    rw [known] at succeeds
    dsimp only at *
    cases standard : L.defaultProduct with
    | error f =>
      rw [standard] at succeeds
      cases succeeds
    | ok product =>
      dsimp only
      have member := (sound.carrier?_eq_some.1 known).1
      rw [enact_amend (amend_meets_none sound member rfl), enact_amend (amend_meets_none sound member rfl)]
      exact finish_agrees (amended_agrees sound known now now') rfl rfl rfl

-- A success is the same whenever it comes, but for the moments it leaves in the record.
theorem enact_agrees (sound : L.Sound) (other : e.kind ≠ .subscriptionUpdated) (now now' : Moment)
    (succeeds : (L.enact now (L.decision now e)).1.isOk) :
    (L.enact now (L.decision now e)).1 = (L.enact now' (L.decision now' e)).1 ∧
      (L.enact now (L.decision now e)).2.Agrees e now (L.enact now' (L.decision now' e)).2 := by
  cases e with
  | paid e => exact agrees_decidePaid L e now now'
  | paymentFailed e => exact agrees_decideFailed L e now now'
  | updated e => exact absurd rfl other
  | deleted e => exact agrees_decideDeleted sound now now' succeeds
  | ignored e => exact ⟨rfl, agrees_same (fun _ => rfl) L⟩

end Ledger

namespace Store

variable {s : Store} {L M : Ledger} {e : Event} {times : List Surroundings} {last calm : Surroundings}

theorem redeliver_stands (shows_ : s.Shows M) (sound : L.Sound) (whole : M.Sound) (stands : L.Stands e M) (proper : e.Proper)
    (other : e.kind ≠ .subscriptionUpdated) (fallible : ∀ w ∈ times, Surroundings.Fallible w) :
    ∃ M', (s.redeliver e times).Shows M' ∧ M'.Sound ∧ L.Stands e M' := by
  induction times generalizing s M with
  | nil => exact ⟨M, shows_, whole, stands⟩
  | cons w rest ih =>
    obtain ⟨here, later⟩ := List.forall_mem_cons.1 fallible
    obtain ⟨faults, faulty⟩ := here.faulty
    obtain ⟨result, comes, -, after, kept⟩ := deliver_comes shows_ whole here.clock faulty proper
    exact ih after kept (stands.comes sound whole other comes).1 later

-- However deliveries of a payment, a failed payment or a cancellation are interrupted, a success leaves what a
-- single calm delivery leaves.
theorem redelivery_completes (shows_ : s.Shows L) (sound : L.Sound) (proper : e.Proper) (other : e.kind ≠ .subscriptionUpdated)
    (fallible : ∀ w ∈ times, Surroundings.Fallible w) (once : last.Fallible) (undisturbed : calm.Calm)
    (succeeds : ((s.redeliver e times).deliver last e).1.isOk) :
    ((s.redeliver e times).deliver last e).1 = (s.deliver calm e).1 ∧
      ∃ M N, ((s.redeliver e times).deliver last e).2.Shows M ∧ (s.deliver calm e).2.Shows N ∧
        M.Agrees e last.now N ∧ M.inserted ≤ L.inserted + 1 := by
  obtain ⟨M, before, whole, stands⟩ := redeliver_stands shows_ sound sound (.inl rfl) proper other fallible
  obtain ⟨faults, faulty⟩ := once.faulty
  obtain ⟨result, comes, told, after, -⟩ := deliver_comes before whole once.clock faulty proper
  obtain ⟨single, ends, -⟩ := deliver_calm shows_ sound undisturbed proper
  rw [told] at succeeds
  obtain ⟨first, rfl⟩ := (stands.comes sound whole other comes).2 succeeds
  obtain ⟨same, agrees⟩ := Ledger.enact_agrees sound other (e.lasting first last.now) calm.now succeeds
  refine ⟨told.trans (same.trans single.symm), _, _, after, ends, ⟨agrees.accounts, ?_⟩, Ledger.inserted_enact L _ _⟩
  rw [agrees.billings]
  simp only [Ledger.ended_lasting]

end Store

namespace Shop

-- A cancellation is cut short before it moves the user, and delivered again ten seconds later.
theorem cancellation_completes :
    (((ledger .active "pro" "pro").store.redeliver (.deleted cancellation) [.failing ⟨0, some 0⟩ 5 .timeout]).deliver
        (.quiet ⟨10000000, some 0⟩) (.deleted cancellation)).1 =
      ((ledger .active "pro" "pro").store.deliver (.quiet ⟨0, some 0⟩) (.deleted cancellation)).1 ∧
    ∃ M N, (((ledger .active "pro" "pro").store.redeliver (.deleted cancellation) [.failing ⟨0, some 0⟩ 5 .timeout]).deliver
        (.quiet ⟨10000000, some 0⟩) (.deleted cancellation)).2.Shows M ∧
      ((ledger .active "pro" "pro").store.deliver (.quiet ⟨0, some 0⟩) (.deleted cancellation)).2.Shows N ∧
      M.Agrees (.deleted cancellation) ⟨10000000, some 0⟩ N ∧ M.inserted ≤ 2 := by
  have shown := shows_ .active "pro" "pro" (by decide)
  have clock : Moment.Clock ⟨0, some 0⟩ := by decide
  have later : Moment.Clock ⟨10000000, some 0⟩ := by decide
  have cut : (Surroundings.failing ⟨0, some 0⟩ 5 .timeout).Sporadic := ⟨clock, .inr ⟨5, .timeout, fun _ => rfl⟩⟩
  have quiet : (Surroundings.quiet ⟨10000000, some 0⟩).Sporadic := ⟨later, .inl fun _ => rfl⟩
  have faulty := Surroundings.failing_faulty ⟨0, some 0⟩ 5 .timeout
  obtain ⟨-, half⟩ := Store.deliver_shows (e := .deleted cancellation) shown (sound _ _ _) clock faulty trivial
  have whole := Ledger.run_sound (sound .active "pro" "pro") ⟨0, some 0⟩ (fun n => if n = 5 then some .timeout else none) 0
    (reconcile ⟨0, some 0⟩ (.deleted cancellation))
  have undisturbed : (Surroundings.quiet ⟨10000000, some 0⟩).Faulty fun _ => none := fun _ => rfl
  obtain ⟨told, -⟩ := Store.deliver_shows (e := .deleted cancellation) half whole later undisturbed trivial
  refine Store.redelivery_completes shown (sound _ _ _) trivial (by decide) (List.forall_mem_singleton.2 cut.fallible)
    quiet.fallible (Surroundings.calm_quiet clock) ?_
  change (((ledger .active "pro" "pro").store.deliver (.failing ⟨0, some 0⟩ 5 .timeout) (.deleted cancellation)).2.deliver
    (.quiet ⟨10000000, some 0⟩) (.deleted cancellation)).1.isOk
  rw [told]
  decide +kernel

end Shop
end SubscriptionLedger
