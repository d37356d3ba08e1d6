import SubscriptionLedger.Proofs.Resubscription
import SubscriptionLedger.Proofs.Retrying

namespace SubscriptionLedger

structure Billing.SameTerms (b c : Billing) : Prop where
  subscription : b.subscriptionId = c.subscriptionId
  customer : b.customerId = c.customerId
  product : b.productId = c.productId
  status : b.status = c.status
  expires : b.expiresAt = c.expiresAt

structure Billing.SameStanding (b c : Billing) : Prop where
  status : b.status = c.status
  expires : b.expiresAt = c.expiresAt
  product : b.productId = c.productId

-- Deliveries to a store, any of them cut short, and a last one that applies an event.
structure Store.History (s : Store) (e : Event) where
  earlier : List (Surroundings × Event)
  last : Surroundings
  steps : ∀ step ∈ earlier, step.1.Fallible ∧ step.2.Proper
  fallible : last.Fallible
  proper : e.Proper
  applied : ((s.deliverAll earlier).deliver last e).1.map (·.outcome) = .ok .applied

def Store.History.after {s : Store} (h : s.History e) : Store := ((s.deliverAll h.earlier).deliver h.last e).2

namespace Ledger

def Priced (L : Ledger) (e : SubscriptionUpdated) : Prop :=
  ∃ price product, e.priceId = some price ∧ price ≠ "" ∧ L.productOf price = .ok (some product)

def PaidAlike (M M' : Ledger) (e : InvoicePaid) : Prop :=
  ∃ a a' b b', M.accountAt? (Query.keptEmail e.customerEmail) = some a ∧
    M'.accountAt? (Query.keptEmail e.customerEmail) = some a' ∧ a.user.id = a'.user.id ∧
    M.billingOf? (.text a.user.id) = some b ∧ M'.billingOf? (.text a'.user.id) = some b' ∧
    b.SameTerms b' ∧ a.user.currentProductId = a'.user.currentProductId

def UpdatedAlike (M M' : Ledger) (e : SubscriptionUpdated) : Prop :=
  ∃ b b', M.carrier? (.text e.subscriptionId) = some b ∧ M'.carrier? (.text e.subscriptionId) = some b' ∧ b.SameStanding b'

variable {L M M' : Ledger} {now : Moment}

def Modest : Decision → Prop
  | .rest (.ok r) => r.outcome ≠ .applied
  | _ => True

theorem modest_onCarrier (L : Ledger) (kind : EventKind) (subscriptionId : String) {work : Billing → Decision}
    (works : ∀ b, Modest (work b)) : Modest (L.onCarrier kind subscriptionId work) := by
  unfold onCarrier
  cases L.carrier? (.text subscriptionId) with
  | none => exact (by decide : Outcome.noop ≠ .applied)
  | some b => exact works b

theorem modest_decidePaid (L : Ledger) (e : InvoicePaid) : Modest (L.decidePaid e) := by
  unfold decidePaid
  cases L.productOf e.priceId with
  | error f => trivial
  | ok found =>
    cases found with
    | none => exact (by decide : Outcome.noop ≠ .applied)
    | some product =>
      dsimp only
      cases L.accountAt? (Query.keptEmail e.customerEmail) with
      | none => trivial
      | some a =>
        unfold decideSettle
        dsimp only
        cases L.billingOf? (.text a.user.id) <;> trivial

theorem modest_decideUpdated (L : Ledger) (e : SubscriptionUpdated) : Modest (L.decideUpdated e) := by
  refine modest_onCarrier L _ _ fun b => ?_
  unfold updateOn
  cases L.movedTo b e.priceId with
  | error f => trivial
  | ok moved =>
    dsimp only
    cases L.destination e moved <;> trivial

theorem applied_paid (sound : L.Sound) (e : InvoicePaid) (tells : (L.enact now (L.decidePaid e)).1 = .ok r)
    (applied : r.outcome = .applied) :
    ∃ product a b, L.productOf e.priceId = .ok (some product) ∧ (L.enact now (L.decidePaid e)).2.Renewed e a product b ∧
      a.user.currentProductId = some product.id := by
  have whole := enact_sound sound now now (.paid e)
  change (L.enact now (L.decidePaid e)).2.Sound at whole
  have modest := L.modest_decidePaid e
  rcases L.decidePaid_cases e with ⟨outcome, rests⟩ | ⟨product, a, price, payer, settles⟩
  · rw [rests] at tells modest
    cases tells
    exact absurd applied modest
  rw [settles] at tells whole ⊢
  rcases decideSettle_renews sound price payer with ⟨f, clash⟩ | renews
  · rw [(clash now).1] at tells
    cases tells
  · obtain ⟨b, renewed, ends⟩ := renews now
    rw [ends] at whole ⊢
    obtain ⟨a', again, there⟩ := renewed.finish whole
    exact ⟨product, a', b, price, again, there⟩

theorem applied_updated (sound : L.Sound) (e : SubscriptionUpdated) (known : e.status = some status)
    (priceId : e.priceId = some price) (priced : price ≠ "") (offer : L.productOf price = .ok (some product))
    (tells : (L.enact now (L.decideUpdated e)).1 = .ok r) (applied : r.outcome = .applied) :
    ∃ b, (L.enact now (L.decideUpdated e)).2.carrier? (.text e.subscriptionId) = some b ∧
      b.status = status ∧ b.expiresAt = e.effectiveExpiry ∧ b.productId = product.id := by
  have modest := L.modest_decideUpdated e
  rcases L.decideUpdated_cases e with ⟨outcome, rests⟩ | ⟨b, moved, target, updates⟩
  · rw [rests] at tells modest
    cases tells
    exact absurd applied modest
  have found := carrier?_amend (u := changes e moved) L (.text b.id) (.text e.subscriptionId) rfl
  rw [updates.known, Option.map_some, if_pos rfl] at found
  rw [updates.enact sound, carrier?_finish]
  refine ⟨_, found, ?_, rfl, ?_⟩
  · unfold changes Billing.apply
    rw [known]
    rfl
  · have moves := updates.moves
    rw [priceId, movedTo_priced L b priced, offer] at moves
    cases moves
    unfold changes Billing.apply
    dsimp only
    by_cases same : product.id = b.productId <;> simp [same]

end Ledger

namespace Store

variable {s s' : Store} {L L' : Ledger}

theorem deliverAll_shows {steps : List (Surroundings × Event)} (shows_ : s.Shows L) (sound : L.Sound)
    (proper : ∀ step ∈ steps, step.1.Fallible ∧ step.2.Proper) :
    ∃ M, (s.deliverAll steps).Shows M ∧ M.Sound ∧ M.Kin L := by
  induction steps generalizing s L with
  | nil => exact ⟨L, shows_, sound, .refl L⟩
  | cons step rest ih =>
    obtain ⟨⟨fallible, writable⟩, later⟩ := List.forall_mem_cons.1 proper
    obtain ⟨faults, faulty⟩ := fallible.faulty
    obtain ⟨result, comes, -, after, whole⟩ := deliver_comes shows_ sound fallible.clock faulty writable
    obtain ⟨M, shown, kept, kin⟩ := ih after whole later
    exact ⟨M, shown, kept, kin.trans comes.kin⟩

def History.ofTwo {w calm : Surroundings} {first e : Event} (shows_ : s.Shows L) (sound : L.Sound) (clock : w.now.Clock)
    (faulty : w.Faulty faults) (writable : first.Proper) (undisturbed : calm.Calm) (proper : e.Proper)
    (applied : ((L.run w.now faults 0 (reconcile w.now first)).2.enact calm.now
      ((L.run w.now faults 0 (reconcile w.now first)).2.decision calm.now e)).1.map (·.outcome) = .ok .applied) : s.History e where
  earlier := [(w, first)]
  last := calm
  steps := List.forall_mem_singleton.2 ⟨⟨clock, faults, faulty⟩, writable⟩
  fallible := ⟨undisturbed.clock, fun _ => none, fun n => undisturbed.quiet n⟩
  proper := proper
  applied := by
    obtain ⟨-, shown⟩ := deliver_shows shows_ sound clock faulty writable
    obtain ⟨told, -⟩ := deliver_calm shown (Ledger.run_sound sound w.now faults 0 _) undisturbed proper
    exact (congrArg (Except.map _) told).trans applied

theorem History.enacts {e : Event} (h : s.History e) (shows_ : s.Shows L) (sound : L.Sound) :
    ∃ (M : Ledger) (r : Reconciliation), M.Sound ∧ M.Kin L ∧ (M.enact h.last.now (M.decision h.last.now e)).1 = .ok r ∧
      r.outcome = .applied ∧ h.after.Shows (M.enact h.last.now (M.decision h.last.now e)).2 := by
  obtain ⟨M, shown, whole, kin⟩ := deliverAll_shows shows_ sound h.steps
  obtain ⟨faults, faulty⟩ := h.fallible.faulty
  obtain ⟨result, comes, told, after, -⟩ := deliver_comes shown whole h.fallible.clock faulty h.proper
  have applied := h.applied
  rw [told] at applied
  cases tells : result.1 with
  | error f =>
    rw [tells] at applied
    cases applied
  | ok r =>
    rw [tells] at applied
    have calm := comes.enacted (by rw [tells]; rfl)
    rw [calm] at tells after
    exact ⟨M, r, whole, kin, tells, Except.ok.inj applied, after⟩

theorem last_applied_wins (shows_ : s.Shows L) (sound : L.Sound) (shows' : s'.Shows L') (sound' : L'.Sound) (kin : L.Kin L') :
    (∀ e (h : s.History (.paid e)) (h' : s'.History (.paid e)),
      ∃ M M', h.after.Shows M ∧ h'.after.Shows M' ∧ M.PaidAlike M' e) ∧
    ∀ e (h : s.History (.updated e)) (h' : s'.History (.updated e)), e.status.isSome → L.Priced e →
      ∃ M M', h.after.Shows M ∧ h'.after.Shows M' ∧ M.UpdatedAlike M' e := by
  constructor
  · intro e h h'
    obtain ⟨K, r, whole, near, tells, applied, shown⟩ := h.enacts shows_ sound
    obtain ⟨K', r', whole', near', tells', applied', shown'⟩ := h'.enacts shows' sound'
    obtain ⟨product, a, b, price, renewed, there⟩ := Ledger.applied_paid whole e tells applied
    obtain ⟨product', a', b', price', renewed', there'⟩ := Ledger.applied_paid whole' e tells' applied'
    have close := near.trans (kin.trans near'.symm)
    cases Option.some.inj (Except.ok.inj (price.symm.trans ((Ledger.productOf_congr close.catalog _).trans price')))
    have same : a.user.id = a'.user.id := by
      have ties := (Ledger.enact_kin h.last.now K (K.decidePaid e)).trans
        (close.trans (Ledger.enact_kin h'.last.now K' (K'.decidePaid e)).symm)
      obtain ⟨x, payer, name⟩ := Ledger.accountAt?_kin ties renewed'.payer
      rw [← name, Option.some.inj (renewed.payer.symm.trans payer)]
    refine ⟨_, _, shown, shown', a, a', b, b', renewed.payer, renewed'.payer, same, renewed.record, renewed'.record, ?_,
      there.trans there'.symm⟩
    rw [← renewed.paid, ← renewed'.paid]
    exact ⟨rfl, rfl, rfl, rfl, rfl⟩
  · intro e h h' known priced
    obtain ⟨K, r, whole, near, tells, applied, shown⟩ := h.enacts shows_ sound
    obtain ⟨K', r', whole', near', tells', applied', shown'⟩ := h'.enacts shows' sound'
    obtain ⟨status, known⟩ := Option.isSome_iff_exists.1 known
    obtain ⟨price, product, priceId, priced, offer⟩ := priced
    have here := (Ledger.productOf_congr near.catalog _).trans offer
    have there := (Ledger.productOf_congr (near'.trans kin.symm).catalog _).trans offer
    obtain ⟨b, found, standing, expires, billed⟩ := Ledger.applied_updated whole e known priceId priced here tells applied
    obtain ⟨b', found', standing', expires', billed'⟩ := Ledger.applied_updated whole' e known priceId priced there tells' applied'
    exact ⟨_, _, shown, shown', b, b', found, found', standing.trans standing'.symm, expires.trans expires'.symm,
      billed.trans billed'.symm⟩

end Store

namespace Shop

def halfEnded : Surroundings × Event := (.failing ⟨0, some 0⟩ 5 .timeout, .deleted cancellation)

def grown : Surroundings × Event := (.quiet ⟨0, some 0⟩, .updated (change none (some "price-team")))

theorem last_event_decides :
    (∃ (h : (ledger .active "pro" "pro").store.History (.paid renewed)) (h' : (ledger .pastDue "free" "free").store.History (.paid renewed)),
      h.earlier = [halfEnded] ∧ h'.earlier = [grown] ∧
        ∃ M M', h.after.Shows M ∧ h'.after.Shows M' ∧ M.PaidAlike M' renewed) ∧
    ∃ (h : (ledger .active "pro" "pro").store.History (.updated (change (some .active) (some "price-pro"))))
        (h' : (ledger .pastDue "free" "free").store.History (.updated (change (some .active) (some "price-pro")))),
      h.earlier = [halfEnded] ∧ h'.earlier = [grown] ∧
        ∃ M M', h.after.Shows M ∧ h'.after.Shows M' ∧ M.UpdatedAlike M' (change (some .active) (some "price-pro")) := by
  have shown := shows_ .active "pro" "pro" (by decide)
  have shown' := shows_ .pastDue "free" "free" (by decide)
  have kin : (ledger .active "pro" "pro").Kin (ledger .pastDue "free" "free") := ⟨rfl, rfl⟩
  have clock : Moment.Clock ⟨0, some 0⟩ := by decide
  have calm : (Surroundings.quiet ⟨10000000, some 0⟩).Calm := Surroundings.calm_quiet (by decide)
  have cut := Surroundings.failing_faulty ⟨0, some 0⟩ 5 .timeout
  have quiet : (Surroundings.quiet ⟨0, some 0⟩).Faulty fun _ => none := fun _ => rfl
  have window : Moment.Proper ⟨1893456000000000, some 0⟩ := by decide
  have first : halfEnded.2.Proper := trivial
  have first' : grown.2.Proper := window
  have paid : (Event.paid renewed).Proper := window
  have moved : (Event.updated (change (some .active) (some "price-pro"))).Proper := window
  have priced : (ledger .active "pro" "pro").Priced (change (some .active) (some "price-pro")) :=
    ⟨"price-pro", proPlan, rfl, by decide, productOf_pro _ _ _⟩
  obtain ⟨pays, changes⟩ := Store.last_applied_wins shown (sound _ _ _) shown' (sound _ _ _) kin
  refine ⟨⟨.ofTwo shown (sound _ _ _) clock cut first calm paid ?_, .ofTwo shown' (sound _ _ _) clock quiet first' calm paid ?_,
    rfl, rfl, pays _ _ _⟩, .ofTwo shown (sound _ _ _) clock cut first calm moved ?_,
    .ofTwo shown' (sound _ _ _) clock quiet first' calm moved ?_, rfl, rfl, changes _ _ _ rfl priced⟩
  all_goals decide +kernel

end Shop
end SubscriptionLedger
