import SubscriptionLedger.Proofs.Delivery
import SubscriptionLedger.Proofs.Writing

namespace SubscriptionLedger

-- A clock that shows moments of the calendar, and at most one call that fails.
structure Surroundings.Sporadic (w : Surroundings) : Prop where
  clock : w.now.Clock
  once : (∀ n, w.disturbances n = []) ∨ ∃ n f, ∀ m, w.disturbances m = if m = n then [.fault f] else []

def Surroundings.failing (now : Moment) (n : Nat) (f : Fault) : Surroundings :=
  ⟨now, fun _ => .error .connection, fun m => if m = n then [.fault f] else []⟩

def Store.redeliver (s : Store) (e : Event) (times : List Surroundings) : Store := s.deliverAll (times.map (·, e))

-- Stores that cannot be told apart by their records and accounts, but for the moments of last changes.
def Store.Alike (s s' : Store) : Prop := ∃ L, s.Shows L ∧ s'.Shows L

-- However often an event is delivered, what a success leaves is what a single calm delivery leaves.
def Store.Completes (s : Store) (e : Event) : Prop :=
  ∀ earlier last calm, (∀ w ∈ earlier, Surroundings.Sporadic w) → last.Sporadic → calm.Calm →
    ((s.redeliver e earlier).deliver last e).1.isOk →
    ((s.redeliver e earlier).deliver last e).2.Alike (s.deliver calm e).2

-- An update that moves a user to another plan, and does not find the user there already.
def Ledger.Strands (L : Ledger) (e : SubscriptionUpdated) : Prop :=
  Reconcile.takesAway e = false ∧ ∃ b product a, L.carrier? (.text e.subscriptionId) = some b ∧
    L.movedTo b e.priceId = .ok (some product) ∧ L.account? (.text b.userId) = some a ∧
    a.user.currentProductId ≠ some product

theorem Surroundings.Sporadic.faulty {w : Surroundings} (sporadic : w.Sporadic) : ∃ faults, w.Faulty faults := by
  rcases sporadic.once with quiet | ⟨n, f, once⟩
  · exact ⟨fun _ => none, fun m => quiet m⟩
  · refine ⟨fun m => if m = n then some f else none, fun m => ?_⟩
    rw [once]
    by_cases here : m = n <;> simp [here]

theorem Surroundings.failing_faulty (now : Moment) (n : Nat) (f : Fault) :
    (Surroundings.failing now n f).Faulty fun m => if m = n then some f else none := by
  intro m
  by_cases here : m = n <;> simp [Surroundings.failing, here]

namespace Ledger

variable {L M : Ledger} {e : SubscriptionUpdated} {b : Billing} {t : Sequel}

theorem changes_again (b : Billing) (e : SubscriptionUpdated) (moved : Option String) :
    (b.apply (changes e moved)).apply (changes e none) = b.apply (changes e moved) := by
  unfold changes Billing.apply
  cases e.status <;> rfl

theorem finish_none (none : t.target = none) : M.finish b t = (.ok (Reconcile.applied t.kind b), M) := by
  unfold finish
  rw [none]

theorem finish_stays (M : Ledger) (b : Billing) (t : Sequel) :
    (M.finish b t).2.billings = M.billings ∧ (M.finish b t).2.catalog = M.catalog := by
  unfold finish
  cases t.target with
  | none => exact ⟨rfl, rfl⟩
  | some productId =>
    dsimp only
    cases M.account? (.text b.userId) <;> exact ⟨rfl, rfl⟩

theorem finish_finish (M : Ledger) (b : Billing) (t : Sequel) :
    ((M.finish b t).2.finish b t).2 = (M.finish b t).2 := by
  unfold finish
  cases t.target with
  | none => rfl
  | some productId =>
    dsimp only
    cases known : M.account? (.text b.userId) with
    | none =>
      dsimp only
      rw [known]
    | some a =>
      dsimp only
      rw [account?_move, known]
      exact move_move M _ productId productId

theorem movedTo_again (moves : L.movedTo b priceId = .ok moved) :
    L.movedTo (b.apply (changes e moved)) priceId = .ok none := by
  cases priceId with
  | none => rfl
  | some price =>
    by_cases priced : price = ""
    · rw [priced]
      rfl
    · rw [movedTo_priced L b priced] at moves
      rw [movedTo_priced L _ priced]
      cases offer : L.productOf price with
      | error f => rw [offer] at moves; contradiction
      | ok found =>
        rw [offer] at moves
        cases found with
        | none => rfl
        | some product =>
          cases moves
          dsimp only [changes, Billing.apply]
          by_cases same : product.id = b.productId <;> simp [same]

theorem destination_again (goes : L.destination e moved = .ok target) :
    L.destination e none = .ok (if Reconcile.takesAway e then target else none) := by
  unfold destination at *
  by_cases ends : Reconcile.takesAway e
  · rw [if_pos ends] at *
    rw [goes, if_pos ends]
  · rw [if_neg ends, if_neg ends]

structure Updates (L : Ledger) (e : SubscriptionUpdated) (b : Billing) (moved target : Option String) : Prop where
  known : L.carrier? (.text e.subscriptionId) = some b
  moves : L.movedTo b e.priceId = .ok moved
  goes : L.destination e moved = .ok target

theorem amend_again (same : M.billings = (L.amend (.text b.id) (changes e moved)).billings) :
    M.amend (.text b.id) (changes e none) = M := by
  have twice := amend_amend L (.text b.id) (changes e moved) (changes e none)
  have kept : (M.amend (.text b.id) (changes e none)).billings = M.billings := by
    calc (M.amend (.text b.id) (changes e none)).billings
      _ = ((L.amend (.text b.id) (changes e moved)).amend (.text b.id) (changes e none)).billings := by
        unfold amend at *
        rw [same]
      _ = M.billings := by
        rw [twice, same]
        unfold amend
        simp only [changes_again]
  cases M
  unfold amend at *
  dsimp only at kept
  rw [kept]

namespace Updates

theorem decides (updates : L.Updates e b moved target) :
    L.decideUpdated e = .amend b (changes e moved) { kind := .subscriptionUpdated, target } := by
  unfold decideUpdated onCarrier updateOn
  rw [updates.known]
  dsimp only
  rw [updates.moves]
  dsimp only
  rw [updates.goes]

theorem free (updates : L.Updates e b moved target) (sound : L.Sound) : L.amendClashes b (changes e moved) = false :=
  amend_meets_none sound (sound.carrier?_eq_some.1 updates.known).1 rfl

theorem written (updates : L.Updates e b moved target) (sound : L.Sound) (now : Moment) :
    L.written now (L.decideUpdated e) = L.amend (.text b.id) (changes e moved) := by
  rw [updates.decides]
  dsimp only [Ledger.written]
  rw [if_neg (by rw [updates.free sound]; decide)]

theorem enact (updates : L.Updates e b moved target) (sound : L.Sound) (now : Moment) :
    L.enact now (L.decideUpdated e) = (L.amend (.text b.id) (changes e moved)).finish (b.apply (changes e moved))
      { kind := .subscriptionUpdated, target } := by
  rw [updates.decides]
  dsimp only [Ledger.enact]
  rw [if_neg (by rw [updates.free sound]; decide)]

theorem again (updates : L.Updates e b moved target)
    (same : M.billings = (L.amend (.text b.id) (changes e moved)).billings) (shop : M.catalog = L.catalog) :
    M.Updates e (b.apply (changes e moved)) none (if Reconcile.takesAway e then target else none) where
  known := by
    have there := carrier?_amend (u := changes e moved) L (.text b.id) (.text e.subscriptionId) rfl
    rw [updates.known, Option.map_some, if_pos rfl] at there
    unfold carrier? at *
    rw [same, there]
  moves := by rw [movedTo_congr shop, movedTo_again updates.moves]
  goes := by rw [destination_congr shop, destination_again updates.goes]

theorem enact_again (updates : L.Updates e b moved target) (whole : M.Sound)
    (same : M.billings = (L.amend (.text b.id) (changes e moved)).billings) (shop : M.catalog = L.catalog) (now : Moment) :
    M.written now (M.decideUpdated e) = M ∧ M.enact now (M.decideUpdated e) = M.finish (b.apply (changes e moved))
      { kind := .subscriptionUpdated, target := if Reconcile.takesAway e then target else none } := by
  have next := updates.again same shop
  rw [next.written whole, next.enact whole, Billing.id_apply, amend_again same, changes_again]
  exact ⟨rfl, rfl⟩

theorem finish_unstranded (updates : L.Updates e b moved target) (unstranded : ¬ L.Strands e)
    (keeps : Reconcile.takesAway e = false) (same : M.accounts = L.accounts) (whole : M.Sound) (owner : c.userId = b.userId) :
    (M.finish c { kind, target }).2 = M := by
  have accounts : M.account? (.text b.userId) = L.account? (.text b.userId) := by
    unfold account?
    rw [same]
  have goes := updates.goes
  unfold destination at goes
  rw [if_neg (by rw [keeps]; decide)] at goes
  cases goes
  unfold finish
  cases moved with
  | none => rfl
  | some product =>
    dsimp only
    rw [owner, accounts]
    cases found : L.account? (.text b.userId) with
    | none => rfl
    | some a =>
      have there : a.user.currentProductId = some product := by
        by_contra elsewhere
        exact unstranded ⟨keeps, b, product, a, updates.known, updates.moves, found, elsewhere⟩
      exact move_same whole (accounts.trans found) there

end Updates

theorem decideUpdated_cases (L : Ledger) (e : SubscriptionUpdated) :
    (∃ outcome, L.decideUpdated e = .rest outcome) ∨ ∃ b moved target, L.Updates e b moved target := by
  unfold decideUpdated onCarrier updateOn
  cases known : L.carrier? (.text e.subscriptionId) with
  | none => exact .inl ⟨_, rfl⟩
  | some b =>
    dsimp only
    cases moves : L.movedTo b e.priceId with
    | error f => exact .inl ⟨_, rfl⟩
    | ok moved =>
      dsimp only
      cases goes : L.destination e moved with
      | error f => exact .inl ⟨_, rfl⟩
      | ok target => exact .inr ⟨b, moved, target, known, moves, goes⟩

theorem enact_updated (L : Ledger) (now now' : Moment) (e : SubscriptionUpdated) :
    L.enact now (L.decideUpdated e) = L.enact now' (L.decideUpdated e) := by
  rcases L.decideUpdated_cases e with ⟨outcome, rest⟩ | ⟨b, moved, target, updates⟩
  · rw [rest]
    rfl
  · rw [updates.decides]
    rfl

-- What can become of a ledger while an update is delivered: nothing yet, the record changed, or all done.
def Reaches (L : Ledger) (e : SubscriptionUpdated) (M : Ledger) : Prop :=
  M = L ∨ ∃ now, M = L.written now (L.decideUpdated e) ∨ M = (L.enact now (L.decideUpdated e)).2

theorem comes_first {result : Except Fault Reconciliation × Ledger}
    (comes : L.Comes now faults (L.decideUpdated e) result) :
    L.Reaches e result.2 ∧ (result.1.isOk → result.2 = (L.enact now (L.decideUpdated e)).2) := by
  rcases comes with calm | ⟨-, f, none | half⟩
  · rw [calm]
    exact ⟨.inr ⟨now, .inr rfl⟩, fun _ => rfl⟩
  · rw [none]
    exact ⟨.inl rfl, nofun⟩
  · rw [half]
    exact ⟨.inr ⟨now, .inl rfl⟩, nofun⟩

theorem Updates.reached (updates : L.Updates e b moved target) (sound : L.Sound) (reached : L.Reaches e M) :
    M = L ∨ M = L.amend (.text b.id) (changes e moved) ∨ M = ((L.amend (.text b.id) (changes e moved)).finish
      (b.apply (changes e moved)) { kind := .subscriptionUpdated, target }).2 := by
  rcases reached with same | ⟨now, half | done⟩
  · exact .inl same
  · rw [half, updates.written sound]
    exact .inr (.inl rfl)
  · rw [done, updates.enact sound]
    exact .inr (.inr rfl)

theorem Updates.finish_again (updates : L.Updates e b moved target) (unstranded : ¬ L.Strands e) (whole : M.Sound)
    (named : half = L.amend (.text b.id) (changes e moved))
    (reached : M = half ∨ M = (half.finish (b.apply (changes e moved)) { kind := .subscriptionUpdated, target }).2) :
    (M.finish (b.apply (changes e moved))
      { kind := .subscriptionUpdated, target := if Reconcile.takesAway e then target else none }).2 =
      (half.finish (b.apply (changes e moved)) { kind := .subscriptionUpdated, target }).2 := by
  cases keeps : Reconcile.takesAway e with
  | true =>
    rcases reached with rfl | rfl
    · rfl
    · exact finish_finish half _ _
  | false =>
    rw [if_neg (by decide), finish_none rfl]
    rcases reached with rfl | rfl
    · exact (updates.finish_unstranded unstranded keeps (by rw [named]; rfl) whole rfl).symm
    · rfl

-- A delivery goes on where earlier ones have stopped, and ends where the first would have ended.
theorem reaches_comes (sound : L.Sound) (unstranded : ¬ L.Strands e) (reached : L.Reaches e M) (whole : M.Sound)
    {result : Except Fault Reconciliation × Ledger} (comes : M.Comes now faults (M.decideUpdated e) result) :
    L.Reaches e result.2 ∧ (result.1.isOk → result.2 = (L.enact now (L.decideUpdated e)).2) := by
  rcases L.decideUpdated_cases e with ⟨outcome, rests⟩ | ⟨b, moved, target, updates⟩
  · have same : M = L := by
      unfold Reaches at reached
      rw [rests] at reached
      rcases reached with rfl | ⟨_, rfl | rfl⟩ <;> rfl
    subst same
    exact comes_first comes
  rcases updates.reached sound reached with rfl | written
  · exact comes_first comes
  obtain ⟨half, named⟩ : ∃ half, half = L.amend (.text b.id) (changes e moved) := ⟨_, rfl⟩
  rw [← named] at written
  have rows : M.billings = half.billings ∧ M.catalog = L.catalog := by
    rcases written with rfl | rfl
    · rw [named]
      exact ⟨rfl, rfl⟩
    · obtain ⟨billings, catalog⟩ := finish_stays half (b.apply (changes e moved)) { kind := .subscriptionUpdated, target }
      rw [billings, catalog, named]
      exact ⟨rfl, rfl⟩
  obtain ⟨stays, ends⟩ := updates.enact_again whole (rows.1.trans (by rw [named])) rows.2 now
  have settled := updates.finish_again unstranded whole named written
  have first := updates.enact sound now
  rw [← named] at first
  rcases comes with calm | ⟨-, f, none | half⟩
  · rw [calm, ends, settled, ← first]
    exact ⟨.inr ⟨now, .inr rfl⟩, fun _ => rfl⟩
  · rw [none]
    exact ⟨reached, nofun⟩
  · rw [half, stays]
    exact ⟨reached, nofun⟩

end Ledger

namespace Store

variable {s : Store} {L : Ledger} {e : SubscriptionUpdated}

theorem redeliver_reaches (sound : L.Sound) (unstranded : ¬ L.Strands e) (proper : e.effectiveExpiry.Proper)
    (sporadic : ∀ w ∈ earlier, Surroundings.Sporadic w) (shows_ : s.Shows M) (whole : M.Sound) (reached : L.Reaches e M) :
    ∃ M', (s.redeliver (.updated e) earlier).Shows M' ∧ M'.Sound ∧ L.Reaches e M' := by
  induction earlier generalizing s M with
  | nil => exact ⟨M, shows_, whole, reached⟩
  | cons w rest ih =>
    obtain ⟨here, later⟩ := List.forall_mem_cons.1 sporadic
    obtain ⟨faults, faulty⟩ := here.faulty
    obtain ⟨result, comes, -, after, kept⟩ :=
      deliver_comes (e := .updated e) shows_ whole here.clock faulty proper
    exact ih later after kept (Ledger.reaches_comes sound unstranded reached whole comes).1

theorem completes_of_unstranded (shows_ : s.Shows L) (sound : L.Sound) (proper : e.effectiveExpiry.Proper)
    (unstranded : ¬ L.Strands e) : s.Completes (.updated e) := by
  intro earlier last calm sporadic once undisturbed succeeds
  obtain ⟨M, before, whole, reached⟩ :=
    redeliver_reaches sound unstranded proper sporadic shows_ sound (.inl rfl)
  obtain ⟨faults, faulty⟩ := once.faulty
  obtain ⟨result, comes, told, after, -⟩ := deliver_comes (e := .updated e) before whole once.clock faulty proper
  obtain ⟨-, done⟩ := Ledger.reaches_comes sound unstranded reached whole comes
  obtain ⟨-, single, -⟩ := deliver_calm (e := .updated e) shows_ sound undisturbed proper
  rw [told] at succeeds
  refine ⟨_, after, ?_⟩
  rw [done succeeds, Ledger.enact_updated L _ calm.now e]
  exact single

end Store

namespace Ledger

open Program Reconcile

variable {L : Ledger} {e : SubscriptionUpdated} {b : Billing}

theorem productOf_of_moved (moves : L.movedTo b priceId = .ok (some product)) :
    ∃ price p, priceId = some price ∧ price ≠ "" ∧ L.productOf price = .ok (some p) ∧ p.id ≠ b.productId ∧
      p.id = product := by
  cases priceId with
  | none => cases moves
  | some price =>
    by_cases priced : price = ""
    · rw [priced] at moves
      cases moves
    · rw [movedTo_priced L b priced] at moves
      cases offer : L.productOf price with
      | error f => rw [offer] at moves; cases moves
      | ok found =>
        rw [offer] at moves
        cases found with
        | none => cases moves
        | some p =>
          dsimp only at moves
          by_cases same : p.id = b.productId
          · rw [if_neg (by simp [same])] at moves
            cases moves
          · rw [if_pos same] at moves
            exact ⟨price, p, rfl, priced, offer, same, Option.some.inj (Except.ok.inj moves)⟩

theorem run_update {f : Billing → Program α} (calm : faults (made + 1) = none)
    (known : L.billing? (.text b.id) = some b) (free : L.amendClashes b u = false) :
    L.run now faults made (query (.updateBilling b.id u) >>= f) =
      (L.amend (.text b.id) u).run now faults (made + 1) (f (b.apply u)) := by
  change L.run now faults made (.ask (.updateBilling b.id u) _) = _
  rw [run, calm]
  dsimp only
  rw [ask_update known, if_neg (by rw [free]; decide)]
  rfl

theorem run_cut_short (sound : L.Sound) (keeps : takesAway e = false)
    (known : L.carrier? (.text e.subscriptionId) = some b) (moves : L.movedTo b e.priceId = .ok (some product))
    (late : faults 5 = some f) (early : ∀ n, n < 5 → faults n = none) :
    L.run now faults 0 (updated e) = (.error f, L.amend (.text b.id) (changes e (some product))) := by
  obtain ⟨member, carries⟩ := sound.carrier?_eq_some.1 known
  have found : L.billingOf? (.text b.userId) = some b := sound.billingOf?_eq_some.2 ⟨member, rfl⟩
  have named : L.billing? (.text b.id) = some b := sound.billing?_eq_some.2 ⟨member, rfl⟩
  have free := amend_meets_none (u := changes e (some product)) sound member rfl
  obtain ⟨price, p, priceId, priced, offer, other, rfl⟩ := productOf_of_moved moves
  unfold updated
  rw [withRecord_eq, run_query (q := .billingBySubscription e.subscriptionId) (early 1 (by decide)) trivial
    (congrArg Except.ok known)]
  change L.run now faults 1 ((underRecordKey _ _ _ _).thenRelease _) = _
  rw [run_thenRelease, underRecordKey, run_query (q := .billingByUser b.userId) (early 2 (by decide)) trivial
    (congrArg Except.ok found)]
  dsimp only
  rw [if_pos carries, priceId, movedTo_priced_program b priced, LawfulMonad.bind_assoc,
    run_query (q := .productByPrice price) (early 3 (by decide)) trivial offer]
  dsimp only
  rw [if_pos other]
  change L.run now faults 3 (Reconcile.destination e (some p.id) >>= _) = _
  unfold Reconcile.destination
  rw [if_neg (by rw [keeps]; decide)]
  change L.run now faults 3 (query (.updateBilling b.id (changes e (some p.id))) >>= _) = _
  refine (run_update (early 4 (by decide)) named free).trans ?_
  change (L.amend (.text b.id) _).run now faults 4 (.ask (.assignProduct b.userId p.id) _) = _
  unfold run
  rw [late]
  rfl

end Ledger

namespace Store

open Ledger (amend_meets_none)

variable {s : Store} {L : Ledger} {e : SubscriptionUpdated}

theorem deliver_cut_short (shows_ : s.Shows L) (sound : L.Sound) (hour : Moment.Clock now) (proper : e.effectiveExpiry.Proper)
    (keeps : Reconcile.takesAway e = false) (known : L.carrier? (.text e.subscriptionId) = some b)
    (moves : L.movedTo b e.priceId = .ok (some product)) :
    (s.deliver (.failing now 5 .timeout) (.updated e)).2.Shows (L.amend (.text b.id) (Ledger.changes e (some product))) ∧
      (L.amend (.text b.id) (Ledger.changes e (some product))).Sound := by
  have faulty : (Surroundings.failing now 5 .timeout).Faulty fun n => if n = 5 then some .timeout else none := by
    intro n
    by_cases here : n = 5 <;> simp [Surroundings.failing, here]
  have cut : L.run now (fun n => if n = 5 then some .timeout else none) 0 (Reconcile.updated e) = _ :=
    Ledger.run_cut_short sound keeps known moves (f := .timeout) rfl fun n early => if_neg (by omega)
  obtain ⟨-, shown⟩ := deliver_shows (e := .updated e) shows_ sound hour faulty proper
  have whole := Ledger.run_sound sound now (fun n => if n = 5 then some .timeout else none) 0 (Reconcile.updated e)
  rw [cut] at whole
  change Shows _ (L.run now _ 0 (Reconcile.updated e)).2 at shown
  rw [cut] at shown
  exact ⟨shown, whole⟩

-- A delivery of an update that strands a user, cut short between the writes, and another one: the user
-- stays behind, where a single delivery moves it.
theorem not_completes_of_strands (shows_ : s.Shows L) (sound : L.Sound) (proper : e.effectiveExpiry.Proper)
    (strands : L.Strands e) : ¬ s.Completes (.updated e) := by
  obtain ⟨keeps, b, product, a, known, moves, found, elsewhere⟩ := strands
  obtain ⟨now, hour⟩ : ∃ now : Moment, now.Clock := ⟨⟨0, some 0⟩, by decide⟩
  have cut : (Surroundings.failing now 5 .timeout).Sporadic := ⟨hour, .inr ⟨5, .timeout, fun _ => rfl⟩⟩
  have quiet : (Surroundings.quiet now).Sporadic := ⟨hour, .inl fun _ => rfl⟩
  have calm := Surroundings.calm_quiet hour
  have updates : L.Updates e b (some product) (some product) := ⟨known, moves, if_neg (by rw [keeps]; decide)⟩
  obtain ⟨half, name⟩ : ∃ half, half = L.amend (.text b.id) (Ledger.changes e (some product)) := ⟨_, rfl⟩
  obtain ⟨first, whole⟩ := deliver_cut_short shows_ sound hour proper keeps known moves
  rw [← name] at first whole
  -- the second delivery finds the record on its plan, and succeeds
  obtain ⟨-, again⟩ := updates.enact_again whole (by rw [name]) (by rw [name]; rfl) now
  rw [if_neg (by rw [keeps]; decide), Ledger.finish_none rfl] at again
  obtain ⟨told, second, -⟩ := deliver_calm (e := .updated e) first whole calm proper
  obtain ⟨-, single, -⟩ := deliver_calm (e := .updated e) shows_ sound calm proper
  change _ = (half.enact now (half.decideUpdated e)).1 at told
  change Shows _ (half.enact now (half.decideUpdated e)).2 at second
  rw [again] at told second
  -- a single delivery moves the user
  have owner : half.account? (.text b.userId) = some a := by
    rw [name]
    exact found
  have moved : (L.enact now (L.decideUpdated e)).2 = half.move (.text b.userId) product := by
    rw [updates.enact sound, ← name]
    unfold Ledger.finish
    dsimp only
    rw [Billing.userId_apply, owner]
  intro completes
  obtain ⟨M, twice, once⟩ := completes [Surroundings.failing now 5 .timeout] (Surroundings.quiet now)
    (Surroundings.quiet now) (List.forall_mem_singleton.2 cut) quiet calm (by
      change (s.deliver _ _).2.deliver _ _ |>.1.isOk
      rw [told]
      rfl)
  have stays : M = half := shows_unique twice second
  have goesOn : M = half.move (.text b.userId) product := (shows_unique once single).trans moved
  have moved' := goesOn.symm.trans stays
  have there : (half.move (.text b.userId) product).account? (.text b.userId) = some { a with user := a.user.moved product } := by
    rw [Ledger.account?_move, owner, Option.map_some]
    rw [if_pos (congrArg Document.text (sound.account?_eq_some.1 found).2)]
  rw [moved', owner] at there
  refine elsewhere ?_
  rw [Option.some.inj there]
  rfl

-- Redelivery completes an update exactly when the update strands nobody.
theorem completes_iff_unstranded (shows_ : s.Shows L) (sound : L.Sound) (proper : e.effectiveExpiry.Proper) :
    s.Completes (.updated e) ↔ ¬ L.Strands e :=
  ⟨fun completes strands => not_completes_of_strands shows_ sound proper strands completes,
    completes_of_unstranded shows_ sound proper⟩

end Store

def Ledger.Placed (L : Ledger) : Prop :=
  ∀ b ∈ L.billings, ∀ a ∈ L.accounts, a.user.id = b.userId →
    a.user.currentProductId = some b.productId ∨ ∃ p, L.defaultProduct = .ok p ∧ a.user.currentProductId = some p.id

namespace Shop

theorem strands_change (other : billed ≠ "pro") (elsewhere : served ≠ "pro") :
    (ledger .active billed served).Strands (change (some .active) (some "price-pro")) := by
  refine ⟨rfl, bill .active billed, "pro", ann served, rfl, ?_, rfl, fun same => elsewhere (Option.some.inj same)⟩
  rw [change, Ledger.movedTo_priced _ _ (by decide), productOf_pro]
  exact congrArg Except.ok (if_pos fun same => other same.symm)

theorem completes_past_due : (ledger .active "pro" "pro").store.Completes (.updated (change (some .pastDue) none)) := by
  refine (Store.completes_iff_unstranded (shows_ .active "pro" "pro" (by decide)) (sound _ _ _) (by decide)).2 ?_
  rintro ⟨-, b, product, a, -, moves, -⟩
  cases moves

theorem plan_change_incomplete : (ledger .active "free" "free").store.Shows (ledger .active "free" "free") ∧
    (ledger .active "free" "free").Sound ∧ (ledger .active "free" "free").Placed ∧
      ¬ (ledger .active "free" "free").store.Completes (.updated (change (some .active) (some "price-pro"))) := by
  have shown := shows_ .active "free" "free" (by decide)
  refine ⟨shown, sound _ _ _, ?_, ?_⟩
  · intro b billed a served _
    cases List.mem_singleton.1 billed
    cases List.mem_singleton.1 served
    exact .inl rfl
  · exact Store.not_completes_of_strands shown (sound _ _ _) (by decide) (strands_change (by decide : "free" ≠ "pro") (by decide))

end Shop
end SubscriptionLedger
