import SubscriptionLedger.Proofs.Decision

namespace SubscriptionLedger

def Store.deliver (s : Store) (w : Surroundings) (e : Event) : Except Fault Reconciliation × Store :=
  (((reconcile w.now e).run w { store := s }).1, ((reconcile w.now e).run w { store := s }).2.store)

def Store.deliverAll (s : Store) : List (Surroundings × Event) → Store
  | [] => s
  | (w, e) :: rest => (s.deliver w e).2.deliverAll rest

-- A clock that shows moments of the calendar, and nothing that happens before any call.
structure Surroundings.Calm (w : Surroundings) : Prop where
  clock : w.now.Clock
  quiet : ∀ n, w.disturbances n = []

def Surroundings.quiet (now : Moment) : Surroundings := ⟨now, fun _ => .error .connection, fun _ => []⟩

theorem Surroundings.calm_quiet {now : Moment} (clock : now.Clock) : (Surroundings.quiet now).Calm := ⟨clock, fun _ => rfl⟩

namespace Store

variable {s : Store} {L : Ledger} {w : Surroundings} {e : Event}

theorem shows_unique (first : s.Shows L) (second : s.Shows L') : L = L' := by
  have accounts : Relator.RightUnique Account.Stands := by
    intro row a a' one other
    have user := Except.ok.inj (one.read.symm.trans other.read)
    have address := Document.text.inj (Option.some.inj (one.address.symm.trans other.address))
    cases a
    cases a'
    cases user
    cases address
    rfl
  have billings : Relator.RightUnique Billing.Stands := fun row b b' one other =>
    Except.ok.inj (one.read.symm.trans other.read)
  cases L
  cases L'
  obtain ⟨users, products, entries, inserted⟩ := first
  obtain ⟨users', products', entries', inserted'⟩ := second
  cases accounts.forall₂ users users'
  cases billings.forall₂ entries entries'
  cases products.symm.trans products'
  cases inserted.symm.trans inserted'
  rfl

theorem deliver_shows (shows_ : s.Shows L) (sound : L.Sound) (clock : w.now.Clock) (faulty : w.Faulty faults)
    (proper : e.Proper) : (s.deliver w e).1 = (L.run w.now faults 0 (reconcile w.now e)).1 ∧
      (s.deliver w e).2.Shows (L.run w.now faults 0 (reconcile w.now e)).2 :=
  Program.run_shows (plain_reconcile clock.here proper) clock faulty shows_ sound

theorem deliver_comes (shows_ : s.Shows L) (sound : L.Sound) (clock : w.now.Clock) (faulty : w.Faulty faults)
    (proper : e.Proper) : ∃ run, L.Comes w.now faults (L.decision w.now e) run ∧ (s.deliver w e).1 = run.1 ∧
      (s.deliver w e).2.Shows run.2 ∧ run.2.Sound := by
  obtain ⟨result, after⟩ := deliver_shows shows_ sound clock faulty proper
  exact ⟨_, Ledger.run_opens sound (Ledger.opens_reconcile sound w.now e), result, after,
    Ledger.run_sound sound w.now faults 0 _⟩

theorem deliver_calm (shows_ : s.Shows L) (sound : L.Sound) (calm : w.Calm) (proper : e.Proper) :
    (s.deliver w e).1 = (L.enact w.now (L.decision w.now e)).1 ∧
      (s.deliver w e).2.Shows (L.enact w.now (L.decision w.now e)).2 ∧
      (L.enact w.now (L.decision w.now e)).2.Sound := by
  have faulty : w.Faulty fun _ => none := fun n => calm.quiet n
  obtain ⟨result, after⟩ := deliver_shows shows_ sound calm.clock faulty proper
  have kept := Ledger.run_sound sound w.now (fun _ => none) 0 (reconcile w.now e)
  rw [Ledger.run_reconcile sound] at result after kept
  exact ⟨result, after, kept⟩

end Store

namespace Ledger

variable {L M : Ledger} {b : Billing} {u : BillingUpdate}

theorem productOf_congr (shop : M.catalog = L.catalog) (price : Document) : M.productOf price = L.productOf price := by
  unfold productOf offered
  rw [shop]

theorem defaultProduct_congr (shop : M.catalog = L.catalog) : M.defaultProduct = L.defaultProduct := by
  unfold defaultProduct offered
  rw [shop]

theorem movedTo_congr (shop : M.catalog = L.catalog) (b : Billing) (priceId : Option String) :
    M.movedTo b priceId = L.movedTo b priceId := by
  unfold movedTo
  simp only [productOf_congr shop]

theorem destination_congr (shop : M.catalog = L.catalog) (e : SubscriptionUpdated) (moved : Option String) :
    M.destination e moved = L.destination e moved := by
  unfold destination
  rw [defaultProduct_congr shop]

theorem updateOn_congr (shop : M.catalog = L.catalog) (e : SubscriptionUpdated) (b : Billing) :
    M.updateOn e b = L.updateOn e b := by
  unfold updateOn
  simp only [movedTo_congr shop, destination_congr shop]

theorem cancelOn_congr (shop : M.catalog = L.catalog) (now : Moment) (e : SubscriptionDeleted) (b : Billing) :
    M.cancelOn now e b = L.cancelOn now e b := by
  unfold cancelOn
  rw [defaultProduct_congr shop]

theorem carrier?_amend (L : Ledger) (name subscription : Document) (same : u.subscriptionId = none) :
    (L.amend name u).carrier? subscription =
      (L.carrier? subscription).map fun b => if .text b.id = name then b.apply u else b := by
  unfold carrier? amend
  rw [List.find?_map]
  refine congrArg (Option.map _) (congrArg (List.find? · L.billings) (funext fun b => ?_))
  dsimp only [Function.comp]
  split
  · rw [Billing.apply, same]
    rfl
  · rfl

theorem amend_amend (L : Ledger) (name : Document) (u v : BillingUpdate) :
    (L.amend name u).amend name v =
      { L with billings := L.billings.map fun b => if .text b.id = name then (b.apply u).apply v else b } := by
  unfold amend
  rw [List.map_map]
  refine congrArg (fun bs => { L with billings := bs }) (List.map_congr_left fun b _ => ?_)
  by_cases here : Document.text b.id = name <;> simp [here]

theorem account?_move (L : Ledger) (name other : Document) (productId : String) :
    (L.move name productId).account? other =
      (L.account? other).map fun a =>
        if .text a.user.id = name then { a with user := a.user.moved productId } else a := by
  unfold account? move
  rw [List.find?_map]
  refine congrArg (Option.map _) (congrArg (List.find? · L.accounts) (funext fun a => ?_))
  dsimp only [Function.comp]
  split <;> rfl

theorem move_move (L : Ledger) (name : Document) (p q : String) : (L.move name p).move name q = L.move name q := by
  unfold move
  rw [List.map_map]
  refine congrArg (fun as => { L with accounts := as }) (List.map_congr_left fun a _ => ?_)
  by_cases here : Document.text a.user.id = name
  · simp [here, User.moved]
  · simp [here]

theorem move_same (sound : L.Sound) (known : L.account? (.text userId) = some a)
    (there : a.user.currentProductId = some p) : L.move (.text userId) p = L := by
  have kept : L.accounts.map (fun a =>
      if Document.text a.user.id = .text userId then { a with user := a.user.moved p } else a) = L.accounts := by
    refine (List.map_congr_left fun other member => ?_).trans (List.map_id' L.accounts)
    split
    · rename_i here
      have same := sound.account?_eq_some.2 ⟨member, Document.text.inj here⟩
      cases Option.some.inj (known.symm.trans same)
      rw [User.moved, ← there]
    · rfl
  unfold move
  rw [kept]

theorem amend_meets_none (sound : L.Sound) (member : b ∈ L.billings) (same : u.subscriptionId = none) :
    L.amendClashes b u = false := by
  refine List.any_eq_false.2 fun other there => ?_
  have kept : (b.apply u).shares other = b.shares other := by
    unfold Billing.shares Billing.apply
    rw [same]
    rfl
  simp only [kept, Bool.and_eq_true, decide_eq_true_eq, not_and]
  intro distinct shared
  exact distinct (congrArg (fun b : Billing => Document.text b.id) (sound.eq_of_shares member there shared).symm)

end Ledger
end SubscriptionLedger
