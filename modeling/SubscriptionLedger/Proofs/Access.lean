import SubscriptionLedger.Proofs.Delivery
import SubscriptionLedger.Proofs.Notice
import SubscriptionLedger.Proofs.Writing

namespace SubscriptionLedger

-- Something that ties each record to the plan of its user.
def Ledger.Tied (tie : Billing → Option String → Prop) (L : Ledger) : Prop :=
  ∀ b ∈ L.billings, ∀ a ∈ L.accounts, a.user.id = b.userId → tie b a.user.currentProductId

def Billing.ServedOn (b : Billing) (plan : Option String) : Prop := b.status = .active → plan = some b.productId

def Billing.EndedOn (standard : String) (b : Billing) (plan : Option String) : Prop :=
  b.status = .canceled → plan = some standard

namespace Ledger

variable {L M : Ledger} {tie : Billing → Option String → Prop} {b c : Billing} {u : BillingUpdate} {t : Sequel}

theorem amend_sound_of_free (sound : L.Sound) (member : b ∈ L.billings) (free : L.amendClashes b u = false) :
    (L.amend (.text b.id) u).Sound := by
  refine amend_sound sound (sound.billing?_eq_some.2 ⟨member, rfl⟩) fun other there distinct shared => ?_
  have clear := List.any_eq_false.1 free other there
  simp only [Bool.and_eq_true, decide_eq_true_eq, not_and] at clear
  exact clear distinct shared

theorem eq_of_owner (sound : L.Sound) (first : b ∈ L.billings) (second : c ∈ L.billings) (same : b.userId = c.userId) :
    b = c :=
  sound.eq_of_shares first second (by simp [Billing.shares, same])

theorem tied_rest (member : c ∈ M.billings)
    (others : ∀ b ∈ M.billings, b ≠ c → ∀ a ∈ M.accounts, a.user.id = b.userId → tie b a.user.currentProductId) :
    M.Tied tie ↔ ∀ a ∈ M.accounts, a.user.id = c.userId → tie c a.user.currentProductId := by
  constructor
  · intro tied a known own
    exact tied c member a known own
  · intro here b billed a known own
    by_cases same : b = c
    · subst same
      exact here a known own
    · exact others b billed same a known own

theorem tied_move (sound : M.Sound) (member : c ∈ M.billings)
    (others : ∀ b ∈ M.billings, b ≠ c → ∀ a ∈ M.accounts, a.user.id = b.userId → tie b a.user.currentProductId) :
    (M.move (.text c.userId) plan).Tied tie ↔ ∀ a ∈ M.accounts, a.user.id = c.userId → tie c (some plan) := by
  constructor
  · intro tied a known own
    have moved : { a with user := a.user.moved plan } ∈ (M.move (.text c.userId) plan).accounts :=
      List.mem_map.2 ⟨a, known, if_pos (congrArg Document.text own)⟩
    exact tied c member _ moved own
  · intro here b billed a' known own
    obtain ⟨a, user, rfl⟩ := List.mem_map.1 known
    by_cases same : b = c
    · subst same
      have owner : a.user.id = b.userId := by
        split at own <;> exact own
      rw [if_pos (congrArg Document.text owner)]
      exact here a user owner
    · by_cases owner : a.user.id = c.userId
      · rw [if_pos (congrArg Document.text owner)] at own
        exact absurd (eq_of_owner sound billed member (own.symm.trans owner)) same
      · rw [if_neg fun same => owner (Document.text.inj same)] at own ⊢
        exact others b billed same a user own

theorem tied_finish (sound : M.Sound) (member : c ∈ M.billings)
    (others : ∀ b ∈ M.billings, b ≠ c → ∀ a ∈ M.accounts, a.user.id = b.userId → tie b a.user.currentProductId) :
    (M.finish c t).2.Tied tie ↔
      ∀ a ∈ M.accounts, a.user.id = c.userId → tie c (t.target.or a.user.currentProductId) := by
  unfold finish
  cases t.target with
  | none => exact tied_rest member others
  | some plan =>
    dsimp only [Option.some_or]
    cases known : M.account? (.text c.userId) with
    | none =>
      have nobody : ∀ a ∈ M.accounts, a.user.id ≠ c.userId := by
        intro a there own
        rw [sound.account?_eq_some.2 ⟨there, own⟩] at known
        cases known
      refine (tied_rest member others).trans ⟨?_, ?_⟩
      · intro _ a there own
        exact absurd own (nobody a there)
      · intro _ a there own
        exact absurd own (nobody a there)
    | some => exact tied_move sound member others

theorem tied_amend (sound : L.Sound) (tied : L.Tied tie) (member : b ∈ L.billings) (free : L.amendClashes b u = false) :
    (L.enact now (.amend b u t)).2.Tied tie ↔
      ∀ a ∈ L.accounts, a.user.id = b.userId → tie (b.apply u) (t.target.or a.user.currentProductId) := by
  have written : b.apply u ∈ (L.amend (.text b.id) u).billings := List.mem_map.2 ⟨b, member, if_pos rfl⟩
  unfold enact
  dsimp only
  rw [if_neg (by rw [free]; decide)]
  refine tied_finish (amend_sound_of_free sound member free) written fun other billed distinct a known own => ?_
  obtain ⟨x, old, rfl⟩ := List.mem_map.1 billed
  by_cases here : Document.text x.id = .text b.id
  · have same : x = b := eq_of_apart sound.ids old member (Document.text.inj here)
    rw [if_pos here, same] at distinct
    exact absurd rfl distinct
  · rw [if_neg here] at own ⊢
    exact tied x old a known own

theorem tied_create (sound : L.Sound) (tied : L.Tied tie) (free : L.createClashes now new = false) :
    (L.enact now (.create new t)).2.Tied tie ↔
      ∀ a ∈ L.accounts, a.user.id = new.userId → tie (L.opened now new) (t.target.or a.user.currentProductId) := by
  have whole : (L.add (L.opened now new)).Sound := add_sound sound fun other there shared => by
    have clear := List.any_eq_false.1 free other there
    exact clear shared
  have written : L.opened now new ∈ (L.add (L.opened now new)).billings :=
    List.mem_append.2 (.inr (List.mem_singleton.2 rfl))
  unfold enact
  dsimp only
  rw [if_neg (by rw [free]; decide)]
  refine tied_finish whole written fun other billed distinct a known own => ?_
  rcases List.mem_append.1 billed with old | fresh
  · exact tied other old a known own
  · exact absurd (List.mem_singleton.1 fresh) distinct

theorem settle_tied (sound : L.Sound) (tied : L.Tied tie) (member : a ∈ L.accounts)
    (paid : ∀ c : Billing, c.status = .active → tie c (some c.productId)) :
    (L.enact now (L.decideSettle a.user product e)).2.Tied tie := by
  have served : ∀ other ∈ L.accounts, other.user.id = a.user.id →
      (paidSequel a.user product).target.or other.user.currentProductId = some product.id := by
    intro other there same
    have one : other = a := eq_of_apart (f := fun a : Account => a.user.id) sound.users there member same
    subst one
    unfold paidSequel
    dsimp only
    split
    · rename_i there
      rw [Option.none_or, there]
    · rfl
  unfold decideSettle
  cases found : L.billingOf? (.text a.user.id) with
  | some b =>
    obtain ⟨billed, owner⟩ := sound.billingOf?_eq_some.1 found
    by_cases free : L.amendClashes b (Reconcile.renewal b product e) = false
    · refine (tied_amend sound tied billed free).2 fun other there own => ?_
      rw [served other there (own.trans owner)]
      have plan : (b.apply (Reconcile.renewal b product e)).productId = product.id := by
        unfold Billing.apply Reconcile.renewal
        dsimp only
        by_cases same : b.productId = product.id <;> simp [same]
      rw [← plan]
      exact paid _ rfl
    · unfold enact
      dsimp only
      rw [if_pos (by simpa using free)]
      exact tied
  | none =>
    by_cases free : L.createClashes now (Reconcile.opening a.user product e) = false
    · refine (tied_create sound tied free).2 fun other there own => ?_
      rw [served other there own]
      exact paid (L.opened now (Reconcile.opening a.user product e)) rfl
    · unfold enact
      dsimp only
      rw [if_pos (by simpa using free)]
      exact tied

def Breaks (tie : Billing → Option String → Prop) (L : Ledger) : Event → Prop
  | .updated e => ∃ b moved target a, L.carrier? (.text e.subscriptionId) = some b ∧ L.movedTo b e.priceId = .ok moved ∧
      L.destination e moved = .ok target ∧ a ∈ L.accounts ∧ a.user.id = b.userId ∧
      ¬ tie (b.apply (changes e moved)) (target.or a.user.currentProductId)
  | _ => False

theorem updated_tied (sound : L.Sound) (tied : L.Tied tie) :
    (L.enact now (L.decideUpdated e)).2.Tied tie ↔ ¬ L.Breaks tie (.updated e) := by
  unfold decideUpdated onCarrier updateOn Breaks
  dsimp only
  cases known : L.carrier? (.text e.subscriptionId) with
  | none => exact iff_of_true tied (by rintro ⟨b, -, -, -, none, -⟩; cases none)
  | some b =>
    dsimp only
    cases moves : L.movedTo b e.priceId with
    | error f => exact iff_of_true tied (by rintro ⟨_, _, _, _, ⟨⟩, stuck, -⟩; rw [moves] at stuck; cases stuck)
    | ok moved =>
      dsimp only
      cases goes : L.destination e moved with
      | error f =>
        refine iff_of_true tied ?_
        rintro ⟨_, _, _, _, ⟨⟩, same, stuck, -⟩
        rw [moves] at same
        cases same
        rw [goes] at stuck
        cases stuck
      | ok target =>
        obtain ⟨member, -⟩ := sound.carrier?_eq_some.1 known
        refine (tied_amend sound tied member (amend_meets_none sound member rfl)).trans ⟨?_, ?_⟩
        · rintro kept ⟨_, _, _, a, ⟨⟩, same, there, user, own, broken⟩
          rw [moves] at same
          cases same
          rw [goes] at there
          cases there
          exact broken (kept a user own)
        · intro unbroken a user own
          by_contra broken
          exact unbroken ⟨b, moved, target, a, rfl, moves, goes, user, own, broken⟩

theorem amend_keeps (sound : L.Sound) (tied : L.Tied tie) (member : b ∈ L.billings) (same : u.subscriptionId = none)
    (fits : ∀ plan, tie (b.apply u) (t.target.or plan)) : (L.enact now (.amend b u t)).2.Tied tie :=
  (tied_amend sound tied member (amend_meets_none sound member same)).2 fun _ _ _ => fits _

-- What ties records to plans is kept by every event, if it holds on for records that get past due, but for the
-- updates that break it.
theorem enact_tied (sound : L.Sound) (tied : L.Tied tie) (paid : ∀ c : Billing, c.status = .active → tie c (some c.productId))
    (late : ∀ c plan, tie c plan → tie { c with status := .pastDue } plan)
    (ended : ∀ c p, c.status = .canceled → L.defaultProduct = .ok p → tie c (some p.id)) (now reading : Moment) (e : Event) :
    (L.enact now (L.decision reading e)).2.Tied tie ↔ ¬ L.Breaks tie e := by
  cases e with
  | paid e =>
    refine iff_of_true ?_ nofun
    dsimp only [decision, decidePaid]
    cases L.productOf e.priceId with
    | error => exact tied
    | ok found =>
      cases found with
      | none => exact tied
      | some product =>
        dsimp only
        cases account : L.accountAt? (Query.keptEmail e.customerEmail) with
        | none => exact tied
        | some a => exact settle_tied sound tied (List.mem_of_find?_eq_some account) paid
  | paymentFailed e =>
    refine iff_of_true ?_ nofun
    dsimp only [decision, decideFailed, onCarrier]
    cases known : L.carrier? (.text e.subscriptionId) with
    | none => exact tied
    | some b =>
      obtain ⟨member, -⟩ := sound.carrier?_eq_some.1 known
      refine (tied_amend sound tied member (amend_meets_none sound member rfl)).2 fun a user own => ?_
      exact late b _ (tied b member a user own)
  | updated e => exact updated_tied sound tied
  | deleted e =>
    refine iff_of_true ?_ nofun
    dsimp only [decision, decideDeleted, onCarrier, cancelOn]
    cases known : L.carrier? (.text e.subscriptionId) with
    | none => exact tied
    | some b =>
      dsimp only
      cases standard : L.defaultProduct with
      | error => exact tied
      | ok product => exact amend_keeps sound tied (sound.carrier?_eq_some.1 known).1 rfl fun plan => ended _ _ rfl standard
  | ignored e => exact iff_of_true tied nofun

-- An update that makes a record active and does not move it, while its user is on another plan.
def Overlooks (L : Ledger) : Event → Prop
  | .updated e => e.status = some .active ∧ ∃ b a, L.carrier? (.text e.subscriptionId) = some b ∧
      L.movedTo b e.priceId = .ok none ∧ L.account? (.text b.userId) = some a ∧
      a.user.currentProductId ≠ some b.productId
  | _ => False

-- An update without a status that moves a canceled record, and its user, to another than the default plan.
def Readmits (standard : String) (L : Ledger) : Event → Prop
  | .updated e => e.status = none ∧ ∃ b a plan, L.carrier? (.text e.subscriptionId) = some b ∧ b.status = .canceled ∧
      L.movedTo b e.priceId = .ok (some plan) ∧ plan ≠ standard ∧ L.account? (.text b.userId) = some a
  | _ => False

theorem takesAway_of_consistent {e : SubscriptionUpdated} (consistent : (Event.updated e).Consistent)
    (ends : Reconcile.takesAway e) : e.status = some .pastDue ∨ e.status = some .canceled := by
  obtain ⟨-, revokes⟩ := consistent
  unfold Reconcile.takesAway at ends
  simp only [Bool.or_eq_true, beq_iff_eq] at ends
  rcases ends with revoked | canceled
  · exact revokes revoked
  · exact .inr canceled

theorem destination_kept (keeps : ¬ Reconcile.takesAway e) (goes : L.destination e moved = .ok target) : target = moved := by
  unfold destination at goes
  rw [if_neg keeps] at goes
  exact (Except.ok.inj goes).symm

theorem breaks_served (sound : L.Sound) (tied : L.Tied Billing.ServedOn) (consistent : e.Consistent) :
    L.Breaks Billing.ServedOn e ↔ L.Overlooks e := by
  cases e with
  | updated e =>
    constructor
    · rintro ⟨b, moved, target, a, known, moves, goes, user, own, apart⟩
      unfold Billing.ServedOn at apart
      obtain ⟨active, apart⟩ := Classical.not_imp.1 apart
      change e.status.getD b.status = .active at active
      have keeps : ¬ Reconcile.takesAway e := by
        intro ends
        rcases takesAway_of_consistent consistent ends with late | canceled
        · rw [late] at active
          cases active
        · rw [canceled] at active
          cases active
      cases destination_kept keeps goes
      cases moved with
      | some plan => exact absurd rfl apart
      | none =>
        cases told : e.status with
        | none =>
          rw [told] at active
          exact absurd (tied b (sound.carrier?_eq_some.1 known).1 a user own active) apart
        | some status =>
          rw [told] at active
          cases active
          exact ⟨told, b, a, known, moves, sound.account?_eq_some.2 ⟨user, own⟩, apart⟩
    · rintro ⟨told, b, a, known, moves, found, apart⟩
      obtain ⟨user, own⟩ := sound.account?_eq_some.1 found
      have keeps : ¬ Reconcile.takesAway e := by
        intro ends
        rcases takesAway_of_consistent consistent ends with late | canceled
        · rw [told] at late
          cases late
        · rw [told] at canceled
          cases canceled
      refine ⟨b, none, none, a, known, moves, if_neg keeps, user, own, fun served => apart (served ?_)⟩
      change e.status.getD b.status = .active
      rw [told]
      rfl
  | _ => exact Iff.rfl

theorem breaks_ended (sound : L.Sound) (standard : L.defaultProduct = .ok p) (tied : L.Tied (Billing.EndedOn p.id))
    (consistent : e.Consistent) : L.Breaks (Billing.EndedOn p.id) e ↔ L.Readmits p.id e := by
  cases e with
  | updated e =>
    constructor
    · rintro ⟨b, moved, target, a, known, moves, goes, user, own, apart⟩
      unfold Billing.EndedOn at apart
      obtain ⟨canceled, apart⟩ := Classical.not_imp.1 apart
      change e.status.getD b.status = .canceled at canceled
      have keeps : ¬ Reconcile.takesAway e := by
        intro ends
        unfold destination at goes
        rw [if_pos ends, standard] at goes
        cases goes
        exact apart rfl
      cases destination_kept keeps goes
      cases told : e.status with
      | some status =>
        rw [told] at canceled
        cases canceled
        exact absurd (by simp [Reconcile.takesAway, told]) keeps
      | none =>
        rw [told] at canceled
        cases moved with
        | none => exact absurd (tied b (sound.carrier?_eq_some.1 known).1 a user own canceled) apart
        | some plan =>
          refine ⟨told, b, a, plan, known, canceled, moves, fun same => apart ?_, sound.account?_eq_some.2 ⟨user, own⟩⟩
          exact congrArg some same
    · rintro ⟨told, b, a, plan, known, canceled, moves, apart, found⟩
      obtain ⟨user, own⟩ := sound.account?_eq_some.1 found
      have keeps : ¬ Reconcile.takesAway e := by
        intro ends
        rcases takesAway_of_consistent consistent ends with late | ended
        · rw [told] at late
          cases late
        · rw [told] at ended
          cases ended
      refine ⟨b, some plan, some plan, a, known, moves, if_neg keeps, user, own, fun ended => apart ?_⟩
      refine Option.some.inj (ended ?_)
      change e.status.getD b.status = .canceled
      rw [told]
      exact canceled
  | _ => exact Iff.rfl

theorem finish_catalog (L : Ledger) (b : Billing) (t : Sequel) : (L.finish b t).2.catalog = L.catalog := by
  unfold finish
  cases t.target with
  | none => rfl
  | some plan =>
    dsimp only
    cases L.account? (.text b.userId) <;> rfl

theorem enact_catalog (L : Ledger) (now : Moment) (d : Decision) : (L.enact now d).2.catalog = L.catalog := by
  cases d with
  | rest => rfl
  | amend b u t =>
    dsimp only [enact]
    split
    · rfl
    · exact finish_catalog _ _ t
  | create new t =>
    dsimp only [enact]
    split
    · rfl
    · exact finish_catalog _ _ t

end Ledger

namespace Store

variable {s : Store} {L : Ledger} {P : Ledger → Prop} {bad : Ledger → Event → Prop}
  {steps : List (Surroundings × Event)}

def Throughout (s : Store) (steps : List (Surroundings × Event)) (P : Ledger → Prop) : Prop :=
  ∀ earlier, earlier <+: steps → ∀ M, (s.deliverAll earlier).Shows M → P M

def Meets (s : Store) (steps : List (Surroundings × Event)) (bad : Ledger → Event → Prop) : Prop :=
  ∃ earlier w e, earlier ++ [(w, e)] <+: steps ∧ ∃ M, (s.deliverAll earlier).Shows M ∧ bad M e

theorem throughout_cons : s.Throughout ((w, e) :: steps) P ↔
    (∀ M, s.Shows M → P M) ∧ (s.deliver w e).2.Throughout steps P := by
  constructor
  · intro whole
    refine ⟨whole [] List.nil_prefix, fun earlier here => ?_⟩
    exact whole ((w, e) :: earlier) (List.cons_prefix_cons.2 ⟨rfl, here⟩)
  · rintro ⟨now, later⟩ earlier here
    cases earlier with
    | nil => exact now
    | cons first earlier =>
      obtain ⟨rfl, rest⟩ := List.cons_prefix_cons.1 here
      exact later earlier rest

theorem meets_cons : s.Meets ((w, e) :: steps) bad ↔ (∃ M, s.Shows M ∧ bad M e) ∨ (s.deliver w e).2.Meets steps bad := by
  constructor
  · rintro ⟨earlier, w', e', here, met⟩
    cases earlier with
    | nil =>
      obtain ⟨same, -⟩ := List.cons_prefix_cons.1 here
      cases same
      exact .inl met
    | cons first earlier =>
      obtain ⟨rfl, rest⟩ := List.cons_prefix_cons.1 here
      exact .inr ⟨earlier, w', e', rest, met⟩
  · rintro (met | ⟨earlier, w', e', here, met⟩)
    · exact ⟨[], w, e, List.cons_prefix_cons.2 ⟨rfl, List.nil_prefix⟩, met⟩
    · exact ⟨(w, e) :: earlier, w', e', List.cons_prefix_cons.2 ⟨rfl, here⟩, met⟩

theorem not_meets_nil : ¬ s.Meets [] bad := by
  rintro ⟨earlier, w, e, here, -⟩
  have none := List.prefix_nil.1 here
  simp at none

theorem throughout_iff (shows_ : s.Shows L) (sound : L.Sound) (start : P L)
    (calm : ∀ step ∈ steps, step.1.Calm ∧ step.2.Noticed)
    (breaks : ∀ M now e, M.Sound → M.catalog = L.catalog → P M → Event.Consistent e →
      (P (M.enact now (M.decision now e)).2 ↔ ¬ bad M e)) : s.Throughout steps P ↔ ¬ s.Meets steps bad := by
  induction steps generalizing s L with
  | nil =>
    refine iff_of_true (fun earlier here M other => ?_) not_meets_nil
    cases List.prefix_nil.1 here
    exact shows_unique shows_ other ▸ start
  | cons first steps ih =>
    obtain ⟨w, e⟩ := first
    obtain ⟨⟨quiet, noticed⟩, later⟩ := List.forall_mem_cons.1 calm
    obtain ⟨-, after, whole⟩ := deliver_calm shows_ sound quiet noticed.consistent.1
    have here := breaks L w.now e sound rfl start noticed.consistent
    have now : ∀ M, s.Shows M → P M := fun M other => shows_unique shows_ other ▸ start
    have met : (∃ M, s.Shows M ∧ bad M e) ↔ bad L e :=
      ⟨fun ⟨_, other, broken⟩ => shows_unique shows_ other ▸ broken, fun broken => ⟨L, shows_, broken⟩⟩
    rw [throughout_cons, meets_cons, met]
    by_cases broken : bad L e
    · refine iff_of_false ?_ fun clear => clear (.inl broken)
      rintro ⟨-, rest⟩
      exact here.1 (rest [] List.nil_prefix _ after) broken
    · have rest := ih after whole (here.2 broken) later fun M now e whole same =>
        breaks M now e whole (same.trans (L.enact_catalog _ _))
      rw [rest]
      exact ⟨fun clear met => clear.2 (met.resolve_left broken), fun clear => ⟨now, fun met => clear (.inr met)⟩⟩

end Store

namespace Ledger

variable {L M : Ledger}

theorem enact_served (sound : M.Sound) (tied : M.Tied Billing.ServedOn) (consistent : Event.Consistent e) :
    (M.enact now (M.decision now e)).2.Tied Billing.ServedOn ↔ ¬ M.Overlooks e := by
  rw [← breaks_served sound tied consistent]
  refine enact_tied sound tied (fun c active _ => rfl) ?_ ?_ now now e
  · intro c plan _ active
    cases active
  · intro c p canceled _ active
    rw [canceled] at active
    cases active

theorem enact_ended (sound : M.Sound) (standard : M.defaultProduct = .ok p) (tied : M.Tied (Billing.EndedOn p.id))
    (consistent : Event.Consistent e) :
    (M.enact now (M.decision now e)).2.Tied (Billing.EndedOn p.id) ↔ ¬ M.Readmits p.id e := by
  rw [← breaks_ended sound standard tied consistent]
  refine enact_tied sound tied ?_ ?_ ?_ now now e
  · intro c active canceled
    rw [active] at canceled
    cases canceled
  · intro c plan _ canceled
    cases canceled
  · intro c q _ other _
    rw [standard] at other
    cases other
    rfl

end Ledger

namespace Store

variable {s : Store} {L : Ledger} {steps : List (Surroundings × Event)}

-- Users with an active record are on its plan throughout, exactly if no update overlooks one.
theorem served_throughout_iff (shows_ : s.Shows L) (sound : L.Sound) (served : L.Tied Billing.ServedOn)
    (calm : ∀ step ∈ steps, step.1.Calm ∧ step.2.Noticed) :
    s.Throughout steps (Ledger.Tied Billing.ServedOn) ↔ ¬ s.Meets steps Ledger.Overlooks :=
  throughout_iff shows_ sound served calm fun _ _ _ whole _ => Ledger.enact_served whole

-- Users with a canceled record are on the default plan throughout, exactly if no update readmits one.
theorem ended_throughout_iff (shows_ : s.Shows L) (sound : L.Sound) (standard : L.defaultProduct = .ok p)
    (ended : L.Tied (Billing.EndedOn p.id)) (calm : ∀ step ∈ steps, step.1.Calm ∧ step.2.Noticed) :
    s.Throughout steps (Ledger.Tied (Billing.EndedOn p.id)) ↔ ¬ s.Meets steps (Ledger.Readmits p.id) :=
  throughout_iff shows_ sound ended calm fun _ _ _ whole shop =>
    Ledger.enact_ended whole ((Ledger.defaultProduct_congr shop).trans standard)

end Store

namespace Shop

def failure : Event := .paymentFailed ⟨⟨none, "invoice.payment_failed"⟩, "sub"⟩

theorem failure_noticed : failure.Noticed :=
  ⟨.object [("type", .text "invoice.payment_failed"),
    ("data", .object [("object", .object [("subscription", .text "sub")])])], by decide +kernel⟩

def recovery : Event := .updated (change (some .active) none)

theorem recovery_noticed : recovery.Noticed :=
  ⟨.object [("type", .text "customer.subscription.updated"),
    ("data", .object [("object", .object [("id", .text "sub"), ("status", .text "active"),
      ("current_period_end", .int 1893456000), ("items", .object [("data", .list [.object []])])])])], by decide +kernel⟩

def upgrade : Event := .updated (change none (some "price-pro"))

theorem upgrade_noticed : upgrade.Noticed :=
  ⟨.object [("type", .text "customer.subscription.updated"),
    ("data", .object [("object", .object [("id", .text "sub"), ("current_period_end", .int 1893456000),
      ("items", .object [("data", .list [.object [("price", .text "price-pro")]])])])])], by decide +kernel⟩

def quiet : Surroundings := .quiet ⟨0, some 0⟩

theorem calm_once {e : Event} (noticed : e.Noticed) : ∀ step ∈ [(quiet, e)], step.1.Calm ∧ step.2.Noticed :=
  List.forall_mem_singleton.2 ⟨Surroundings.calm_quiet (by decide), noticed⟩

theorem meets_once {s : Store} {bad : Ledger → Event → Prop} (shown : s.Shows M) :
    s.Meets [(quiet, e)] bad ↔ bad M e := by
  rw [Store.meets_cons]
  constructor
  · rintro (⟨other, there, met⟩ | later)
    · exact Store.shows_unique there shown ▸ met
    · exact absurd later Store.not_meets_nil
  · exact fun met => .inl ⟨M, shown, met⟩

theorem served_after_failure :
    (ledger .active "pro" "pro").store.Throughout [(quiet, failure)] (Ledger.Tied Billing.ServedOn) := by
  have shown := shows_ .active "pro" "pro" (by decide)
  refine (Store.served_throughout_iff shown (sound _ _ _) ((tied_iff _ _ _).2 fun _ => rfl) (calm_once failure_noticed)).2 ?_
  rw [meets_once shown]
  exact fun met => met

theorem reactivation_unserved : (ledger .pastDue "pro" "free").store.Shows (ledger .pastDue "pro" "free") ∧
    (ledger .pastDue "pro" "free").Sound ∧
    (ledger .pastDue "pro" "free").catalog.filter (Row.matches · [("is_default", .bool true)]) = [free] ∧
    (ledger .pastDue "pro" "free").Tied Billing.ServedOn ∧ quiet.Calm ∧ recovery.Noticed ∧
    ¬ (ledger .pastDue "pro" "free").store.Throughout [(quiet, recovery)] (Ledger.Tied Billing.ServedOn) := by
  have shown := shows_ .pastDue "pro" "free" (by decide)
  have tied : (ledger .pastDue "pro" "free").Tied Billing.ServedOn := (tied_iff _ _ _).2 nofun
  have overlooked : (ledger .pastDue "pro" "free").Overlooks recovery :=
    ⟨rfl, bill .pastDue "pro", ann "free", rfl, rfl, rfl, by decide⟩
  refine ⟨shown, sound _ _ _, defaults _ _ _, tied, Surroundings.calm_quiet (by decide), recovery_noticed, fun served => ?_⟩
  refine (Store.throughout_iff shown (sound _ _ _) tied (calm_once recovery_noticed)
    fun _ _ _ whole _ => Ledger.enact_served whole).1 served ?_
  exact (meets_once shown).2 overlooked

theorem ended_after_failure :
    (ledger .canceled "team" "free").store.Throughout [(quiet, failure)] (Ledger.Tied (Billing.EndedOn freePlan.id)) := by
  have shown := shows_ .canceled "team" "free" (by decide)
  refine (Store.ended_throughout_iff shown (sound _ _ _) (defaultProduct_free _ _ _) ((tied_iff _ _ _).2 fun _ => rfl)
    (calm_once failure_noticed)).2 ?_
  rw [meets_once shown]
  exact fun met => met

theorem upgrade_readmits : (ledger .canceled "team" "free").store.Shows (ledger .canceled "team" "free") ∧
    (ledger .canceled "team" "free").Sound ∧
    (ledger .canceled "team" "free").catalog.filter (Row.matches · [("is_default", .bool true)]) = [free] ∧
    (ledger .canceled "team" "free").Tied (Billing.EndedOn freePlan.id) ∧ quiet.Calm ∧ upgrade.Noticed ∧
    ¬ (ledger .canceled "team" "free").store.Throughout [(quiet, upgrade)] (Ledger.Tied (Billing.EndedOn freePlan.id)) := by
  have shown := shows_ .canceled "team" "free" (by decide)
  have tied : (ledger .canceled "team" "free").Tied (Billing.EndedOn freePlan.id) := (tied_iff _ _ _).2 fun _ => rfl
  have standard := defaultProduct_free .canceled "team" "free"
  have readmitted : (ledger .canceled "team" "free").Readmits freePlan.id upgrade := by
    refine ⟨rfl, bill .canceled "team", ann "free", "pro", rfl, rfl, ?_, by decide, rfl⟩
    rw [change, Ledger.movedTo_priced _ _ (by decide), productOf_pro]
    exact congrArg Except.ok (if_pos (by decide))
  refine ⟨shown, sound _ _ _, defaults _ _ _, tied, Surroundings.calm_quiet (by decide), upgrade_noticed, fun ended => ?_⟩
  refine (Store.throughout_iff shown (sound _ _ _) tied (calm_once upgrade_noticed) fun _ _ _ whole shop =>
    Ledger.enact_ended whole ((Ledger.defaultProduct_congr shop).trans standard)).1 ended ?_
  exact (meets_once shown).2 readmitted

end Shop
end SubscriptionLedger
