import Mathlib.Data.List.Perm.Basic
import Mathlib.Logic.Equiv.Basic
import SubscriptionLedger.Proofs.Resubscription
import SubscriptionLedger.Proofs.Retrying

namespace SubscriptionLedger

def Billing.renamed (σ : Equiv.Perm String) (b : Billing) : Billing := { b with id := σ b.id }

def Reconciliation.renamed (σ : Equiv.Perm String) (r : Reconciliation) : Reconciliation :=
  { r with billingId := r.billingId.map σ }

namespace Ledger

def Concerns (L : Ledger) (userId : String) : Event → Prop
  | .paid e => ∃ a, L.accountAt? (Query.keptEmail e.customerEmail) = some a ∧ a.user.id = userId
  | .paymentFailed e => ∃ b, L.carrier? (.text e.subscriptionId) = some b ∧ b.userId = userId
  | .updated e => ∃ b, L.carrier? (.text e.subscriptionId) = some b ∧ b.userId = userId
  | .deleted e => ∃ b, L.carrier? (.text e.subscriptionId) = some b ∧ b.userId = userId
  | .ignored _ => False

-- An event does not name the subscription on the record of any user that another one concerns.
def Spares (L : Ledger) (e other : Event) : Prop :=
  ∀ userId, L.Concerns userId other → ∀ b ∈ L.billings, b.userId = userId → ∀ s ∈ e.subscriptionId?, b.subscriptionId ≠ some s

structure Apart (L : Ledger) (first second : Event) : Prop where
  users : ∀ userId, L.Concerns userId first → ¬ L.Concerns userId second
  subscriptions : ∀ s ∈ first.subscriptionId?, s ∉ second.subscriptionId?
  spares : L.Spares first second
  spared : L.Spares second first

structure Renames (M : Ledger) (σ : Equiv.Perm String) (N : Ledger) : Prop where
  accounts : M.accounts = N.accounts
  catalog : M.catalog = N.catalog
  inserted : M.inserted = N.inserted
  billings : (M.billings.map (Billing.renamed σ)).Perm N.billings

-- Only names change that are generated after a ledger.
def Generated (L : Ledger) (σ : Equiv.Perm String) : Prop :=
  ∀ name, σ name ≠ name → ∃ n, L.inserted < n ∧ name = "bill-" ++ toString n

-- A ledger that differs from another one by what concerns one user, whose record carries a subscription.
structure Within (M L : Ledger) (userId subscription : String) : Prop where
  kin : M.Kin L
  others : ∀ other, other ≠ userId → M.Matches L other
  records : ∀ b ∈ M.billings, b ∈ L.billings ∨ b.userId = userId ∧ b.subscriptionId = some subscription

end Ledger

inductive Change where
  | amend (b : Billing) (u : BillingUpdate)
  | create (new : NewBilling)

namespace Change

def decision (t : Sequel) : Change → Decision
  | amend b u => .amend b u t
  | create new => .create new t

def record (now : Moment) (L : Ledger) : Change → Billing
  | amend b u => b.apply u
  | create new => L.opened now new

def write (now : Moment) (L : Ledger) : Change → Ledger
  | amend b u => L.amend (.text b.id) u
  | create new => L.add (L.opened now new)

def clashes (now : Moment) (L : Ledger) : Change → Bool
  | amend b u => L.amendClashes b u
  | create new => L.createClashes now new

def refusal : Change → Fault
  | amend _ _ => Store.violation
  | create new => .duplicateBilling new.userId

end Change

namespace Ledger

inductive Writes (L : Ledger) (userId subscription : String) : Change → Sequel → Prop where
  | amend (known : L.billingOf? (.text userId) = some b) (carries : (b.apply u).subscriptionId = some subscription) :
      Writes L userId subscription (.amend b u) t
  | create (absent : L.billingOf? (.text userId) = none) (owner : new.userId = userId)
      (names : new.subscriptionId = subscription) (plain : t.blame = fun _ f => f) :
      Writes L userId subscription (.create new) t

def Touches (L : Ledger) (e : Event) (d : Decision) : Prop :=
  (∃ outcome, d = .rest outcome) ∨ ∃ userId subscription c t, L.Concerns userId e ∧ e.subscriptionId? = some subscription ∧
    L.Writes userId subscription c t ∧ d = c.decision t

section Decisions

variable {L M : Ledger} {now : Moment} {e : Event} {b : Billing} {u : BillingUpdate} {c : Change} {t : Sequel}
  {userId other subscription : String}

theorem enact_change (now : Moment) (L : Ledger) (c : Change) (t : Sequel) :
    L.enact now (c.decision t) =
      if c.clashes now L then (.error c.refusal, L) else (c.write now L).finish (c.record now L) t := by
  cases c <;> rfl

theorem touches_onCarrier (sound : L.Sound) (concerns : ∀ b, L.carrier? (.text subscription) = some b → L.Concerns b.userId e)
    (names : e.subscriptionId? = some subscription) {work : Billing → Decision}
    (works : ∀ b, (∃ outcome, work b = .rest outcome) ∨ ∃ u t, u.subscriptionId = none ∧ work b = .amend b u t) :
    L.Touches e (L.onCarrier kind subscription work) := by
  unfold onCarrier
  cases known : L.carrier? (.text subscription) with
  | none => exact .inl ⟨_, rfl⟩
  | some b =>
    rcases works b with rests | ⟨u, t, same, amends⟩
    · exact .inl rests
    · obtain ⟨member, carries⟩ := sound.carrier?_eq_some.1 known
      refine .inr ⟨b.userId, subscription, .amend b u, t, concerns b known, names, .amend ?_ ?_, amends⟩
      · exact sound.billingOf?_eq_some.2 ⟨member, rfl⟩
      · unfold Billing.apply
        rw [same]
        exact carries

theorem touches_decision (sound : L.Sound) (now : Moment) (e : Event) : L.Touches e (L.decision now e) := by
  cases e with
  | paid e =>
    rcases L.decidePaid_cases e with rests | ⟨product, a, -, payer, settles⟩
    · exact .inl rests
    · have concerns : L.Concerns a.user.id (.paid e) := ⟨a, payer, rfl⟩
      dsimp only [decision]
      rw [settles]
      unfold decideSettle
      cases known : L.billingOf? (.text a.user.id) with
      | some b => exact .inr ⟨_, _, .amend b _, _, concerns, rfl, .amend known rfl, rfl⟩
      | none => exact .inr ⟨_, _, .create _, _, concerns, rfl, .create known rfl rfl rfl, rfl⟩
  | paymentFailed e =>
    exact touches_onCarrier (e := .paymentFailed e) sound (fun b known => ⟨b, known, rfl⟩) rfl fun b => .inr ⟨_, _, rfl, rfl⟩
  | updated e =>
    refine touches_onCarrier (e := .updated e) sound (fun b known => ⟨b, known, rfl⟩) rfl fun b => ?_
    unfold updateOn
    cases L.movedTo b e.priceId with
    | error f => exact .inl ⟨_, rfl⟩
    | ok moved =>
      dsimp only
      cases L.destination e moved with
      | error f => exact .inl ⟨_, rfl⟩
      | ok target => exact .inr ⟨_, _, rfl, rfl⟩
  | deleted e =>
    refine touches_onCarrier (e := .deleted e) sound (fun b known => ⟨b, known, rfl⟩) rfl fun b => ?_
    unfold cancelOn
    cases L.defaultProduct with
    | error f => exact .inl ⟨_, rfl⟩
    | ok product => exact .inr ⟨_, _, rfl, rfl⟩
  | ignored e => exact .inl ⟨_, rfl⟩

theorem Within.refl (L : Ledger) (userId subscription : String) : L.Within L userId subscription :=
  ⟨.refl L, fun other _ => .refl L other, fun _ member => .inl member⟩

theorem placed_matches (distinct : other ≠ userId) (plan : Option String) : (L.placed userId plan).Matches L other := by
  cases plan with
  | none => exact .refl L other
  | some plan => exact move_matches distinct

theorem Writes.owner (writes : L.Writes userId subscription c t) (sound : L.Sound) (now : Moment) (M : Ledger) :
    (c.record now M).userId = userId ∧ (c.record now M).subscriptionId = some subscription := by
  cases writes with
  | amend known carries => exact ⟨(sound.billingOf?_eq_some.1 known).2, carries⟩
  | create absent owner names plain => exact ⟨owner, congrArg some names⟩

theorem Writes.write_records (writes : L.Writes userId subscription c t) (sound : L.Sound) :
    ∀ x ∈ (c.write now L).billings, x ∈ L.billings ∨ x.userId = userId ∧ x.subscriptionId = some subscription := by
  intro x member
  have mine := writes.owner sound now L
  cases writes with
  | @amend b u t known carries =>
    obtain ⟨y, old, rfl⟩ := List.mem_map.1 member
    by_cases here : Document.text y.id = .text b.id
    · have same : y = b := eq_of_apart sound.ids old (sound.billingOf?_eq_some.1 known).1 (Document.text.inj here)
      rw [if_pos here, same]
      exact .inr mine
    · rw [if_neg here]
      exact .inl old
  | create =>
    rcases List.mem_append.1 member with old | fresh
    · exact .inl old
    · rw [List.mem_singleton.1 fresh]
      exact .inr mine

theorem Writes.write_matches (writes : L.Writes userId subscription c t) (sound : L.Sound) (distinct : other ≠ userId) :
    (c.write now L).Matches L other := by
  cases writes with
  | amend known carries =>
    obtain ⟨member, owner⟩ := sound.billingOf?_eq_some.1 known
    exact amend_matches sound member (owner ▸ distinct)
  | create absent owner => exact add_matches fun same => distinct (same.trans owner)

theorem Writes.within (writes : L.Writes userId subscription c t) (sound : L.Sound) :
    (L.enact now (c.decision t)).2.Within L userId subscription := by
  have kin := enact_kin now L (c.decision t)
  rw [enact_change] at kin ⊢
  split
  · exact .refl L userId subscription
  · rename_i free
    rw [if_neg free] at kin
    have stays := finish_stays (c.write now L) (c.record now L) t
    refine ⟨kin, fun other distinct => ?_, fun x member => ?_⟩
    · rw [finish_placed, (writes.owner sound now L).1]
      exact (placed_matches distinct _).trans (writes.write_matches sound distinct)
    · rw [stays.1] at member
      exact writes.write_records sound x member

section Near

variable (sound : L.Sound) (whole : M.Sound) (within : M.Within L userId subscription)

include sound whole within

theorem Within.keeps (distinct : b.userId ≠ userId) (member : b ∈ L.billings) : b ∈ M.billings := by
  have found := sound.billingOf?_eq_some.2 ⟨member, rfl⟩
  rw [← (within.others b.userId distinct).record] at found
  exact (whole.billingOf?_eq_some.1 found).1

theorem Within.accountAt? (distinct : ∀ a, L.accountAt? address = some a → a.user.id ≠ userId) :
    M.accountAt? address = L.accountAt? address := by
  cases known : L.accountAt? address with
  | none => exact accountAt?_eq_none_kin within.kin known
  | some a =>
    obtain ⟨a', found, same⟩ := accountAt?_kin within.kin known
    have mine : L.account? (.text a.user.id) = some a := sound.account?_eq_some.2 ⟨List.mem_of_find?_eq_some known, rfl⟩
    have there : M.account? (.text a.user.id) = some a' := whole.account?_eq_some.2 ⟨List.mem_of_find?_eq_some found, same⟩
    rw [(within.others _ (distinct a known)).account, mine] at there
    rw [found, ← there]

theorem Within.carrier? (distinct : ∀ b, L.carrier? (.text other) = some b → b.userId ≠ userId) (apart : other ≠ subscription) :
    M.carrier? (.text other) = L.carrier? (.text other) := by
  cases known : L.carrier? (.text other) with
  | none =>
    refine carrier?_eq_none.2 fun x member carries => ?_
    rcases within.records x member with old | ⟨-, fresh⟩
    · exact carrier?_eq_none.1 known x old carries
    · exact apart (Option.some.inj (carries.symm.trans fresh))
  | some b =>
    obtain ⟨member, carries⟩ := sound.carrier?_eq_some.1 known
    exact whole.carrier?_eq_some.2 ⟨within.keeps sound whole (distinct b known) member, carries⟩

theorem Within.decision (others : ¬ L.Concerns userId e) (names : subscription ∉ e.subscriptionId?) (now : Moment) :
    M.decision now e = L.decision now e := by
  have shop := within.kin.catalog
  have carrier (s : String) (named : e.subscriptionId? = some s)
      (concerns : ∀ b, L.carrier? (.text s) = some b → L.Concerns b.userId e) : M.carrier? (.text s) = L.carrier? (.text s) := by
    refine within.carrier? sound whole (fun b known same => others (same ▸ concerns b known)) ?_
    rintro rfl
    exact names named
  cases e with
  | paid e =>
    have payer : M.accountAt? (Query.keptEmail e.customerEmail) = L.accountAt? (Query.keptEmail e.customerEmail) :=
      within.accountAt? sound whole fun a known same => others ⟨a, known, same⟩
    dsimp only [Ledger.decision]
    unfold decidePaid
    rw [productOf_congr shop, payer]
    cases known : L.accountAt? (Query.keptEmail e.customerEmail) with
    | none => rfl
    | some a =>
      have record := (within.others a.user.id fun same => others ⟨a, known, same⟩).record
      have settles (product : Product) : M.decideSettle a.user product e = L.decideSettle a.user product e := by
        unfold decideSettle
        rw [record]
      simp only [settles]
  | paymentFailed e =>
    dsimp only [Ledger.decision, decideFailed, onCarrier]
    rw [carrier e.subscriptionId rfl fun b known => ⟨b, known, rfl⟩]
  | updated e =>
    dsimp only [Ledger.decision, decideUpdated, onCarrier]
    rw [carrier e.subscriptionId rfl fun b known => ⟨b, known, rfl⟩]
    simp only [updateOn_congr shop]
  | deleted e =>
    dsimp only [Ledger.decision, decideDeleted, onCarrier]
    rw [carrier e.subscriptionId rfl fun b known => ⟨b, known, rfl⟩]
    simp only [cancelOn_congr shop]
  | ignored e => rfl

theorem Within.meets {record : Billing} (distinct : record.userId ≠ userId) (carries : record.subscriptionId = some other)
    (apart : other ≠ subscription) (spared : ∀ x ∈ L.billings, x.userId = userId → x.subscriptionId ≠ some other)
    (p : Billing → Bool) :
    M.billings.any (fun x => p x && record.shares x) = L.billings.any fun x => p x && record.shares x := by
  have strange : ∀ x : Billing, x.userId = userId → x.subscriptionId ≠ some other → ¬ record.shares x := by
    intro x owner differs shared
    unfold Billing.shares at shared
    simp only [Bool.or_eq_true, Bool.and_eq_true, decide_eq_true_eq] at shared
    rcases shared with same | ⟨-, same⟩
    · exact distinct (same.trans owner)
    · exact differs (same.symm.trans carries)
  rw [Bool.eq_iff_iff, List.any_eq_true, List.any_eq_true]
  constructor
  · rintro ⟨x, member, meets⟩
    rcases within.records x member with old | ⟨owner, fresh⟩
    · exact ⟨x, old, meets⟩
    · refine absurd (Bool.and_eq_true_iff.1 meets).2 (strange x owner fun same => apart ?_)
      exact Option.some.inj (same.symm.trans fresh)
  · rintro ⟨x, member, meets⟩
    by_cases owner : x.userId = userId
    · exact absurd (Bool.and_eq_true_iff.1 meets).2 (strange x owner (spared x member owner))
    · exact ⟨x, within.keeps sound whole owner member, meets⟩

end Near

theorem Writes.clashes_within (writes : L.Writes other chosen c t) (sound : L.Sound) (whole : M.Sound)
    (within : M.Within L userId subscription) (distinct : other ≠ userId) (apart : chosen ≠ subscription)
    (spared : ∀ x ∈ L.billings, x.userId = userId → x.subscriptionId ≠ some chosen) (now : Moment) :
    c.clashes now M = c.clashes now L := by
  obtain ⟨owner, carries⟩ := writes.owner sound now L
  have foreign : (c.record now L).userId ≠ userId := owner ▸ distinct
  have meets := within.meets sound whole foreign carries apart spared
  cases c with
  | amend b u => exact meets fun x => Document.text x.id ≠ .text b.id
  | create new =>
    have meets := meets fun _ => true
    simp only [Bool.true_and] at meets
    exact meets

end Decisions

section Orders

variable {L M N : Ledger} {now : Moment} {b : Billing} {u v : BillingUpdate} {c c₁ c₂ : Change} {t : Sequel}
  {σ : Equiv.Perm String} {userId other : String}

theorem amend_other (L : Ledger) (distinct : name ≠ other) (u v : BillingUpdate) :
    (L.amend (.text name) u).amend (.text other) v = (L.amend (.text other) v).amend (.text name) u := by
  unfold amend
  rw [List.map_map, List.map_map]
  refine congrArg (fun bs => { L with billings := bs }) (List.map_congr_left fun b _ => ?_)
  by_cases here : b.id = name
  · have there : b.id ≠ other := fun same => distinct (here.symm.trans same)
    simp [here, distinct]
  · by_cases there : b.id = other <;> simp [here, there, Ne.symm distinct]

theorem amend_add (sound : L.Sound) (member : b ∈ L.billings) (now : Moment) (new : NewBilling) (u : BillingUpdate) :
    (L.amend (.text b.id) u).add (L.opened now new) = (L.add (L.opened now new)).amend (.text b.id) u := by
  have apart : ¬ (L.opened now new).id = b.id := fun same => sound.fresh b member _ (Nat.lt_succ_self _) same.symm
  unfold amend add
  simp [apart]

theorem move_comm (L : Ledger) (distinct : userId ≠ other) (p q : String) :
    (L.move (.text userId) p).move (.text other) q = (L.move (.text other) q).move (.text userId) p := by
  unfold move
  rw [List.map_map, List.map_map]
  refine congrArg (fun as => { L with accounts := as }) (List.map_congr_left fun a _ => ?_)
  by_cases here : a.user.id = userId
  · simp [here, distinct, User.moved]
  · by_cases there : a.user.id = other <;> simp [here, there, Ne.symm distinct, User.moved]

theorem placed_comm (L : Ledger) (distinct : userId ≠ other) (p q : Option String) :
    (L.placed userId p).placed other q = (L.placed other q).placed userId p := by
  cases p with
  | none => rfl
  | some p =>
    cases q with
    | none => rfl
    | some q => exact move_comm L distinct p q

theorem write_placed (now : Moment) (L : Ledger) (userId : String) (plan : Option String) (c : Change) :
    c.write now (L.placed userId plan) = (c.write now L).placed userId plan := by
  cases c <;> cases plan <;> rfl

theorem record_placed (now : Moment) (L : Ledger) (userId : String) (plan : Option String) (c : Change) :
    c.record now (L.placed userId plan) = c.record now L := by
  cases c <;> cases plan <;> rfl

theorem Renames.of_eq (same : M = N) : M.Renames (.refl String) N := by
  subst same
  refine ⟨rfl, rfl, rfl, ?_⟩
  rw [show Billing.renamed (.refl String) = id from rfl, List.map_id]

theorem Renames.placed (renames : M.Renames σ N) (userId : String) (plan : Option String) :
    (M.placed userId plan).Renames σ (N.placed userId plan) := by
  obtain ⟨accounts, catalog, inserted, billings⟩ := renames
  cases plan with
  | none => exact ⟨accounts, catalog, inserted, billings⟩
  | some plan =>
    refine ⟨?_, catalog, inserted, billings⟩
    unfold Ledger.placed move
    dsimp only
    rw [accounts]

theorem generated_refl (L : Ledger) : L.Generated (.refl String) := fun _ moves => absurd rfl moves

theorem Generated.keeps (generated : L.Generated σ) (sound : L.Sound) (member : b ∈ L.billings) : σ b.id = b.id := by
  by_contra moves
  obtain ⟨n, later, name⟩ := generated b.id moves
  exact sound.fresh b member n later name

theorem generated_swap (L : Ledger) : L.Generated
    (Equiv.swap ("bill-" ++ toString (L.inserted + 1)) ("bill-" ++ toString (L.inserted + 1 + 1))) := by
  intro name moves
  by_cases first : name = "bill-" ++ toString (L.inserted + 1)
  · exact ⟨_, Nat.lt_succ_self _, first⟩
  by_cases second : name = "bill-" ++ toString (L.inserted + 1 + 1)
  · exact ⟨_, Nat.lt_succ_of_lt (Nat.lt_succ_self _), second⟩
  · exact absurd (Equiv.swap_apply_of_ne_of_ne first second) moves

theorem add_add (sound : L.Sound) (now : Moment) (new other : NewBilling) :
    ((L.add (L.opened now new)).add ((L.add (L.opened now new)).opened now other)).Renames
      (Equiv.swap ("bill-" ++ toString (L.inserted + 1)) ("bill-" ++ toString (L.inserted + 1 + 1)))
      ((L.add (L.opened now other)).add ((L.add (L.opened now other)).opened now new)) := by
  refine ⟨rfl, rfl, rfl, ?_⟩
  have kept : L.billings.map (Billing.renamed (Equiv.swap ("bill-" ++ toString (L.inserted + 1))
      ("bill-" ++ toString (L.inserted + 1 + 1)))) = L.billings := by
    refine (List.map_congr_left fun b member => ?_).trans (List.map_id' L.billings)
    unfold Billing.renamed
    rw [L.generated_swap.keeps sound member]
  unfold add opened
  dsimp only
  rw [List.map_append, List.map_append, kept, List.append_assoc, List.append_assoc]
  refine List.Perm.append_left _ ?_
  simp only [List.map_cons, List.map_nil, Billing.renamed, Equiv.swap_apply_left, Equiv.swap_apply_right]
  exact List.Perm.swap _ _ _

theorem Writes.comm (first : L.Writes userId subscription c₁ t₁) (second : L.Writes other chosen c₂ t₂) (sound : L.Sound)
    (distinct : userId ≠ other) (now : Moment) : ∃ σ, L.Generated σ ∧
      (c₂.write now (c₁.write now L)).Renames σ (c₁.write now (c₂.write now L)) ∧
      (c₁.record now L).renamed σ = c₁.record now (c₂.write now L) ∧
      (c₂.record now (c₁.write now L)).renamed σ = c₂.record now L := by
  cases first with
  | amend known =>
    obtain ⟨member, owner⟩ := sound.billingOf?_eq_some.1 known
    cases second with
    | amend known' =>
      obtain ⟨member', owner'⟩ := sound.billingOf?_eq_some.1 known'
      refine ⟨.refl String, L.generated_refl, .of_eq (amend_other L ?_ _ _), rfl, rfl⟩
      intro same
      exact distinct (owner.symm.trans ((eq_of_apart sound.ids member member' same) ▸ owner'))
    | create => exact ⟨.refl String, L.generated_refl, .of_eq (amend_add sound member now _ _), rfl, rfl⟩
  | @create new =>
    cases second with
    | amend known' =>
      obtain ⟨member', -⟩ := sound.billingOf?_eq_some.1 known'
      exact ⟨.refl String, L.generated_refl, .of_eq (amend_add sound member' now _ _).symm, rfl, rfl⟩
    | @create new' =>
      refine ⟨_, L.generated_swap, add_add sound now new new', ?_, ?_⟩
      · simp [Change.record, Change.write, Billing.renamed, opened, add]
      · simp [Change.record, Change.write, Billing.renamed, opened, add]

theorem Writes.blames (writes : L.Writes userId subscription c t) (sound : L.Sound) (generated : L.Generated σ) (M : Ledger) :
    t.blame ((c.record now M).renamed σ) = t.blame (c.record now M) := by
  cases writes with
  | @amend b u t known =>
    have kept : (b.apply u).renamed σ = b.apply u := by
      unfold Billing.renamed
      rw [Billing.id_apply, generated.keeps sound (sound.billingOf?_eq_some.1 known).1]
      rfl
    exact congrArg t.blame kept
  | create absent owner names plain => rw [plain]

theorem finish_renamed (account : M.account? (.text b.userId) = N.account? (.text b.userId))
    (blames : t.blame (b.renamed σ) = t.blame b) :
    (M.finish b t).1.map (Reconciliation.renamed σ) = (N.finish (b.renamed σ) t).1 := by
  unfold finish
  cases t.target with
  | none => rfl
  | some plan =>
    dsimp only
    rw [account, show (b.renamed σ).userId = b.userId from rfl, blames]
    cases N.account? (.text b.userId) <;> rfl

structure Commutes (now : Moment) (L : Ledger) (σ : Equiv.Perm String) (d d' : Decision) : Prop where
  generated : L.Generated σ
  first : (L.enact now d).1.map (Reconciliation.renamed σ) = ((L.enact now d').2.enact now d).1
  second : ((L.enact now d).2.enact now d').1.map (Reconciliation.renamed σ) = (L.enact now d').1
  after : ((L.enact now d).2.enact now d').2.Renames σ ((L.enact now d').2.enact now d).2

theorem map_renamed_refl (x : Except Fault Reconciliation) : x.map (Reconciliation.renamed (.refl String)) = x := by
  cases x with
  | error f => rfl
  | ok r =>
    unfold Reconciliation.renamed
    simp [Except.map]

theorem commutes_of_first (here : L.enact now d = (outcome, L))
    (there : (L.enact now d').2.enact now d = (outcome, (L.enact now d').2)) :
    L.Commutes now (.refl String) d d' := by
  refine ⟨L.generated_refl, ?_, ?_, .of_eq ?_⟩
  · rw [map_renamed_refl, here, there]
  · rw [map_renamed_refl, here]
  · rw [here, there]

theorem commutes_of_second (here : L.enact now d' = (outcome, L))
    (there : (L.enact now d).2.enact now d' = (outcome, (L.enact now d).2)) :
    L.Commutes now (.refl String) d d' := by
  refine ⟨L.generated_refl, ?_, ?_, .of_eq ?_⟩
  · rw [map_renamed_refl, here]
  · rw [map_renamed_refl, here, there]
  · rw [here, there]

theorem enact_clash (clash : c.clashes now L = true) : L.enact now (c.decision t) = (.error c.refusal, L) := by
  rw [enact_change, if_pos clash]

theorem enact_free (free : c.clashes now L = false) :
    L.enact now (c.decision t) = (c.write now L).finish (c.record now L) t := by
  rw [enact_change, if_neg (by rw [free]; decide)]

theorem account?_write (now : Moment) (L : Ledger) (c : Change) (name : Document) :
    (c.write now L).account? name = L.account? name := by
  cases c <;> rfl

theorem Writes.enact_snd (writes : L.Writes userId subscription c t) (sound : L.Sound) (free : c.clashes now L = false) :
    (L.enact now (c.decision t)).2 = (c.write now L).placed userId t.target := by
  rw [enact_free free, finish_placed, (writes.owner sound now L).1]

theorem Writes.commute (first : L.Writes userId subscription c₁ t₁) (second : L.Writes other chosen c₂ t₂) (sound : L.Sound)
    (whole₁ : (L.enact now (c₁.decision t₁)).2.Sound) (whole₂ : (L.enact now (c₂.decision t₂)).2.Sound)
    (distinct : userId ≠ other) (apart : subscription ≠ chosen)
    (spares : ∀ x ∈ L.billings, x.userId = other → x.subscriptionId ≠ some subscription)
    (spared : ∀ x ∈ L.billings, x.userId = userId → x.subscriptionId ≠ some chosen) :
    ∃ σ, L.Commutes now σ (c₁.decision t₁) (c₂.decision t₂) := by
  have same₁ := first.clashes_within sound whole₂ (second.within sound) distinct apart spares now
  have same₂ := second.clashes_within sound whole₁ (first.within sound) distinct.symm apart.symm spared now
  cases clash₁ : c₁.clashes now L with
  | true => exact ⟨_, commutes_of_first (enact_clash clash₁) (enact_clash (same₁.trans clash₁))⟩
  | false =>
    cases clash₂ : c₂.clashes now L with
    | true => exact ⟨_, commutes_of_second (enact_clash clash₂) (enact_clash (same₂.trans clash₂))⟩
    | false =>
      obtain ⟨σ, generated, renames, named₁, named₂⟩ := first.comm second sound distinct now
      have then₁ := enact_free (t := t₁) (same₁.trans clash₁)
      have then₂ := enact_free (t := t₂) (same₂.trans clash₂)
      rw [second.enact_snd sound clash₂, write_placed, record_placed] at then₁
      rw [first.enact_snd sound clash₁, write_placed, record_placed] at then₂
      have owner₁ := (first.owner sound now L).1
      have owner₂ := (second.owner sound now (c₁.write now L)).1
      refine ⟨σ, generated, ?_, ?_, ?_⟩
      · rw [second.enact_snd sound clash₂, then₁, enact_free clash₁, ← named₁]
        refine finish_renamed ?_ (first.blames sound generated L)
        rw [owner₁, (placed_matches distinct _).account, account?_write, account?_write, account?_write]
      · rw [first.enact_snd sound clash₁, then₂, enact_free clash₂, ← named₂]
        refine finish_renamed ?_ (second.blames sound generated _)
        rw [owner₂, (placed_matches distinct.symm _).account, account?_write, account?_write, account?_write]
      · rw [first.enact_snd sound clash₁, second.enact_snd sound clash₂, then₁, then₂, finish_placed, finish_placed, owner₂,
          (first.owner sound _ _).1, placed_comm _ distinct.symm]
        exact (renames.placed _ _).placed _ _

end Orders

section Events

variable {L : Ledger} {first second : Event}

theorem Apart.symm (apart : L.Apart first second) : L.Apart second first where
  users userId concerned concerns := apart.users userId concerns concerned
  subscriptions s named names := apart.subscriptions s names named
  spares := apart.spared
  spared := apart.spares

theorem Apart.decision (apart : L.Apart first second) (sound : L.Sound) (now : Moment) :
    (L.enact now (L.decision now first)).2.decision now second = L.decision now second := by
  have whole := enact_sound sound now now first
  rcases touches_decision sound now first with ⟨outcome, rests⟩ | ⟨userId, subscription, c, t, concerns, names, writes, same⟩
  · rw [rests]
    rfl
  · rw [same] at whole ⊢
    exact (writes.within sound).decision sound whole (apart.users userId concerns) (apart.subscriptions _ names) now

theorem Apart.commute (apart : L.Apart first second) (sound : L.Sound) (now : Moment) :
    ∃ σ, L.Commutes now σ (L.decision now first) (L.decision now second) := by
  have whole₁ := enact_sound sound now now first
  have whole₂ := enact_sound sound now now second
  rcases touches_decision sound now first with ⟨outcome, rests⟩ | ⟨userId, s₁, c₁, t₁, concerns₁, names₁, writes₁, same₁⟩
  · rw [rests]
    exact ⟨_, commutes_of_first rfl rfl⟩
  rcases touches_decision sound now second with ⟨outcome, rests⟩ | ⟨other, s₂, c₂, t₂, concerns₂, names₂, writes₂, same₂⟩
  · rw [rests]
    exact ⟨_, commutes_of_second rfl rfl⟩
  rw [same₁] at whole₁ ⊢
  rw [same₂] at whole₂ ⊢
  refine writes₁.commute writes₂ sound whole₁ whole₂ ?_ ?_ ?_ ?_
  · rintro rfl
    exact apart.users _ concerns₁ concerns₂
  · rintro rfl
    exact apart.subscriptions _ names₁ names₂
  · exact fun x member owner => apart.spares _ concerns₂ x member owner _ names₁
  · exact fun x member owner => apart.spared _ concerns₁ x member owner _ names₂

end Events
end Ledger

namespace Store

variable {s : Store} {L : Ledger} {w : Surroundings} {first second : Event}

-- Events of different users can be delivered in either order.
theorem deliveries_commute (shows_ : s.Shows L) (sound : L.Sound) (calm : w.Calm) (proper : first.Proper)
    (proper' : second.Proper) (apart : L.Apart first second) :
    ∃ σ M N, ((s.deliver w first).2.deliver w second).2.Shows M ∧ ((s.deliver w second).2.deliver w first).2.Shows N ∧
      L.Generated σ ∧ M.Renames σ N ∧
      (s.deliver w first).1.map (Reconciliation.renamed σ) = ((s.deliver w second).2.deliver w first).1 ∧
      ((s.deliver w first).2.deliver w second).1.map (Reconciliation.renamed σ) = (s.deliver w second).1 := by
  obtain ⟨told₁, shown₁, whole₁⟩ := deliver_calm shows_ sound calm proper
  obtain ⟨told₂, shown₂, whole₂⟩ := deliver_calm shows_ sound calm proper'
  obtain ⟨next₂, after₂, -⟩ := deliver_calm shown₁ whole₁ calm proper'
  obtain ⟨next₁, after₁, -⟩ := deliver_calm shown₂ whole₂ calm proper
  rw [apart.decision sound] at next₂ after₂
  rw [apart.symm.decision sound] at next₁ after₁
  obtain ⟨σ, generated, same₁, same₂, renames⟩ := apart.commute sound w.now
  refine ⟨σ, _, _, after₂, after₁, generated, renames, ?_, ?_⟩
  · rw [told₁, next₁, same₁]
  · rw [told₂, next₂, same₂]

end Store

namespace Shop

def strangers : Ledger := { ledger .active "pro" "free" with billings := [{ bill .active "pro" with userId := "bob" }] }

theorem strangers_commute : ∃ σ M N,
    ((strangers.store.deliver (.quiet ⟨0, some 0⟩) (.paid renewed)).2.deliver (.quiet ⟨0, some 0⟩) failure).2.Shows M ∧
    ((strangers.store.deliver (.quiet ⟨0, some 0⟩) failure).2.deliver (.quiet ⟨0, some 0⟩) (.paid renewed)).2.Shows N ∧
    strangers.Generated σ ∧ M.Renames σ N ∧
    (strangers.store.deliver (.quiet ⟨0, some 0⟩) (.paid renewed)).1.map (Reconciliation.renamed σ) =
      ((strangers.store.deliver (.quiet ⟨0, some 0⟩) failure).2.deliver (.quiet ⟨0, some 0⟩) (.paid renewed)).1 ∧
    ((strangers.store.deliver (.quiet ⟨0, some 0⟩) (.paid renewed)).2.deliver (.quiet ⟨0, some 0⟩) failure).1.map
      (Reconciliation.renamed σ) = (strangers.store.deliver (.quiet ⟨0, some 0⟩) failure).1 := by
  have shown : strangers.store.Shows strangers :=
    { shows_ .active "pro" "free" (by decide) with
      billings := .cons (Billing.stands_row ⟨show Moment.Proper ⟨0, some 0⟩ by decide, nofun, rfl⟩) .nil }
  have whole : strangers.Sound :=
    { sound .active "pro" "free" with
      ids := List.pairwise_singleton _ _
      slots := List.pairwise_singleton _ _
      fresh := List.forall_mem_singleton.2 ((sound .active "pro" "free").fresh (bill .active "pro") (.head _)) }
  have payer : strangers.accountAt? (Query.keptEmail "ann@shop.com") = some (ann "free") := by decide +kernel
  have pays (userId : String) (concerned : strangers.Concerns userId (.paid renewed)) : userId = "ann" := by
    obtain ⟨a, found, same⟩ := concerned
    cases payer.symm.trans found
    exact same.symm
  have fails (userId : String) (concerned : strangers.Concerns userId failure) : userId = "bob" := by
    obtain ⟨b, found, same⟩ := concerned
    cases found
    exact same.symm
  have apart : strangers.Apart (.paid renewed) failure := by
    refine ⟨fun userId paid failed => ?_, ?_, ?_, ?_⟩
    · exact absurd ((pays userId paid).symm.trans (fails userId failed)) (by decide)
    · rintro s ⟨⟩
      decide
    · rintro userId - b member - s ⟨⟩
      cases List.mem_singleton.1 member
      decide
    · rintro userId concerned b member owner s ⟨⟩
      cases List.mem_singleton.1 member
      exact absurd ((pays userId concerned).symm.trans owner.symm) (by decide)
  exact Store.deliveries_commute shown whole (Surroundings.calm_quiet (by decide))
    (show Moment.Proper ⟨1893456000000000, some 0⟩ by decide) trivial apart

end Shop
end SubscriptionLedger
