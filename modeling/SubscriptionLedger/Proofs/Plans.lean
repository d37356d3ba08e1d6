import SubscriptionLedger.Proofs.Resubscription

namespace SubscriptionLedger

-- The plan of a user with a record: that of the record, or the default one.
def Billing.PlacedOn (standard : Except Fault Product) (b : Billing) (plan : Option String) : Prop :=
  plan = some b.productId ∨ ∃ p, standard = .ok p ∧ plan = some p.id

def Stage.idle : Stage α → Bool
  | .fresh _ | .finished _ => true
  | .standing _ _ | .waiting _ _ => false

def World.AtRest (w : World α) : Prop := w.jobs.all (·.stage.idle)

namespace Ledger

-- Who has no record has the account that it had before.
def Unmoved (L M : Ledger) : Prop := ∀ a ∈ M.accounts, (∀ b ∈ M.billings, b.userId ≠ a.user.id) → a ∈ L.accounts

variable {L M : Ledger} {b : Billing} {t : Sequel} {c : Calling} {order : List (Calling × Moment)}

theorem placed_iff : M.Placed ↔ M.Tied (Billing.PlacedOn M.defaultProduct) := Iff.rfl

theorem not_breaks_placed (placed : M.Tied (Billing.PlacedOn M.defaultProduct)) (e : Event) :
    ¬ M.Breaks (Billing.PlacedOn M.defaultProduct) e := by
  cases e with
  | updated e =>
    rintro ⟨b, moved, target, a, known, moves, goes, user, own, broken⟩
    refine broken ?_
    unfold destination at goes
    split at goes
    · cases standard : M.defaultProduct with
      | error f =>
        rw [standard] at goes
        cases goes
      | ok p =>
        rw [standard] at goes
        cases goes
        exact .inr ⟨p, rfl, rfl⟩
    · cases goes
      cases moved with
      | none => exact placed b (List.mem_of_find?_eq_some known) a user own
      | some product => exact .inl rfl
  | _ => exact id

theorem enact_placed (sound : M.Sound) (placed : M.Placed) (now reading : Moment) (e : Event) :
    (M.enact now (M.decision reading e)).2.Placed := by
  have kept : (M.enact now (M.decision reading e)).2.Tied (Billing.PlacedOn M.defaultProduct) := by
    have tied := placed_iff.1 placed
    refine (enact_tied sound tied ?_ ?_ ?_ now reading e).2 (not_breaks_placed tied e)
    · exact fun c _ => .inl rfl
    · exact fun c plan placed => placed
    · exact fun c p _ standard => .inr ⟨p, standard, rfl⟩
  rw [← defaultProduct_congr (enact_catalog M now (M.decision reading e))] at kept
  exact kept

def Knows (L : Ledger) : Decision → Prop
  | .amend b _ _ => b ∈ L.billings
  | _ => True

theorem Settles.knows {p : Program Reconciliation} {d : Decision} (settles : Settles L userId p d) : L.Knows d := by
  induction settles with
  | done | fail | create => trivial
  | read _ _ _ ih => exact ih
  | amend found => exact List.mem_of_find?_eq_some found

theorem Opens.knows {p : Program Reconciliation} {d : Decision} (opens : Opens L p d) : L.Knows d := by
  induction opens with
  | done | fail => trivial
  | read _ _ _ ih => exact ih
  | enter work => exact work.knows

theorem Unmoved.finish (unmoved : L.Unmoved M) (member : b ∈ M.billings) : L.Unmoved (M.finish b t).2 := by
  intro a' user none
  rw [(finish_stays M b t).1] at none
  rw [accounts_finish] at user
  cases target : t.target with
  | none =>
    rw [target] at user
    exact unmoved a' user none
  | some plan =>
    rw [target] at user
    obtain ⟨a, old, rfl⟩ := List.mem_map.1 user
    by_cases own : Document.text a.user.id = .text b.userId
    · rw [if_pos own] at none
      exact absurd (Document.text.inj own).symm (none b member)
    · rw [if_neg own] at none ⊢
      exact unmoved a old none

theorem Unmoved.amend (unmoved : L.Unmoved M) (name : Document) (u : BillingUpdate) : L.Unmoved (M.amend name u) := by
  intro a user none
  refine unmoved a user fun b member => ?_
  have apart := none _ (List.mem_map_of_mem member)
  split at apart <;> exact apart

theorem Unmoved.add (unmoved : L.Unmoved M) (b : Billing) : L.Unmoved (M.add b) :=
  fun a user none => unmoved a user fun other member => none other (List.mem_append_left _ member)

theorem Unmoved.enact (unmoved : L.Unmoved M) {d : Decision} (knows : M.Knows d) (now : Moment) :
    L.Unmoved (M.enact now d).2 := by
  cases d with
  | rest outcome => exact unmoved
  | amend b u t =>
    unfold Ledger.enact
    dsimp only
    split
    · exact unmoved
    · exact (unmoved.amend _ u).finish (List.mem_map.2 ⟨b, knows, if_pos rfl⟩)
  | create new t =>
    unfold Ledger.enact
    dsimp only
    split
    · exact unmoved
    · exact (unmoved.add _).finish (List.mem_append_right _ (.head _))

theorem after_placed (sound : M.Sound) (placed : M.Placed) (unmoved : L.Unmoved M) :
    (M.after order).Placed ∧ L.Unmoved (M.after order) := by
  induction order generalizing M with
  | nil => exact ⟨placed, unmoved⟩
  | cons x rest ih =>
    obtain ⟨c, now⟩ := x
    have whole : (M.serve (c, now)).2.Sound := enact_sound sound now c.reading c.event
    exact ih whole (enact_placed sound placed now c.reading c.event)
      (unmoved.enact (opens_reconcile sound c.reading c.event).knows now)

end Ledger

namespace World

variable {calls : List Calling} {s : Store} {L : Ledger} {w : World Reconciliation} {f : Floor}

theorem atRest_of_finished {w : World α} (finished : w.jobs.all isFinished) : w.AtRest := by
  refine List.all_eq_true.2 fun t there => ?_
  have ended := List.all_eq_true.1 finished t there
  unfold isFinished at ended
  generalize t.stage = stage at ended ⊢
  cases stage with
  | finished => rfl
  | _ => cases ended

theorem Mirrors.nobody_holds (mirrors : w.Mirrors calls f) (rest : w.AtRest) (member : c ∈ calls) (key : String) :
    ¬ (f.phase c.id).Holds key := by
  obtain ⟨t, known, -, stands⟩ := mirrors.jobs c member
  have idle := List.all_eq_true.1 rest t (List.mem_of_find?_eq_some known)
  generalize f.phase c.id = phase at stands ⊢
  generalize t.tickets = tickets at stands
  generalize t.stage = stage at stands idle
  cases stands with
  | inside => cases idle
  | _ => exact id

theorem shows_at_rest (shows_ : s.Shows L) (sound : L.Sound) (ids : (calls.map (·.id)).Nodup)
    (proper : ∀ c ∈ calls, c.Proper) (now : Moment) {schedule : List (Moment × String)} (clock : ∀ x ∈ schedule, x.1.Clock)
    (rest : ((World.opened now s calls).follow schedule).AtRest) :
    ∃ order : List (Calling × Moment), ((World.opened now s calls).follow schedule).store.Shows (L.after order) := by
  obtain ⟨f, steps, mirrors⟩ := (mirrors_opened now shows_ sound ids proper).follow ids schedule clock
  obtain ⟨order, pending, ordered⟩ := ((Floor.begins_opened L ids).ordered sound).runs ids steps
  -- nobody who is inside of a key has to move a user still
  have none : ∀ userId, pending userId = none := by
    intro userId
    cases waits : pending userId with
    | none => rfl
    | some plan =>
      obtain ⟨c, member, holds⟩ := ordered.owed userId plan waits
      exact absurd holds (mirrors.nobody_holds rest member userId)
  refine ⟨order, ?_⟩
  rw [ordered.ahead, Ledger.ahead_nothing none]
  exact mirrors.shows_

-- Never on a third plan.
theorem placed_at_rest (shows_ : s.Shows L) (sound : L.Sound) (placed : L.Placed) (ids : (calls.map (·.id)).Nodup)
    (proper : ∀ c ∈ calls, c.Proper) (now : Moment) {schedule : List (Moment × String)} (clock : ∀ x ∈ schedule, x.1.Clock)
    (rest : ((World.opened now s calls).follow schedule).AtRest) :
    ∃ M, ((World.opened now s calls).follow schedule).store.Shows M ∧ M.catalog = L.catalog ∧ M.Placed ∧ L.Unmoved M := by
  obtain ⟨order, shown⟩ := shows_at_rest shows_ sound ids proper now clock rest
  obtain ⟨kept, unmoved⟩ : (L.after order).Placed ∧ L.Unmoved (L.after order) :=
    Ledger.after_placed sound placed fun a user _ => user
  exact ⟨_, shown, (Ledger.after_kin L order).catalog, kept, unmoved⟩

end World

namespace Shop

theorem overtaken_placed :
    ∃ M, ((World.opened ⟨0, some 0⟩ (ledger .active "team" "team").store [payment, ending]).follow overtaken).store.Shows M ∧
      M.catalog = [free, pro, team] ∧ M.Placed ∧ (ledger .active "team" "team").Unmoved M := by
  have proper : ∀ c ∈ [payment, ending], c.Proper := by
    refine List.forall_mem_cons.2 ⟨⟨?_, by decide⟩, List.forall_mem_singleton.2 ⟨trivial, by decide⟩⟩
    change Moment.Proper ⟨1893456000000000, some 0⟩
    decide
  have clock : ∀ x ∈ overtaken, x.1.Clock := by decide
  have shown := shows_ .active "team" "team" (by decide)
  have rehearsed : ((World.opened ⟨0, some 0⟩ ⟨[], [], [], 0⟩ [payment, ending]).rehearse (ledger .active "team" "team")
      overtaken).jobs.all World.isFinished := by decide +kernel
  have finished := World.finished_of_rehearsal shown (sound _ _ _) proper ⟨0, some 0⟩ clock rehearsed
  have placed : (ledger .active "team" "team").Tied (Billing.PlacedOn (ledger .active "team" "team").defaultProduct) :=
    (tied_iff _ _ _).2 (.inl rfl)
  exact World.placed_at_rest shown (sound _ _ _) placed (by decide) proper ⟨0, some 0⟩ clock (World.atRest_of_finished finished)

end Shop
end SubscriptionLedger
