import SubscriptionLedger.Proofs.Retrying

namespace SubscriptionLedger

namespace Ledger

-- The records that an event has canceled end at a moment.
def ending (M : Ledger) (e : Event) (now : Moment) : Ledger := { M with billings := M.billings.map (Billing.ended e now) }

def Cancels (L : Ledger) : Event → Prop
  | .deleted e => (L.carrier? (.text e.subscriptionId)).isSome
  | _ => False

variable {L M : Ledger} {b c : Billing} {e : Event} {t : Sequel} {first now : Moment}

theorem ending_stays (kept : ∀ b ∈ M.billings, b.ended e now = b) : M.ending e now = M := by
  have same : M.billings.map (Billing.ended e now) = M.billings :=
    (List.map_congr_left kept).trans (List.map_id' M.billings)
  unfold ending
  rw [same]

theorem finish_ending (M : Ledger) (e : Event) (now : Moment) (name : b.id = c.id) (owner : b.userId = c.userId)
    (blames : t.blame b = t.blame c) :
    (M.ending e now).finish b t = ((M.finish c t).1, (M.finish c t).2.ending e now) := by
  have told : Reconcile.applied t.kind b = Reconcile.applied t.kind c := by
    unfold Reconcile.applied
    rw [name]
  unfold finish
  rw [told, owner, blames]
  cases t.target with
  | none => rfl
  | some plan =>
    dsimp only
    rw [show (M.ending e now).account? (.text c.userId) = M.account? (.text c.userId) from rfl]
    cases M.account? (.text c.userId) <;> rfl

theorem finish_ok (succeeds : (M.finish b t).1.isOk) : (M.finish b t).1 = .ok (Reconcile.applied t.kind b) := by
  unfold finish at *
  cases target : t.target with
  | none => rfl
  | some plan =>
    rw [target] at succeeds
    dsimp only at *
    cases account : M.account? (.text b.userId) with
    | none =>
      rw [account] at succeeds
      cases succeeds
    | some a => rfl

section Cancellations

variable {d : SubscriptionDeleted}

theorem amend_canceled (sound : L.Sound) (known : L.carrier? (.text d.subscriptionId) = some b) (first now : Moment) :
    L.amend (.text b.id) { status := some .canceled, expiresAt := some now } =
      (L.amend (.text b.id) { status := some .canceled, expiresAt := some first }).ending (.deleted d) now := by
  obtain ⟨member, carries⟩ := sound.carrier?_eq_some.1 known
  unfold amend ending
  rw [List.map_map]
  refine congrArg (fun bs => { L with billings := bs }) (List.map_congr_left fun x there => ?_)
  dsimp only [Function.comp]
  by_cases here : Document.text x.id = .text b.id
  · have same : x = b := eq_of_apart sound.ids there member (Document.text.inj here)
    rw [if_pos here, if_pos here, same]
    exact (ended_of_carries (b := b.apply { status := some .canceled, expiresAt := some first }) carries).symm
  · rw [if_neg here, if_neg here, ended_of_other]
    intro shared
    have same := (sound.carrier?_eq_some.2 ⟨there, shared⟩).symm.trans known
    exact here (congrArg (fun b : Billing => Document.text b.id) (Option.some.inj same))

theorem enact_deleted_at (sound : L.Sound) (first now : Moment)
    (succeeds : (L.enact first (L.decideDeleted first d)).1.isOk) :
    L.enact now (L.decideDeleted now d) =
      ((L.enact first (L.decideDeleted first d)).1, (L.enact first (L.decideDeleted first d)).2.ending (.deleted d) now) := by
  unfold decideDeleted onCarrier cancelOn at *
  cases known : L.carrier? (.text d.subscriptionId) with
  | none =>
    have stays : L.ending (.deleted d) now = L := ending_stays fun x there => ended_of_other (carrier?_eq_none.1 known x there)
    dsimp only [enact]
    rw [stays]
  | some b =>
    rw [known] at succeeds
    dsimp only at *
    cases standard : L.defaultProduct with
    | error f =>
      rw [standard] at succeeds
      cases succeeds
    | ok product =>
      have member := (sound.carrier?_eq_some.1 known).1
      dsimp only
      rw [enact_amend (amend_meets_none sound member rfl), enact_amend (amend_meets_none sound member rfl),
        amend_canceled sound known first now]
      exact finish_ending _ _ _ rfl rfl rfl

end Cancellations

theorem enact_updated_twice (sound : L.Sound) {u : SubscriptionUpdated} (first now : Moment)
    (succeeds : (L.enact first (L.decideUpdated u)).1.isOk) (whole : (L.enact first (L.decideUpdated u)).2.Sound) :
    (L.enact first (L.decideUpdated u)).2.enact now ((L.enact first (L.decideUpdated u)).2.decideUpdated u) =
      L.enact first (L.decideUpdated u) := by
  rcases L.decideUpdated_cases u with ⟨outcome, rests⟩ | ⟨b, moved, target, updates⟩
  · rw [rests]
    change L.enact now (L.decideUpdated u) = _
    rw [rests]
    rfl
  · rw [updates.enact sound] at succeeds whole ⊢
    obtain ⟨billings, catalog⟩ := finish_stays (L.amend (.text b.id) (changes u moved)) (b.apply (changes u moved))
      { kind := .subscriptionUpdated, target }
    rw [(updates.enact_again whole billings catalog now).2]
    by_cases ends : Reconcile.takesAway u
    · rw [if_pos ends]
      exact finish_twice _ _ _
    · rw [if_neg ends, finish_none rfl]
      exact Prod.ext (finish_ok succeeds).symm rfl

theorem enact_repeated (sound : L.Sound) (first now : Moment) (succeeds : (L.enact first (L.decision first e)).1.isOk) :
    (L.enact first (L.decision first e)).2.enact now ((L.enact first (L.decision first e)).2.decision now e) =
      ((L.enact first (L.decision first e)).1, (L.enact first (L.decision first e)).2.ending e now) := by
  have whole := enact_sound sound first first e
  have begun : L.Begun e first (L.enact first (L.decision first e)).2 := .inr rfl
  cases e with
  | paid e =>
    rw [ending_stays fun _ _ => rfl]
    exact (resumes_paid sound begun).enact
  | paymentFailed e =>
    rw [ending_stays fun _ _ => rfl]
    exact (resumes_paymentFailed sound whole begun).enact
  | updated e =>
    rw [ending_stays fun _ _ => rfl]
    exact enact_updated_twice sound first now succeeds whole
  | deleted e => exact (resumes_deleted sound whole begun).enact.trans (enact_deleted_at sound first now succeeds)
  | ignored e =>
    rw [ending_stays fun _ _ => rfl]
    rfl

theorem ending_eq (stays : M.ending e now = M) : ∀ b ∈ M.billings, b.ended e now = b :=
  List.map_inj_left.1 ((congrArg Ledger.billings stays).trans (List.map_id' M.billings).symm)

theorem carrier?_deleted (sound : L.Sound) {d : SubscriptionDeleted} (known : L.carrier? (.text d.subscriptionId) = some b)
    (succeeds : (L.enact first (L.decideDeleted first d)).1.isOk) :
    (L.enact first (L.decideDeleted first d)).2.carrier? (.text d.subscriptionId) =
      some (b.apply { status := some .canceled, expiresAt := some first }) := by
  unfold decideDeleted onCarrier cancelOn at *
  rw [known] at succeeds ⊢
  dsimp only at *
  cases standard : L.defaultProduct with
  | error f =>
    rw [standard] at succeeds
    cases succeeds
  | ok product =>
    dsimp only
    rw [enact_amend (amend_meets_none sound (sound.carrier?_eq_some.1 known).1 rfl), carrier?_finish,
      carrier?_amend L (.text b.id) (.text d.subscriptionId) rfl, known, Option.map_some, if_pos rfl]

theorem ending_enact (sound : L.Sound) (first now : Moment) (succeeds : (L.enact first (L.decision first e)).1.isOk) :
    (L.enact first (L.decision first e)).2.ending e now = (L.enact first (L.decision first e)).2 ↔
      (L.Cancels e → first = now) := by
  cases e with
  | paid | paymentFailed | updated | ignored => exact iff_of_true (ending_stays fun _ _ => rfl) False.elim
  | deleted d =>
    have lasts := congrArg Prod.snd (enact_deleted_at sound first first succeeds)
    constructor
    · intro stays cancels
      obtain ⟨b, known⟩ := Option.isSome_iff_exists.1 cancels
      have found := carrier?_deleted sound known succeeds
      have there := List.mem_of_find?_eq_some found
      have carries := (sound.carrier?_eq_some.1 known).2
      have late := ending_eq stays _ there
      rw [ended_of_carries (b := b.apply { status := some .canceled, expiresAt := some first }) carries] at late
      exact (congrArg Billing.expiresAt late).symm
    · intro same
      cases known : L.carrier? (.text d.subscriptionId) with
      | some b =>
        rw [← same (Option.isSome_iff_exists.2 ⟨b, known⟩)]
        exact lasts.symm
      | none =>
        have follows : (Event.deleted d).Follows d.subscriptionId := rfl
        rw [decision_of_none follows known first]
        exact ending_stays fun x there => ended_of_other (carrier?_eq_none.1 known x there)

end Ledger

namespace Store

variable {s : Store} {L : Ledger} {e : Event} {first second : Surroundings}

-- An event that has been reconciled is delivered again, at any time: it comes to the same result, and every
-- record and account stays as it is, but that a cancellation moves the end of its record to the later moment.
theorem repeats (shows_ : s.Shows L) (sound : L.Sound) (proper : e.Proper) (once : first.Fallible) (again : second.Calm)
    (succeeds : (s.deliver first e).1.isOk) :
    ((s.deliver first e).2.deliver second e).1 = (s.deliver first e).1 ∧
      (∃ M, (s.deliver first e).2.Shows M ∧ ((s.deliver first e).2.deliver second e).2.Shows (M.ending e second.now)) ∧
      ((s.deliver first e).2.Alike ((s.deliver first e).2.deliver second e).2 ↔ (L.Cancels e → first.now = second.now)) := by
  obtain ⟨faults, faulty⟩ := once.faulty
  obtain ⟨result, comes, told, after, whole⟩ := deliver_comes shows_ sound once.clock faulty proper
  obtain ⟨told', after', -⟩ := deliver_calm after whole again proper
  rw [told] at succeeds
  cases comes.enacted succeeds
  rw [Ledger.enact_repeated sound first.now second.now succeeds] at told' after'
  refine ⟨told'.trans told.symm, ⟨_, after, after'⟩, ?_⟩
  rw [← Ledger.ending_enact sound first.now second.now succeeds]
  constructor
  · rintro ⟨M, one, other⟩
    exact (shows_unique after' other).trans (shows_unique one after)
  · intro same
    rw [same] at after'
    exact ⟨_, after, after'⟩

end Store

namespace Shop

def enlargement : Event := .updated (change (some .active) (some "price-team"))

theorem enlargement_repeated :
    (((ledger .active "pro" "pro").store.deliver (.quiet ⟨0, some 0⟩) enlargement).2.deliver
        (.quiet ⟨3600000000, some 0⟩) enlargement).1 =
      ((ledger .active "pro" "pro").store.deliver (.quiet ⟨0, some 0⟩) enlargement).1 ∧
    ((ledger .active "pro" "pro").store.deliver (.quiet ⟨0, some 0⟩) enlargement).2.Alike
      (((ledger .active "pro" "pro").store.deliver (.quiet ⟨0, some 0⟩) enlargement).2.deliver
        (.quiet ⟨3600000000, some 0⟩) enlargement).2 := by
  have shown := shows_ .active "pro" "pro" (by decide)
  have clock : Moment.Clock ⟨0, some 0⟩ := by decide
  have later : Moment.Clock ⟨3600000000, some 0⟩ := by decide
  have quiet : (Surroundings.quiet ⟨0, some 0⟩).Sporadic := ⟨clock, .inl fun _ => rfl⟩
  have proper : enlargement.Proper := show Moment.Proper ⟨1893456000000000, some 0⟩ by decide
  obtain ⟨told, -⟩ := Store.deliver_calm shown (sound _ _ _) (Surroundings.calm_quiet clock) proper
  obtain ⟨same, -, alike⟩ := Store.repeats shown (sound _ _ _) proper quiet.fallible (Surroundings.calm_quiet later)
    (by rw [told]; decide +kernel)
  exact ⟨same, alike.2 False.elim⟩

theorem cancellation_moves_end : ((ledger .active "pro" "pro").store.deliver (.quiet ⟨0, some 0⟩) (.deleted cancellation)).1.isOk ∧
    ∃ M N, ((ledger .active "pro" "pro").store.deliver (.quiet ⟨0, some 0⟩) (.deleted cancellation)).2.Shows M ∧
      (((ledger .active "pro" "pro").store.deliver (.quiet ⟨0, some 0⟩) (.deleted cancellation)).2.deliver
        (.quiet ⟨10000000, some 0⟩) (.deleted cancellation)).2.Shows N ∧
      M.billings.map (·.expiresAt) = [⟨0, some 0⟩] ∧ N.billings.map (·.expiresAt) = [⟨10000000, some 0⟩] := by
  have shown := shows_ .active "pro" "pro" (by decide)
  have clock : Moment.Clock ⟨0, some 0⟩ := by decide
  have later : Moment.Clock ⟨10000000, some 0⟩ := by decide
  obtain ⟨told, once, whole⟩ := Store.deliver_calm (e := .deleted cancellation) shown (sound _ _ _)
    (Surroundings.calm_quiet clock) trivial
  obtain ⟨-, twice, -⟩ := Store.deliver_calm (e := .deleted cancellation) once whole (Surroundings.calm_quiet later) trivial
  refine ⟨by rw [told]; decide +kernel, _, _, once, twice, ?_, ?_⟩
  · decide +kernel
  · decide +kernel

end Shop
end SubscriptionLedger
