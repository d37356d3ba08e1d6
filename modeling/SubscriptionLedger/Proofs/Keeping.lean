import Mathlib.Data.List.Forall2
import SubscriptionLedger.Proofs.Answer
import SubscriptionLedger.Proofs.Turns

namespace SubscriptionLedger

-- A row after changes: still the row of its name and of its user, made at the same moment.
def Row.Stays (row row' : Row) : Prop :=
  ∀ column ∈ ["id", "user_id", "created_at"], Members.find? row' column = Members.find? row column

def Row.IsOf (userId : String) (row : Row) : Prop := Members.get row "user_id" = .text userId

def Row.Carries (subscriptionId : String) (row : Row) : Prop := Members.get row "external_subscription_id" = .text subscriptionId

instance (userId : String) : DecidablePred (Row.IsOf userId) := fun row => decEq (Members.get row "user_id") (.text userId)

theorem Row.Stays.refl (row : Row) : row.Stays row := fun _ _ => rfl

theorem Row.Stays.trans {row row' row'' : Row} (first : row.Stays row') (second : row'.Stays row'') : row.Stays row'' := by
  intro column there
  exact (second column there).trans (first column there)

theorem Row.Stays.isOf {row row' : Row} (stays : row.Stays row') (userId : String) : row'.IsOf userId ↔ row.IsOf userId := by
  unfold IsOf Members.get
  rw [stays "user_id" (by decide)]

theorem Row.isOf_matches {row : Row} (owned : row.IsOf userId) : row.matches [("user_id", .text userId)] := by
  unfold IsOf Members.get at owned
  cases held : Members.find? row "user_id" with
  | none => rw [held] at owned; cases owned
  | some d =>
    rw [held] at owned
    cases owned
    rw [Row.matches_text held]
    exact decide_eq_true rfl

namespace Store

def ownedBy (s : Store) (userId : String) : List Row := s.billings.filter (Row.IsOf userId)

def Single (s : Store) : Prop := ∀ userId, (s.ownedBy userId).length ≤ 1

-- No row of billing is gone; new ones stand behind.
def Keeps (s s' : Store) : Prop := ∃ kept added, s'.billings = kept ++ added ∧ List.Forall₂ Row.Stays s.billings kept

variable {s s' s'' : Store} {now : Moment} {rows rows' : List Row} {q : Query}

theorem stays_refl (rows : List Row) : List.Forall₂ Row.Stays rows rows := List.forall₂_same.2 fun row _ => Row.Stays.refl row

theorem stays_trans {rows'' : List Row} (first : List.Forall₂ Row.Stays rows rows')
    (second : List.Forall₂ Row.Stays rows' rows'') : List.Forall₂ Row.Stays rows rows'' := by
  induction first generalizing rows'' with
  | nil => exact second
  | cons here rest ih =>
    cases second with
    | cons there more => exact .cons (here.trans there) (ih more)

theorem keeps_of_stays (stays : List.Forall₂ Row.Stays s.billings s'.billings) : s.Keeps s' :=
  ⟨s'.billings, [], (List.append_nil _).symm, stays⟩

theorem Keeps.refl (s : Store) : s.Keeps s := keeps_of_stays (stays_refl _)

theorem Keeps.trans (first : s.Keeps s') (second : s'.Keeps s'') : s.Keeps s'' := by
  obtain ⟨kept, added, split, stays⟩ := first
  obtain ⟨kept', added', split', stays'⟩ := second
  have front := List.forall₂_take kept.length stays'
  rw [split, List.take_left] at front
  refine ⟨kept'.take kept.length, kept'.drop kept.length ++ added', ?_, stays_trans stays front⟩
  rw [← List.append_assoc, List.take_append_drop]
  exact split'

theorem length_ownedBy (stays : List.Forall₂ Row.Stays rows rows') (userId : String) :
    (rows'.filter (Row.IsOf userId)).length = (rows.filter (Row.IsOf userId)).length := by
  induction stays with
  | nil => rfl
  | cons here rest ih =>
    have same := here.isOf userId
    rw [List.filter_cons, List.filter_cons]
    simp only [same]
    split
    · exact congrArg (· + 1) ih
    · exact ih

theorem Keeps.ownedBy_eq_nil (keeps : s.Keeps s') (none : s'.ownedBy userId = []) : s.ownedBy userId = [] := by
  obtain ⟨kept, added, split, stays⟩ := keeps
  unfold ownedBy at *
  rw [split, List.filter_append] at none
  have before := length_ownedBy stays userId
  rw [(List.append_eq_nil_iff.1 none).1] at before
  exact List.length_eq_zero_iff.1 before.symm

theorem stays_putAll (row : Row) (now : Moment) (u : BillingUpdate) : row.Stays (row.putAll (Query.stamped now u.columns)) := by
  intro column there
  simp only [List.mem_cons, List.not_mem_nil, or_false] at there
  rcases there with rfl | rfl | rfl
  all_goals exact BillingUpdate.find?_unsaid rfl (by decide)

theorem stays_changeRows (changes : ∀ row ∈ rows, row.Stays (row.putAll columns)) (before : List Row) :
    ∃ after, (changeRows table filters columns before rows).2 = before ++ after ∧ List.Forall₂ Row.Stays rows after := by
  induction rows generalizing before with
  | nil => exact ⟨[], (List.append_nil _).symm, .nil⟩
  | cons row rest ih =>
    obtain ⟨here, later⟩ := List.forall_mem_cons.1 changes
    unfold changeRows
    split
    · dsimp only
      split
      · exact ⟨row :: rest, rfl, stays_refl _⟩
      · obtain ⟨after, same, stays⟩ := ih later (before ++ [row.putAll columns])
        rw [List.append_assoc] at same
        exact ⟨row.putAll columns :: after, same, .cons here stays⟩
    · obtain ⟨after, same, stays⟩ := ih later (before ++ [row])
      rw [List.append_assoc] at same
      exact ⟨row :: after, same, .cons (Row.Stays.refl row) stays⟩

theorem billings_ask (s : Store) (now : Moment) (q : Query) :
    List.Forall₂ Row.Stays s.billings (s.ask now q).2.billings ∨
      ∃ new, q = .createBilling new ∧ clashes .billings s.billings (s.newRow now new.columns) = false ∧
        (s.ask now q).2.billings = s.billings ++ [s.newRow now new.columns] := by
  cases q with
  | createBilling new =>
    unfold ask
    dsimp only [Query.call, perform]
    cases clash : clashes .billings s.billings (s.newRow now new.columns) with
    | true =>
      rw [insert_taken s clash]
      exact .inl (stays_refl _)
    | false =>
      rw [insert_free s clash]
      exact .inr ⟨new, rfl, clash, rfl⟩
  | updateBilling id u =>
    refine .inl ?_
    change List.Forall₂ Row.Stays s.billings (changeRows .billings [("id", id)] (Query.stamped now u.columns) [] s.billings).2
    have changes : ∀ row ∈ s.billings, row.Stays (row.putAll (Query.stamped now u.columns)) := fun row _ => stays_putAll row now u
    obtain ⟨after, same, stays⟩ := stays_changeRows changes []
    rw [same]
    exact stays
  | _ => exact .inl (stays_refl _)

theorem ask_keeps (s : Store) (now : Moment) (q : Query) : s.Keeps (s.ask now q).2 := by
  rcases billings_ask s now q with stays | ⟨new, -, -, longer⟩
  · exact keeps_of_stays stays
  · exact ⟨s.billings, [s.newRow now new.columns], longer, stays_refl _⟩

theorem newRow_isOf (s : Store) (now : Moment) (new : NewBilling) : (s.newRow now new.columns).IsOf new.userId := by
  unfold Row.IsOf Members.get
  rw [NewBilling.find?_row]
  rfl

theorem newRow_carries (s : Store) (now : Moment) (new : NewBilling) : (s.newRow now new.columns).Carries new.subscriptionId := by
  unfold Row.Carries Members.get
  rw [NewBilling.find?_row]
  rfl

theorem clashes_newRow (s : Store) (now : Moment) (new : NewBilling) :
    clashes .billings rows (s.newRow now new.columns) ↔ ∃ row ∈ rows, row.IsOf new.userId ∨ row.Carries new.subscriptionId := by
  have owner := newRow_isOf s now new
  have carries := newRow_carries s now new
  unfold Row.IsOf at owner
  unfold Row.Carries at carries
  have meets (row : Row) : sameSlot (s.newRow now new.columns) row ↔ row.IsOf new.userId ∨ row.Carries new.subscriptionId := by
    unfold sameSlot Row.IsOf Row.Carries
    rw [owner, carries, Document.same_text, Document.same_text, Document.text_bne_null, Bool.true_and, Bool.or_eq_true,
      decide_eq_true_eq, decide_eq_true_eq]
    exact or_congr eq_comm eq_comm
  unfold clashes
  rw [decide_eq_true rfl, Bool.true_and, List.any_eq_true]
  simp only [meets]

theorem ask_single (single : s.Single) (now : Moment) (q : Query) : (s.ask now q).2.Single := by
  intro userId
  unfold ownedBy
  rcases billings_ask s now q with stays | ⟨new, -, free, longer⟩
  · rw [length_ownedBy stays]
    exact single userId
  · rw [longer, List.filter_append, List.length_append]
    by_cases mine : userId = new.userId
    · have nobody : s.billings.filter (Row.IsOf userId) = [] := by
        refine List.filter_eq_nil_iff.2 fun row there owned => ?_
        have met := (clashes_newRow s now new).2 ⟨row, there, .inl (mine ▸ of_decide_eq_true owned)⟩
        rw [free] at met
        cases met
      rw [nobody, List.length_nil, Nat.zero_add]
      exact List.length_filter_le _ [_]
    · have other : ¬ (s.newRow now new.columns).IsOf userId := by
        intro owned
        exact mine (Document.text.inj (owned.symm.trans (newRow_isOf s now new)))
      rw [List.filter_singleton, decide_eq_false other]
      exact single userId

-- That a user has a row already is said of an insertion only, which met another row.
theorem ask_duplicate (told : (s.ask now q).1 = .error (.duplicateBilling userId)) :
    ∃ new, q = .createBilling new ∧ new.userId = userId ∧
      ∃ row ∈ s.billings, row.IsOf new.userId ∨ row.Carries new.subscriptionId := by
  unfold ask at told
  dsimp only at told
  cases performed : (s.perform now (q.call now)).1 with
  | ok rows =>
    rw [performed] at told
    have told : q.read rows = .error (.duplicateBilling userId) := told
    rcases q.read_faults now told with ⟨silent, -⟩ | other | ⟨absence, -⟩
    · cases silent
    · cases other
    · exact absence.elim
  | error g =>
    rw [performed] at told
    have foreign := onlyForeign_perform s now _ g performed
    cases q with
    | createBilling new =>
      refine ⟨new, rfl, ?_, ?_⟩
      · change Except.error (Query.explain (.createBilling new) g) = _ at told
        unfold Query.explain at told
        split at told
        · split at told
          · rename_i same _
            cases same
            cases told
            rfl
          · cases told
        · cases told
          exact absurd foreign.1 nofun
      · refine (clashes_newRow s now new).1 ?_
        by_contra free
        dsimp only [Query.call, perform] at performed
        rw [insert_free s (Bool.eq_false_iff.2 free)] at performed
        cases performed
    | _ =>
      cases told
      exact absurd foreign.1 nofun

theorem ownedBy_of_reply (told : (s.ask now (.billingByUser (.text userId))).1 = .ok none) : s.ownedBy userId = [] := by
  refine List.filter_eq_nil_iff.2 fun row there owned => ?_
  have matched := Row.isOf_matches (of_decide_eq_true owned)
  rw [ask_lookup s rfl] at told
  dsimp only at told
  cases found : s.billings.find? (·.matches [("user_id", .text userId)]) with
  | none => exact List.find?_eq_none.1 found row there matched
  | some first =>
    have full := List.find?_some found
    change Query.first? Billing.ofRow (s.billings.find? _).toList = _ at told
    rw [found] at told
    cases first with
    | nil => cases full
    | cons c cs =>
      obtain ⟨b, -, some⟩ := Except.map_eq_ok.1 told
      cases some

end Store
end SubscriptionLedger
