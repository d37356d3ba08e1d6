import Mathlib.Data.List.Induction
import SubscriptionLedger.Proofs.Keeping
import SubscriptionLedger.Proofs.Resubscription

namespace SubscriptionLedger

inductive Doubt where
  | none
  -- some row was in the way
  | refused (userId : String)
  -- and it is not the user's, who has none
  | vain (userId : String)

def Doubt.after : Doubt → (q : Query) → Except Fault q.Reply → Doubt
  | _, .createBilling _, .error (.duplicateBilling userId) => refused userId
  | refused userId, .billingByUser id, .ok Option.none => if id = .text userId then vain userId else none
  | _, _, _ => none

def Query.Fits (q : Query) (reply : Except Fault q.Reply) : Prop :=
  ∀ userId, reply = .error (.duplicateBilling userId) → ∃ new, q = .createBilling new ∧ new.userId = userId

-- A program that opens rows of one subscription at most, and says that a user has a row already only if the user
-- had none when the store refused to open one.
def Program.Careful (opens : Option String) : Doubt → Program α → Prop
  | _, done _ => True
  | doubt, fail f => ∀ userId, f = .duplicateBilling userId → doubt = .vain userId
  | doubt, ask q next => (∀ new, q = .createBilling new → opens = some new.subscriptionId) ∧
      ∀ reply, q.Fits reply → (next reply).Careful opens (doubt.after q reply)
  | _, pay _ _ => False
  | doubt, acquire _ next => (next (.ok ())).Careful opens doubt
  | doubt, release _ next => next.Careful opens doubt

section Careful

open Program

variable {p : Program α} {opens : Option String} {doubt : Doubt} {q : Query} {key : String}

theorem Doubt.after_none (doubt : Doubt) (q : Query) (reply : Except Fault q.Reply) :
    Doubt.none.after q reply = doubt.after q reply ∨ Doubt.none.after q reply = .none := by
  cases q with
  | createBilling new =>
    refine .inl ?_
    cases reply with
    | ok => cases doubt <;> rfl
    | error f => cases f <;> cases doubt <;> rfl
  | _ => exact .inr rfl

theorem careful_of_none (careful : p.Careful opens .none) (doubt : Doubt) : p.Careful opens doubt := by
  induction p generalizing doubt with
  | done => trivial
  | pay => exact careful.elim
  | fail f =>
    intro userId same
    cases careful userId same
  | acquire _ next ih => exact ih _ careful doubt
  | release _ next ih => exact ih careful doubt
  | ask q next ih =>
    refine ⟨careful.1, fun reply fits => ?_⟩
    have goesOn := careful.2 reply fits
    rcases doubt.after_none q reply with same | forgets
    · rw [← same]
      exact goesOn
    · rw [forgets] at goesOn
      exact ih _ goesOn _

theorem careful_leadsTo {p' : Program α} (leads : p.LeadsTo p') (careful : p.Careful opens doubt) : p'.Careful opens doubt := by
  induction leads with
  | here => exact careful
  | pay => exact careful.elim
  | acquire _ ih => exact ih careful
  | release _ ih => exact ih careful

theorem careful_thenRelease (careful : p.Careful opens doubt) : (p.thenRelease key).Careful opens doubt := by
  induction p generalizing doubt with
  | done | fail => exact careful
  | pay => exact careful.elim
  | ask q next ih => exact ⟨careful.1, fun reply fits => ih _ (careful.2 reply fits)⟩
  | acquire _ next ih => exact ih _ careful
  | release _ next ih => exact ih careful

-- A call that opens nothing leaves no doubt behind, so its fault can be handed on.
theorem careful_ask {next : Except Fault q.Reply → Program α} (opensNone : ∀ new, q ≠ .createBilling new)
    (goesOn : ∀ a, (next (.ok a)).Careful opens .none)
    (fails : ∀ f, ∃ g, next (.error f) = .fail g ∧ ∀ userId, g = .duplicateBilling userId → f = .duplicateBilling userId) :
    (ask q next).Careful opens doubt := by
  refine ⟨fun new same => absurd same (opensNone new), fun reply fits => ?_⟩
  cases reply with
  | ok a => exact careful_of_none (goesOn a) _
  | error f =>
    obtain ⟨g, stops, only⟩ := fails f
    rw [stops]
    intro userId same
    obtain ⟨new, opened, -⟩ := fits userId (congrArg Except.error (only userId same))
    exact absurd opened (opensNone new)

theorem Ends.careful {p : Program Reconciliation} (ends : Ends told e userId b p) : p.Careful opens .none := by
  cases ends with
  | done => trivial
  | move _ _ moved refused =>
    refine careful_ask nofun (fun u => ?_) fun f => ⟨_, refused f, fun userId same => ?_⟩
    · rw [moved]
      trivial
    · rcases e.blame_cases b f with handed | ⟨_, incomplete⟩
      · exact handed.symm.trans same
      · rw [incomplete] at same
        cases same

theorem Rechecks.careful (rechecks : Rechecks new next again)
    (renews : ∀ owner b, (again owner (.ok (some b))).Careful opens .none) (f : Fault)
    (fits : (Query.createBilling new).Fits (.error f)) :
    (next (.error f)).Careful opens (Doubt.none.after (.createBilling new) (.error f)) := by
  rcases rechecks.refused f with stops | ⟨owner, rfl, looks⟩
  · rw [stops]
    rintro userId rfl
    exact absurd (stops.symm.trans (rechecks.looks userId)) nofun
  · rw [looks]
    obtain ⟨_, ⟨⟩, owned⟩ := fits owner rfl
    refine ⟨nofun, fun reply fits => ?_⟩
    cases reply with
    | error g =>
      rw [rechecks.fails]
      intro userId same
      obtain ⟨_, ⟨⟩, -⟩ := fits userId (congrArg Except.error same)
    | ok found =>
      cases found with
      | some b => exact careful_of_none (renews owner b) _
      | none =>
        rw [rechecks.vain]
        rintro userId ⟨⟩
        exact if_pos (congrArg Document.text owned)

theorem Work.careful {p : Program Reconciliation} (work : Work anything now e p) : p.Careful e.opens? .none := by
  induction work with
  | done => trivial
  | read reads _ _ stops _ ih => exact careful_ask reads.ne_create (fun a => ih a trivial) fun f => ⟨f, stops f, fun _ => id⟩
  | amend _ _ _ _ stops ends => exact careful_ask nofun (fun b => (ends b).careful) fun f => ⟨f, stops f, fun _ => id⟩
  | create _ opens _ _ ends rechecks _ ih =>
    refine ⟨?_, fun reply fits => ?_⟩
    · rintro _ ⟨⟩
      exact opens
    · cases reply with
      | ok b => exact careful_of_none (ends b).careful _
      | error f => exact rechecks.careful (fun owner b => ih owner b trivial) f fits

theorem Course.careful {p : Program Reconciliation} (course : Course anything now e p) : p.Careful e.opens? .none := by
  induction course with
  | done => trivial
  | unpaid => exact nofun
  | read reads _ _ stops _ ih => exact careful_ask reads.ne_create (fun a => ih a trivial) fun f => ⟨f, stops f, fun _ => id⟩
  | enter work => exact careful_thenRelease work.careful

end Careful

namespace World

variable {w : World Reconciliation} {s : Store} {schedule : List (Moment × String)} {id : String} {calls : List Calling}

theorem advance_keeps (w : World α) (id : String) : w.store.Keeps (w.advance id).1.store := by
  cases advance_turned w id with
  | still store =>
    rw [store]
    exact Store.Keeps.refl w.store
  | asked _ _ store =>
    rw [store]
    exact Store.ask_keeps _ _ _

theorem follow_keeps (w : World α) (schedule : List (Moment × String)) : w.store.Keeps (w.follow schedule).store := by
  induction schedule generalizing w with
  | nil => exact Store.Keeps.refl w.store
  | cons x rest ih => exact (advance_keeps { w with now := x.1 } x.2).trans (ih _)

theorem advance_single (w : World α) (single : w.store.Single) (id : String) : (w.advance id).1.store.Single := by
  cases advance_turned w id with
  | still store =>
    rw [store]
    exact single
  | asked _ _ store =>
    rw [store]
    exact Store.ask_single single _ _

theorem follow_single (w : World α) (single : w.store.Single) (schedule : List (Moment × String)) :
    (w.follow schedule).store.Single := by
  induction schedule generalizing w with
  | nil => exact single
  | cons x rest ih => exact ih _ (advance_single { w with now := x.1 } single x.2)

structure Meets (w : World α) (id : String) (opens : Option String) (userId : String) : Prop where
  inserts : ∃ t new next, w.job? id = some t ∧ t.stage = .standing (.createBilling new) next ∧ new.userId = userId ∧
    opens = some new.subscriptionId ∧ ∃ row ∈ w.store.billings, row.IsOf userId ∨ row.Carries new.subscriptionId

def AtTurn (w : World α) (schedule : List (Moment × String)) (id : String) (holds : World α → Prop) : Prop :=
  ∃ earlier now behind, schedule = earlier ++ (now, id) :: behind ∧ holds (w.follow earlier)

-- What a doubt after a schedule comes from: a turn at which the job met a row, none of its user's if that is known.
def Explains (w : World Reconciliation) (schedule : List (Moment × String)) (id : String) (opens : Option String) : Doubt → Prop
  | .none => True
  | .refused userId => w.AtTurn schedule id fun v => v.Meets id opens userId
  | .vain userId => w.AtTurn schedule id fun v => v.Meets id opens userId ∧ v.store.ownedBy userId = []

theorem AtTurn.later {w : World α} {holds : World α → Prop} (turn : w.AtTurn schedule id holds) (x : Moment × String) :
    w.AtTurn (schedule ++ [x]) id holds := by
  obtain ⟨earlier, now, behind, rfl, held⟩ := turn
  exact ⟨earlier, now, behind ++ [x], List.append_assoc _ _ _, held⟩

theorem Explains.later (explains : w.Explains schedule id opens doubt) (x : Moment × String) :
    w.Explains (schedule ++ [x]) id opens doubt := by
  cases doubt with
  | none => trivial
  | refused userId =>
    have turn : w.AtTurn schedule id fun v => v.Meets id opens userId := explains
    exact turn.later x
  | vain userId =>
    have turn : w.AtTurn schedule id fun v => v.Meets id opens userId ∧ v.store.ownedBy userId = [] := explains
    exact turn.later x

theorem Explains.asked {q : Query} {next : Except Fault q.Reply → Program Reconciliation} {t : Job Reconciliation}
    (explains : w.Explains schedule id opens doubt) (now : Moment) (known : (w.follow schedule).job? id = some t)
    (stood : t.stage = .standing q next) (only : ∀ new, q = .createBilling new → opens = some new.subscriptionId) :
    w.Explains (schedule ++ [(now, id)]) id opens (doubt.after q ((w.follow schedule).store.ask now q).1) := by
  unfold Doubt.after
  split
  · rename_i new userId told
    obtain ⟨new', same, owned, row, there, met⟩ := Store.ask_duplicate told
    cases same
    rw [owned] at met
    exact ⟨schedule, now, [], rfl, ⟨t, new, next, known, stood, owned, only new rfl, row, there, met⟩⟩
  · rename_i userId name told
    split
    · rename_i same
      subst same
      obtain ⟨earlier, now', behind, rfl, meets⟩ := explains
      have kept := follow_keeps (w.follow earlier) ((now', id) :: behind)
      rw [← follow_append] at kept
      exact ⟨earlier, now', behind ++ [(now, id)], List.append_assoc _ _ _, meets,
        kept.ownedBy_eq_nil (Store.ownedBy_of_reply told)⟩
    · trivial
  · trivial

theorem careful_follow {opens : String → Option String} (careful : ∀ id p, w.left id = some p → p.Careful (opens id) .none)
    (schedule : List (Moment × String)) :
    ∀ id p, (w.follow schedule).left id = some p → ∃ doubt, p.Careful (opens id) doubt ∧ w.Explains schedule id (opens id) doubt := by
  induction schedule using List.reverseRecOn with
  | nil => exact fun id p there => ⟨.none, careful id p there, trivial⟩
  | append_singleton schedule x ih =>
    obtain ⟨now, turned⟩ := x
    rw [follow_append]
    change ∀ id p, (({ w.follow schedule with now } : World Reconciliation).advance turned).1.left id = some p → _
    intro id p there
    cases advance_turned { w.follow schedule with now } turned with
    | still _ leads =>
      obtain ⟨before, stood, later⟩ := leads.source there
      obtain ⟨doubt, careful, explains⟩ := ih id before stood
      exact ⟨doubt, careful_leadsTo later careful, explains.later _⟩
    | @asked t q next known stood _ leads =>
      obtain ⟨before, started, later⟩ := leads.source there
      by_cases here : id = turned
      · subst here
        rw [Function.update_self] at started
        cases started
        obtain ⟨doubt, careful, explains⟩ := ih id _ (left_of_standing known stood)
        have fits : q.Fits ((w.follow schedule).store.ask now q).1 := by
          intro userId told
          obtain ⟨new, same, owned, -⟩ := Store.ask_duplicate told
          exact ⟨new, same, owned⟩
        exact ⟨_, careful_leadsTo later (careful.2 _ fits), explains.asked now known stood careful.1⟩
      · rw [Function.update_of_ne here] at started
        obtain ⟨doubt, careful, explains⟩ := ih id before started
        exact ⟨doubt, careful_leadsTo later careful, explains.later _⟩

structure Taken (w : World Reconciliation) (id : String) (e : InvoicePaid) (userId : String) : Prop where
  inserts : ∃ t new next, w.job? id = some t ∧ t.stage = .standing (.createBilling new) next ∧ new.userId = userId ∧
    new.subscriptionId = e.subscriptionId
  rowless : w.store.ownedBy userId = []
  other : ∃ row ∈ w.store.billings, ¬ row.IsOf userId ∧ row.Carries e.subscriptionId

theorem Meets.taken (meets : w.Meets id (some e.subscriptionId) userId) (rowless : w.store.ownedBy userId = []) :
    w.Taken id e userId := by
  obtain ⟨t, new, next, known, stood, owned, carried, row, there, met⟩ := meets.inserts
  have subscription := Option.some.inj carried
  have other : ¬ row.IsOf userId := fun mine => List.filter_eq_nil_iff.1 rowless row there (decide_eq_true mine)
  refine ⟨⟨t, new, next, known, stood, owned, subscription.symm⟩, rowless, row, there, other, ?_⟩
  rw [subscription]
  exact met.resolve_left other

-- Whatever processes do to one store: no user has two rows, rows stay, and a payment says that its user has a row
-- only if it was about to open one while the user had none and another user's row carried its subscription.
theorem one_row_each (single : s.Single) (ids : (calls.map (·.id)).Nodup) (now : Moment) (benches : Nat)
    (bench : Calling → Nat) (schedule more : List (Moment × String)) :
    ((spread now s benches bench calls).follow schedule).store.Single ∧
      ((spread now s benches bench calls).follow schedule).store.Keeps
        ((spread now s benches bench calls).follow (schedule ++ more)).store ∧
      ∀ c ∈ calls, ∀ userId,
        ((spread now s benches bench calls).follow schedule).ending? c.id = some (.error (.duplicateBilling userId)) →
          ∃ e, c.event = .paid e ∧ (spread now s benches bench calls).AtTurn schedule c.id fun v => v.Taken c.id e userId := by
  refine ⟨follow_single _ single schedule, ?_, ?_⟩
  · rw [follow_append]
    exact follow_keeps _ more
  · intro c member userId ended
    have careful : ∀ id p, (spread now s benches bench calls).left id = some p →
        p.Careful ((calls.find? (·.id = id)).bind fun c => c.event.opens?) .none := by
      intro id p there
      rw [left_spread] at there
      obtain ⟨c, found, rfl⟩ := Option.map_eq_some_iff.1 there
      rw [found]
      exact (course_reconcile anything c.reading c.event).careful
    obtain ⟨doubt, last, explains⟩ := careful_follow careful schedule c.id _ (left_of_ending? ended)
    rw [find?_calling ids member, Option.bind_some] at explains
    cases last userId rfl
    obtain ⟨earlier, now', behind, split, meets, rowless⟩ := explains
    cases event : c.event with
    | paid e =>
      rw [event] at meets
      exact ⟨e, rfl, earlier, now', behind, split, meets.taken rowless⟩
    | _ =>
      rw [event] at meets
      obtain ⟨_, _, _, _, _, _, opens, _⟩ := meets.inserts
      cases opens

end World

namespace Shop

def taken : Ledger :=
  { ledger .active "pro" "free" with billings := [{ bill .active "pro" with userId := "bob", subscriptionId := some "new-sub" }] }

theorem taken_sound : taken.Sound :=
  { sound .active "pro" "free" with
    ids := List.pairwise_singleton _ _
    slots := List.pairwise_singleton _ _
    fresh := List.forall_mem_singleton.2 ((sound .active "pro" "free").fresh (bill .active "pro") (.head _)) }

theorem taken_shows : taken.store.Shows taken :=
  { shows_ .active "pro" "free" (by decide) with
    billings := .cons (Billing.stands_row ⟨show Moment.Proper ⟨0, some 0⟩ by decide, nofun, rfl⟩) .nil }

-- The payment looks for ann's record before and after the store refuses to open one.
theorem payment_refused : taken.store.Single ∧
    ∃ e, payment.event = .paid e ∧ (World.spread ⟨0, some 0⟩ taken.store 1 (fun _ => 0) [payment]).AtTurn
      (List.replicate 7 (⟨0, some 0⟩, "payment")) "payment" fun v => v.Taken "payment" e "ann" := by
  have single : taken.store.Single := by
    intro userId
    exact List.length_filter_le _ [_]
  have proper : ∀ c ∈ [payment], c.Proper := by
    refine List.forall_mem_singleton.2 ⟨?_, by decide⟩
    change Moment.Proper ⟨1893456000000000, some 0⟩
    decide
  have clock : ∀ x ∈ List.replicate 7 ((⟨0, some 0⟩ : Moment), "payment"), x.1.Clock := by decide
  obtain ⟨jobs, -⟩ := World.shows_of_rehearsal taken_shows taken_sound proper ⟨0, some 0⟩ 1 (fun _ => 0) clock
  have rehearsed : ((World.spread ⟨0, some 0⟩ ⟨[], [], [], 0⟩ 1 (fun _ => 0) [payment]).rehearse taken
      (List.replicate 7 (⟨0, some 0⟩, "payment"))).ending? "payment" = some (.error (.duplicateBilling "ann")) := by
    decide +kernel
  have ids : ([payment].map (·.id)).Nodup := by decide
  obtain ⟨-, -, refusals⟩ := World.one_row_each single ids ⟨0, some 0⟩ 1 (fun _ => 0)
    (List.replicate 7 (⟨0, some 0⟩, "payment")) []
  refine ⟨single, refusals payment (.head _) "ann" ?_⟩
  unfold World.ending? World.job?
  rw [jobs]
  exact rehearsed

end Shop
end SubscriptionLedger
