import Mathlib.Logic.Function.Basic
import SubscriptionLedger.Proofs.Interleaving

namespace SubscriptionLedger

variable {α : Type}

namespace Program

inductive LeadsTo : Program α → Program α → Prop where
  | here : LeadsTo p p
  | pay (later : LeadsTo (next (.error .connection)) p) : LeadsTo (.pay r next) p
  | acquire (later : LeadsTo (next (.ok ())) p) : LeadsTo (.acquire key next) p
  | release (later : LeadsTo next p) : LeadsTo (.release key next) p

theorem LeadsTo.trans {p q r : Program α} (first : p.LeadsTo q) (second : q.LeadsTo r) : p.LeadsTo r := by
  induction first with
  | here => exact second
  | pay _ ih => exact .pay (ih second)
  | acquire _ ih => exact .acquire (ih second)
  | release _ ih => exact .release (ih second)

end Program

def Stage.left : Stage α → Program α
  | .fresh p => p
  | .standing q next => .ask q next
  | .waiting ticket next => .acquire ticket.key next
  | .finished result => .ofExcept result

theorem Program.leadsTo_runOn (task : String) (lock : KeyedLock String) (tickets : List Ticket) (p : Program α) :
    p.LeadsTo (p.runOn task lock tickets).stage.left := by
  induction p generalizing lock tickets with
  | done | fail | ask => exact .here
  | pay r next ih => exact .pay (ih _ _ _)
  | acquire key next ih =>
    unfold runOn
    dsimp only
    split
    · exact .acquire (ih _ _ _)
    · exact .here
  | release key next ih =>
    unfold runOn
    split
    · exact .release (ih _ _)
    · split
      · exact .release (ih _ _)
      · exact .release (ih _ _)

namespace World

def left (w : World α) (id : String) : Option (Program α) := (w.job? id).map (·.stage.left)

def ending? (w : World α) (id : String) : Option (Except Fault α) :=
  (w.job? id).bind fun t =>
    match t.stage with
    | .finished result => some result
    | _ => none

def Leads (work : String → Option (Program α)) (w : World α) : Prop := ∀ id, Option.Rel Program.LeadsTo (work id) (w.left id)

-- What one turn does: nothing to the store, or what the call of its job does.
inductive Turned (w : World α) (id : String) (w' : World α) : Prop where
  | still (store : w'.store = w.store) (leads : w'.Leads w.left)
  | asked {t : Job α} {q : Query} {next : Except Fault q.Reply → Program α} (known : w.job? id = some t)
    (stood : t.stage = .standing q next)
    (store : w'.store = (w.store.ask w.now q).2)
    (leads : w'.Leads (Function.update w.left id (some (next (w.store.ask w.now q).1))))

variable {w : World α} {t : Job α} {p : Progress α} {id : String}

theorem resume_store (w : World α) (store : Store) (id : String) :
    ({ w with store }).resume id = ({ (w.resume id).1 with store }, (w.resume id).2) := by
  have there : ({ w with store } : World α).job? id = w.job? id := rfl
  unfold resume
  rw [there]
  cases w.job? id with
  | none => rfl
  | some t =>
    dsimp only
    cases t.stage <;> rfl

theorem resumeAll_store (w : World α) (store : Store) (fuel : Nat) (called : List String) :
    ({ w with store }).resumeAll fuel called = { w.resumeAll fuel called with store } := by
  induction fuel generalizing w called with
  | zero => rfl
  | succ fuel ih =>
    cases called with
    | nil => rfl
    | cons id rest =>
      unfold resumeAll
      rw [resume_store]
      exact ih _ _

theorem resumeAll_keeps (w : World α) (fuel : Nat) (called : List String) : (w.resumeAll fuel called).store = w.store := by
  have same := congrArg World.store (resumeAll_store w w.store fuel called)
  exact same

theorem left_of_job? (known : w.job? id = some t) : w.left id = some t.stage.left := by
  unfold left
  rw [known]
  rfl

theorem left_of_ending? {result : Except Fault α} (ended : w.ending? id = some result) : w.left id = some (.ofExcept result) := by
  obtain ⟨t, known, last⟩ := Option.bind_eq_some_iff.1 ended
  rw [left_of_job? known]
  split at last
  · rename_i stood
    cases last
    rw [stood]
    rfl
  · cases last

theorem Leads.refl (w : World α) : w.Leads w.left := by
  intro id
  cases w.left id with
  | none => exact .none
  | some p => exact .some .here

theorem Leads.trans {work : String → Option (Program α)} {w w' : World α} (first : w.Leads work) (second : w'.Leads w.left) :
    w'.Leads work := by
  intro id
  have near := first id
  have far := second id
  generalize work id = start at near ⊢
  generalize w.left id = middle at near far
  generalize w'.left id = finish at far ⊢
  cases near with
  | none =>
    cases far
    exact .none
  | some here =>
    cases far with
    | some later => exact .some (here.trans later)

theorem Leads.source {work : String → Option (Program α)} (leads : w.Leads work) (there : w.left id = some after) :
    ∃ before, work id = some before ∧ before.LeadsTo after := by
  have related := leads id
  rw [there] at related
  generalize work id = start at related
  cases related with
  | some later => exact ⟨_, rfl, later⟩

theorem Leads.target {work : String → Option (Program α)} (leads : w.Leads work) (there : work id = some before) :
    ∃ after, w.left id = some after ∧ before.LeadsTo after := by
  have related := leads id
  rw [there] at related
  generalize w.left id = finish at related
  cases related with
  | some later => exact ⟨_, rfl, later⟩

theorem left_settle (known : w.job? t.id = some t) (store : Store) :
    ({ w with store }.settle t p).1.left = Function.update w.left t.id (some p.stage.left) := by
  funext id
  unfold left
  rw [job?_settle known]
  by_cases here : id = t.id
  · rw [here, if_pos rfl, Function.update_self]
    rfl
  · rw [if_neg here, Function.update_of_ne here]

theorem leads_settle {work : Program α} (known : w.job? t.id = some t) (store : Store) (leads : work.LeadsTo p.stage.left) :
    ({ w with store }.settle t p).1.Leads (Function.update w.left t.id (some work)) := by
  rw [Leads, left_settle known]
  intro id
  by_cases here : id = t.id
  · rw [here, Function.update_self, Function.update_self]
    exact .some leads
  · rw [Function.update_of_ne here, Function.update_of_ne here]
    exact Leads.refl w id

theorem leads_resume (w : World α) (id : String) : (w.resume id).1.Leads w.left := by
  unfold resume
  split
  · rename_i t known
    split
    · rename_i ticket next stood
      have named := id_of_job? known
      subst named
      have goesOn : (Program.acquire ticket.key next).LeadsTo
          ((next (.ok ())).runOn t.id ((w.lock t.bench).enter t.id ticket) (ticket :: t.tickets)).stage.left :=
        .acquire (Program.leadsTo_runOn _ _ _ _)
      have settled := leads_settle known w.store goesOn
      have same : w.left t.id = some (.acquire ticket.key next) := by
        rw [left_of_job? known, stood]
        rfl
      rw [← same, Function.update_eq_self] at settled
      exact settled
    · exact Leads.refl w
  · exact Leads.refl w

theorem leads_resumeAll (fuel : Nat) (w : World α) (called : List String) : (w.resumeAll fuel called).Leads w.left := by
  induction fuel generalizing w called with
  | zero => exact Leads.refl w
  | succ fuel ih =>
    cases called with
    | nil => exact Leads.refl w
    | cons id rest => exact (leads_resume w id).trans (ih _ _)

theorem advance_turned (w : World α) (id : String) : w.Turned id (w.advance id).1 := by
  unfold advance
  split
  · exact .still rfl (Leads.refl w)
  · rename_i t known
    have named := id_of_job? known
    subst named
    split
    · rename_i work fresh
      have settled := leads_settle known w.store (Program.leadsTo_runOn t.id (w.lock t.bench) t.tickets work)
      have same : w.left t.id = some work := by
        rw [left_of_job? known, fresh]
        rfl
      rw [← same, Function.update_eq_self] at settled
      exact .still (resumeAll_keeps (w.start t work).1 _ _) (settled.trans (leads_resumeAll _ (w.start t work).1 _))
    · rename_i q next stood
      have settled := leads_settle known (w.store.ask w.now q).2
        (Program.leadsTo_runOn t.id (w.lock t.bench) t.tickets (next (w.store.ask w.now q).1))
      exact .asked known stood (resumeAll_keeps (w.carryOut t q next).1 _ _)
        (settled.trans (leads_resumeAll _ (w.carryOut t q next).1 _))
    · exact .still rfl (Leads.refl w)
    · exact .still rfl (Leads.refl w)

def spread (now : Moment) (s : Store) (benches : Nat) (bench : Calling → Nat) (calls : List Calling) : World Reconciliation where
  now
  store := s
  locks := List.replicate benches .empty
  jobs := calls.map fun c => ⟨c.id, bench c, [], .fresh c.program⟩

theorem left_spread (now : Moment) (s : Store) (benches : Nat) (bench : Calling → Nat) (calls : List Calling) (id : String) :
    (spread now s benches bench calls).left id = (calls.find? (·.id = id)).map Calling.program := by
  unfold left job? spread
  rw [List.find?_map]
  change ((calls.find? (·.id = id)).map _).map _ = _
  rw [Option.map_map]
  rfl

theorem follow_append (w : World α) (first second : List (Moment × String)) :
    w.follow (first ++ second) = (w.follow first).follow second := by
  induction first generalizing w with
  | nil => rfl
  | cons x rest ih => exact ih _

theorem advance_left (there : w.left id = some work) (turned : String) : ∃ rest, (w.advance turned).1.left id = some rest := by
  cases advance_turned w turned with
  | still _ leads =>
    obtain ⟨rest, stays, -⟩ := leads.target there
    exact ⟨rest, stays⟩
  | asked _ _ _ leads =>
    by_cases here : id = turned
    · subst here
      obtain ⟨rest, stays, -⟩ := leads.target (Function.update_self _ _ _)
      exact ⟨rest, stays⟩
    · obtain ⟨rest, stays, -⟩ := leads.target ((Function.update_of_ne here _ _).trans there)
      exact ⟨rest, stays⟩

theorem follow_left (there : w.left id = some work) (schedule : List (Moment × String)) :
    ∃ rest, (w.follow schedule).left id = some rest := by
  induction schedule generalizing w work with
  | nil => exact ⟨work, there⟩
  | cons x rest ih =>
    have known : ({ w with now := x.1 } : World α).left id = some work := there
    obtain ⟨after, stays⟩ := advance_left known x.2
    exact ih stays

theorem ending?_of_finished (finished : w.jobs.all isFinished) (there : w.left id = some work) :
    ∃ result, w.ending? id = some result := by
  obtain ⟨t, known, -⟩ := Option.map_eq_some_iff.1 there
  have ended := List.all_eq_true.1 finished t (List.mem_of_find?_eq_some known)
  unfold ending?
  rw [known]
  unfold isFinished at ended
  cases stage : t.stage with
  | finished result =>
    rw [Option.bind_some, stage]
    exact ⟨result, rfl⟩
  | _ =>
    rw [stage] at ended
    cases ended

-- A world whose store shows a ledger, and whose jobs read nothing else out of it.
structure Reads (w : World α) (L : Ledger) : Prop where
  shows_ : w.store.Shows L
  sound : L.Sound
  plain : ∀ id p, w.left id = some p → p.Plain

end World

theorem Program.plain_leadsTo {p p' : Program α} (leads : p.LeadsTo p') (plain : p.Plain) : p'.Plain := by
  induction leads with
  | here => exact plain
  | pay => exact plain.elim
  | acquire _ ih => exact ih (plain (.ok ()))
  | release _ ih => exact ih plain

namespace World

variable {w w' : World α} {t : Job α} {L : Ledger} {q : Query} {next : Except Fault q.Reply → Program α} {id : String}

theorem Leads.plain {work : String → Option (Program α)} (leads : w.Leads work) (plain : ∀ id p, work id = some p → p.Plain) :
    ∀ id p, w.left id = some p → p.Plain := by
  intro id p there
  obtain ⟨before, started, later⟩ := leads.source there
  exact Program.plain_leadsTo later (plain id before started)

theorem Reads.asked (reads : w.Reads L) (clock : w.now.Clock) (there : w.left id = some (.ask q next)) :
    next (w.store.ask w.now q).1 = next (L.ask w.now q).1 ∧ (w.store.ask w.now q).2.Shows (L.ask w.now q).2 := by
  obtain ⟨plain, blind, -⟩ := reads.plain id _ there
  obtain ⟨reply, after⟩ := Store.ask_shows reads.shows_ reads.sound clock plain
  refine ⟨?_, after⟩
  rw [← reply]
  exact (blind _).symm

theorem left_of_standing (known : w.job? id = some t) (stood : t.stage = .standing q next) : w.left id = some (.ask q next) := by
  rw [left_of_job? known, stood]
  rfl

theorem Reads.advance (reads : w.Reads L) (clock : w.now.Clock) (id : String) :
    ∃ L', (w.advance id).1.Reads L' ∧ (L' = L ∧ (w.advance id).1.Leads w.left ∨
      ∃ q next, w.left id = some (.ask q next) ∧ L' = (L.ask w.now q).2 ∧
        (w.advance id).1.Leads (Function.update w.left id (some (next (L.ask w.now q).1)))) := by
  cases advance_turned w id with
  | still store leads =>
    refine ⟨L, ⟨?_, reads.sound, leads.plain reads.plain⟩, .inl ⟨rfl, leads⟩⟩
    rw [store]
    exact reads.shows_
  | @asked t q next known stood store leads =>
    have there := left_of_standing known stood
    obtain ⟨same, after⟩ := reads.asked clock there
    rw [same] at leads
    refine ⟨_, ⟨?_, Ledger.ask_sound reads.sound _ q, leads.plain ?_⟩, .inr ⟨q, next, there, rfl, leads⟩⟩
    · rw [store]
      exact after
    · intro other p there'
      by_cases here : other = id
      · rw [here, Function.update_self] at there'
        cases there'
        exact (reads.plain id _ there).2.2 _ (Ledger.ask_named reads.sound _ q)
      · rw [Function.update_of_ne here] at there'
        exact reads.plain other p there'

theorem reads_spread (now : Moment) (shows_ : s.Shows L) (sound : L.Sound) (benches : Nat) (bench : Calling → Nat)
    {calls : List Calling} (proper : ∀ c ∈ calls, c.Proper) : (spread now s benches bench calls).Reads L := by
  refine ⟨shows_, sound, ?_⟩
  intro id p there
  rw [left_spread] at there
  obtain ⟨c, found, rfl⟩ := Option.map_eq_some_iff.1 there
  have member := List.mem_of_find?_eq_some found
  exact plain_reconcile (proper c member).reading (proper c member).event

end World
end SubscriptionLedger
