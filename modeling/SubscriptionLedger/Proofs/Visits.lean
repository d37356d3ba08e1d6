import SubscriptionLedger.Proofs.Line

namespace SubscriptionLedger

open KeyedLock

variable {τ : Type}

def Place.seat (key : String) : Place → Seat
  | .away => .outside
  | .waiting t => if t.key = key then .waiting else .outside
  | .inside t => if t.key = key then .inside else .outside

section Places

variable {p : Place} {key : String}

theorem Place.seat_eq_inside : p.seat key = .inside ↔ p.Inside key := by
  unfold seat Inside
  cases p with
  | away => simp
  | waiting t | inside t => by_cases here : t.key = key <;> simp [here]

theorem Place.seat_eq_waiting : p.seat key = .waiting ↔ p.Waiting key := by
  unfold seat Waiting
  cases p with
  | away => simp
  | waiting t | inside t => by_cases here : t.key = key <;> simp [here]

theorem Place.eq_away (nowhere : ∀ key, p.seat key = .outside) : p = .away := by
  cases p with
  | away => rfl
  | waiting t | inside t => simpa [seat] using nowhere t.key

end Places

structure Visits (τ : Type) where
  lock : KeyedLock τ
  place : τ → Place

namespace Visits

def initial : Visits τ := ⟨.empty, fun _ => .away⟩

def desk (v : Visits τ) (key : String) : Desk τ := ⟨v.lock.latchOf key, fun x => (v.place x).seat key⟩

variable [DecidableEq τ]

def step? (v : Visits τ) (m : Motion τ) : Option (Visits τ × Bool) :=
  match m.deed, v.place m.task with
  | .ask, .away =>
    let (lock, ticket, admitted) := v.lock.ask m.task m.key
    some (⟨lock, Function.update v.place m.task (if admitted then .inside ticket else .waiting ticket)⟩, admitted)
  | .enter, .waiting t =>
    if t.key = m.key ∧ (v.lock.latch t.latch).markOf? m.task = some .called then
      some (⟨v.lock.enter m.task t, Function.update v.place m.task (.inside t)⟩, true)
    else none
  | .leave, .inside t =>
    if t.key = m.key then (v.lock.leave? t).map fun (lock, _) => (⟨lock, Function.update v.place m.task .away⟩, false)
    else none
  | .callOff, .waiting t => if t.key = m.key then some (⟨v.lock.withdraw m.task t, v.place⟩, false) else none
  | .callOff, .inside t => if t.key = m.key then some (v, false) else none
  | .giveUp, .waiting t =>
    if t.key = m.key ∧ ((v.lock.latch t.latch).markOf? m.task).any Mark.isOff then
      (v.lock.abandon? m.task t).map fun (lock, _) => (⟨lock, Function.update v.place m.task .away⟩, false)
    else none
  | _, _ => none

def notesAt (key : String) (notes : List (Note τ)) : List (Note τ) := notes.filter (·.motion.key = key)

def run? : Visits τ → List (Motion τ) → Option (Visits τ × List (Note τ)) := Motion.run? step?

-- A lock that knows where the tasks are, and wakes them in time.
def Watched (v : Visits τ) : Prop := v.lock.Watches v.place

variable {v v' : Visits τ} {m : Motion τ} {d : Desk τ} {x : τ} {key other : String} {t : Ticket} {l : KeyedLock τ} {latch : Latch τ}
  {admitted : Bool}

omit [DecidableEq τ] in
theorem initial_watched : (initial : Visits τ).Watched := empty_watches

omit [DecidableEq τ] in
theorem Watched.kept (watched : v.Watched) (key : String) : (v.desk key).Kept where
  serves := (watched.serves key).congr (fun _ => Place.seat_eq_inside.symm) fun _ => Place.seat_eq_waiting.symm
  alert := watched.alert key

theorem desk_turns (turns : Turns v.lock l key latch) (x : τ) (new : Place)
    (elsewhere : ∀ other, other ≠ key → new.seat other = (v.place x).seat other) :
    (⟨l, Function.update v.place x new⟩ : Visits τ).desk key = ⟨latch, Function.update (v.desk key).seat x (new.seat key)⟩ ∧
      ∀ other, other ≠ key → (⟨l, Function.update v.place x new⟩ : Visits τ).desk other = v.desk other := by
  have seats : ∀ other, (fun y => (Function.update v.place x new y).seat other) =
      Function.update (fun y => (v.place y).seat other) x (new.seat other) :=
    fun other => Function.comp_update (Place.seat other) v.place x new
  unfold desk
  dsimp only
  refine ⟨?_, fun other distinct => ?_⟩
  · rw [seats, turns.here]
  · rw [seats, (turns.elsewhere other distinct).2, elsewhere other distinct, Function.update_eq_self]

-- What a motion comes to: the lock watches still, one desk makes the motion, and no other desk takes notice of it.
structure Goes (v v' : Visits τ) (m : Motion τ) (admitted : Bool) : Prop where
  watched : v'.Watched
  here : (v.desk m.key).step? m = some (v'.desk m.key, admitted)
  elsewhere : ∀ other, other ≠ m.key → v'.desk other = v.desk other

section Steps

variable (watched : v.Watched)
include watched

theorem goes_ask (deed : m.deed = .ask) (away : v.place m.task = .away) : ∃ l t admitted, v.lock.ask m.task m.key = (l, t, admitted) ∧
    Goes v ⟨l, Function.update v.place m.task (if admitted then .inside t else .waiting t)⟩ m admitted := by
  obtain ⟨l, n, asked, turns, -⟩ := ask_turns watched.sound m.key m.task
  refine ⟨l, ⟨m.key, n⟩, _, asked, ?_⟩
  have nowhere : ∀ new : Place, (∀ other, other ≠ m.key → new.seat other = .outside) →
      ∀ other, other ≠ m.key → new.seat other = (v.place m.task).seat other := by
    intro new out other distinct
    rw [away]
    exact out other distinct
  have outside : (v.desk m.key).seat m.task = .outside := by
    unfold desk
    dsimp only
    rw [away]
    rfl
  obtain ⟨l', n', ⟨asked', entered⟩ | ⟨asked', waits⟩⟩ := watches_ask watched away m.key
  all_goals
    rw [asked] at asked'
    obtain ⟨rfl, rest⟩ := Prod.mk.inj asked'
    obtain ⟨same, admitted⟩ := Prod.mk.inj rest
    cases same
    rw [admitted]
  · obtain ⟨here, there⟩ := desk_turns turns m.task (.inside ⟨m.key, n⟩)
      (nowhere _ fun other distinct => by simp [Place.seat, Ne.symm distinct])
    refine ⟨entered, ?_, there⟩
    rw [if_pos rfl, here]
    unfold Desk.step?
    rw [deed, outside]
    simp only [desk, admitted, Place.seat]
    simp
  · obtain ⟨here, there⟩ := desk_turns turns m.task (.waiting ⟨m.key, n⟩)
      (nowhere _ fun other distinct => by simp [Place.seat, Ne.symm distinct])
    refine ⟨waits, ?_, there⟩
    rw [if_neg Bool.false_ne_true, here]
    unfold Desk.step?
    rw [deed, outside]
    simp only [desk, admitted, Place.seat]
    simp

omit [DecidableEq τ] in
theorem latch_of_waits (waits : v.place x = .waiting t) : (v.desk t.key).latch = v.lock.latch t.latch :=
  latchOf_of_find? (watched.tickets x t (.inl waits))

omit watched [DecidableEq τ] in
theorem seat_of_waits (waits : v.place x = .waiting t) :
    (v.desk t.key).seat x = .waiting ∧ ∀ other, other ≠ t.key → (v.place x).seat other = .outside := by
  unfold desk
  dsimp only
  rw [waits]
  exact ⟨if_pos rfl, fun other distinct => if_neg (Ne.symm distinct)⟩

omit watched [DecidableEq τ] in
theorem seat_of_inside (inside : v.place x = .inside t) :
    (v.desk t.key).seat x = .inside ∧ ∀ other, other ≠ t.key → (v.place x).seat other = .outside := by
  unfold desk
  dsimp only
  rw [inside]
  exact ⟨if_pos rfl, fun other distinct => if_neg (Ne.symm distinct)⟩

theorem goes_enter (waits : v.place x = .waiting t) (called : (v.lock.latch t.latch).markOf? x = some .called) :
    Goes v ⟨v.lock.enter x t, Function.update v.place x (.inside t)⟩ ⟨x, t.key, .enter⟩ true := by
  have calls := (Watches.marked_iff watched waits).1 called
  have turns := enter_turns watched.sound (watched.tickets x t (.inl waits)) (watched.serves t.key) (calls t waits)
  obtain ⟨seat, nowhere⟩ := seat_of_waits waits
  obtain ⟨here, there⟩ := desk_turns turns x (.inside t) fun other distinct => by
    rw [nowhere other distinct]
    exact if_neg (Ne.symm distinct)
  refine ⟨(watches_enter watched waits calls).1, ?_, there⟩
  rw [here]
  unfold Desk.step?
  simp only [seat]
  rw [latch_of_waits watched waits, if_pos called, ← latch_of_waits watched waits]
  simp [Place.seat, desk]

theorem goes_leave (inside : v.place x = .inside t) : ∃ l called, v.lock.leave? t = some (l, called) ∧
    Goes v ⟨l, Function.update v.place x .away⟩ ⟨x, t.key, .leave⟩ false := by
  have held : (v.lock.latchOf t.key).held = true := (watched.serves t.key).held.2 ⟨x, by rw [inside]; rfl⟩
  obtain ⟨l, left, turns⟩ := leave?_turns watched.sound (watched.tickets x t (.inr inside)) held
  obtain ⟨l', called, left', watches, -⟩ := watches_leave watched inside
  cases (Prod.mk.inj (Option.some.inj (left.symm.trans left'))).1
  obtain ⟨seat, nowhere⟩ := seat_of_inside inside
  obtain ⟨here, there⟩ := desk_turns turns x .away fun other distinct => (nowhere other distinct).symm
  refine ⟨l, _, left, watches, ?_, there⟩
  rw [here]
  unfold Desk.step?
  simp only [seat]
  rfl

theorem goes_callOff (waits : v.place x = .waiting t) : Goes v ⟨v.lock.withdraw x t, v.place⟩ ⟨x, t.key, .callOff⟩ false := by
  have turns := withdraw_turns watched.sound (watched.tickets x t (.inl waits)) x
  obtain ⟨here, there⟩ := desk_turns turns x (v.place x) fun _ _ => rfl
  rw [Function.update_eq_self] at here there
  refine ⟨watches_withdraw watched waits, ?_, there⟩
  rw [here]
  unfold Desk.step?
  simp only [seat_of_waits waits]
  simp [desk, Function.update_eq_self]

theorem goes_giveUp (waits : v.place x = .waiting t) (off : ((v.lock.latch t.latch).markOf? x).any Mark.isOff = true) :
    ∃ l called, v.lock.abandon? x t = some (l, called) ∧ Goes v ⟨l, Function.update v.place x .away⟩ ⟨x, t.key, .giveUp⟩ false := by
  have queued := ((watched.serves t.key).queued x).2 (by rw [waits]; rfl)
  obtain ⟨l, gone, turns⟩ := abandon?_turns watched.sound (watched.tickets x t (.inl waits)) queued
  obtain ⟨l', called, gone', watches⟩ := watches_giveUp watched waits
  cases (Prod.mk.inj (Option.some.inj (gone.symm.trans gone'))).1
  obtain ⟨seat, nowhere⟩ := seat_of_waits waits
  obtain ⟨here, there⟩ := desk_turns turns x .away fun other distinct => (nowhere other distinct).symm
  refine ⟨l, _, gone, watches, ?_, there⟩
  rw [here]
  unfold Desk.step?
  simp only [seat]
  rw [latch_of_waits watched waits, if_pos off, ← latch_of_waits watched waits]
  rfl

theorem step_goes (step : v.step? m = some (v', admitted)) : Goes v v' m admitted := by
  obtain ⟨x, key, deed⟩ := m
  unfold step? at step
  split at step
  · rename_i asked away
    obtain ⟨l, t, answer, asks, goes⟩ := goes_ask watched asked away
    rw [asks] at step
    cases step
    exact goes
  · rename_i t entered waits
    split at step
    · rename_i called
      obtain ⟨rfl, called⟩ := called
      cases entered
      cases step
      exact goes_enter watched waits called
    · cases step
  · rename_i t left inside
    split at step
    · rename_i here
      cases here
      cases left
      obtain ⟨l, called, leaves, goes⟩ := goes_leave watched inside
      rw [leaves] at step
      cases step
      exact goes
    · cases step
  · rename_i t called waits
    split at step
    · rename_i here
      cases here
      cases called
      cases step
      exact goes_callOff watched waits
    · cases step
  · rename_i t called inside
    split at step
    · rename_i here
      cases here
      cases called
      cases step
      refine ⟨watched, ?_, fun _ _ => rfl⟩
      unfold Desk.step?
      simp only [seat_of_inside inside]
    · cases step
  · rename_i t gone waits
    split at step
    · rename_i off
      obtain ⟨rfl, off⟩ := off
      cases gone
      obtain ⟨l, called, leaves, goes⟩ := goes_giveUp watched waits off
      rw [leaves] at step
      cases step
      exact goes
    · cases step
  · cases step

theorem step_of_desk (step : (v.desk m.key).step? m = some (d, admitted))
    (clear : m.deed = .ask → ∀ other, other ≠ m.key → (v.place m.task).seat other = .outside) :
    ∃ v', v.step? m = some (v', admitted) := by
  have made : (v.step? m).isSome := by
    obtain ⟨x, key, deed⟩ := m
    have waiting : (v.desk key).seat x = .waiting → ∃ t, v.place x = .waiting t ∧ t.key = key := by
      intro seat
      have waits := Place.seat_eq_waiting.1 seat
      cases place : v.place x with
      | waiting t =>
        rw [place] at waits
        exact ⟨t, rfl, waits⟩
      | away | inside t =>
        rw [place] at waits
        exact waits.elim
    have inside : (v.desk key).seat x = .inside → ∃ t, v.place x = .inside t ∧ t.key = key := by
      intro seat
      have inside := Place.seat_eq_inside.1 seat
      cases place : v.place x with
      | inside t =>
        rw [place] at inside
        exact ⟨t, rfl, inside⟩
      | away | waiting t =>
        rw [place] at inside
        exact inside.elim
    unfold Desk.step? at step
    unfold step?
    split at step
    · rename_i asked outside
      cases asked
      have away : v.place x = .away := by
        refine Place.eq_away fun other => ?_
        by_cases here : other = key
        · rw [here]
          exact outside
        · exact clear rfl other here
      simp [away]
    · rename_i entered seat
      cases entered
      obtain ⟨t, waits, rfl⟩ := waiting seat
      split at step
      · rename_i called
        rw [latch_of_waits watched waits] at called
        simp only [waits]
        rw [if_pos ⟨trivial, called⟩]
        rfl
      · cases step
    · rename_i left seat
      cases left
      obtain ⟨t, there, rfl⟩ := inside seat
      obtain ⟨l, called, leaves, -⟩ := goes_leave watched there
      simp [there, leaves]
    · rename_i called seat
      cases called
      obtain ⟨t, waits, rfl⟩ := waiting seat
      simp [waits]
    · rename_i called seat
      cases called
      obtain ⟨t, there, rfl⟩ := inside seat
      simp [there]
    · rename_i gone seat
      cases gone
      obtain ⟨t, waits, rfl⟩ := waiting seat
      split at step
      · rename_i off
        rw [latch_of_waits watched waits] at off
        obtain ⟨l, called, leaves, -⟩ := goes_giveUp watched waits off
        simp [waits, off, leaves]
      · cases step
    · cases step
  obtain ⟨⟨v', answer⟩, is⟩ := Option.isSome_iff_exists.1 made
  have goes := (step_goes watched is).here
  rw [step] at goes
  cases goes
  exact ⟨v', is⟩

theorem run_desk (runs : v.run? motions = some (v', notes)) (key : String) :
    v'.Watched ∧ (v.desk key).run? (motions.filter (·.key = key)) = some (v'.desk key, notesAt key notes) := by
  induction motions generalizing v notes with
  | nil =>
    cases runs
    exact ⟨watched, rfl⟩
  | cons m rest ih =>
    obtain ⟨next, admitted, later, step, goes, rfl⟩ := Motion.run?_cons.1 runs
    obtain ⟨watched', here, elsewhere⟩ := step_goes watched step
    obtain ⟨last, there⟩ := ih watched' goes
    refine ⟨last, ?_⟩
    unfold notesAt
    by_cases same : m.key = key
    · subst same
      rw [List.filter_cons_of_pos (by simp), List.filter_cons_of_pos (by simp)]
      exact Motion.run?_cons.2 ⟨_, _, _, here, there, rfl⟩
    · rw [List.filter_cons_of_neg (by simpa using same), List.filter_cons_of_neg (by simpa using same),
        ← elsewhere key (Ne.symm same)]
      exact there

theorem run_of_desk (runs : (v.desk key).run? motions = some (d, notes)) (here : ∀ m ∈ motions, m.key = key)
    (clear : ∀ m ∈ motions, m.deed = .ask → ∀ other, other ≠ key → (v.place m.task).seat other = .outside) :
    ∃ v', v.run? motions = some (v', notes) := by
  induction motions generalizing v notes with
  | nil =>
    cases runs
    exact ⟨v, rfl⟩
  | cons m rest ih =>
    obtain ⟨next, admitted, later, step, goes, rfl⟩ := Motion.run?_cons.1 runs
    obtain ⟨rfl, heres⟩ := List.forall_mem_cons.1 here
    obtain ⟨clear, clears⟩ := List.forall_mem_cons.1 clear
    obtain ⟨v', made⟩ := step_of_desk watched step clear
    obtain ⟨watched', same, elsewhere⟩ := step_goes watched made
    rw [step] at same
    cases same
    have still : ∀ n ∈ rest, n.deed = .ask → ∀ other, other ≠ m.key → (v'.place n.task).seat other = .outside := by
      intro n there asks other distinct
      have seat := clears n there asks other distinct
      change (v'.desk other).seat n.task = .outside
      rw [elsewhere other distinct]
      exact seat
    obtain ⟨last, runs'⟩ := ih watched' goes heres still
    exact ⟨last, Motion.run?_cons.2 ⟨_, _, _, made, runs', rfl⟩⟩

end Steps

def Idle (v : Visits τ) (key : String) : Prop := ∀ y, ¬ (v.place y).Inside key

omit [DecidableEq τ] in
theorem desk_free : (v.desk key).Free ↔ v.Idle key := forall_congr' fun _ => not_congr Place.seat_eq_inside

structure Fair (v : Visits τ) (key : String) (notes : List (Note τ)) : Prop where
  -- the askings that were not called off have been admitted, in the order in which they were made, up to those that wait
  order : (Book.ofNotes notes).standing =
    (admissions notes).map (⟨·, .admitted⟩) ++ (Book.ofNotes notes).waiting.map (⟨·, .waiting⟩)
  -- whatever happens next, nobody overtakes the first one that waits
  next : v.Idle key → ∀ x, (Book.ofNotes notes).waiting.head? = some x → ∀ later v' notes', v.run? later = some (v', notes') →
    ⟨x, key, .callOff⟩ ∉ later → (admissions (notesAt key notes')).head? = some x ∨
      admissions (notesAt key notes') = [] ∧ v'.Idle key ∧ (Book.ofNotes (notes ++ notesAt key notes')).waiting.head? = some x
  -- and it can enter as soon as those before it, who have all been called off, have found that out
  awake : v.Idle key → ∀ x, (Book.ofNotes notes).waiting.head? = some x →
    ∃ gone : List τ, (∀ y ∈ gone, (v.place y).Waiting key ∧ y ∉ (Book.ofNotes notes).waiting) ∧ ∃ v' notes',
      v.run? (wake key gone x) = some (v', notes') ∧ (v'.place x).Inside key
  leaves : ∀ x, (v.place x).Inside key → (v.step? ⟨x, key, .leave⟩).isSome
  givesUp : ∀ x, (v.place x).Waiting key → x ∉ (Book.ofNotes notes).waiting → (v.step? ⟨x, key, .giveUp⟩).isSome

-- A keyed lock is a line of its own for each key: whoever asks first is admitted first, unless it is called off before,
-- and what happens at other keys makes no difference.
theorem first_come_first_served (runs : (initial : Visits τ).run? motions = some (v, notes)) (key : String) :
    v.Fair key (notesAt key notes) ∧
      ∃ w, (initial : Visits τ).run? (motions.filter (·.key = key)) = some (w, notesAt key notes) := by
  obtain ⟨watched, here⟩ := run_desk initial_watched runs key
  obtain ⟨kept, tells⟩ := Desk.run_tells (initial_watched.kept key) here (show Book.Tells [] [] [] from rfl)
  have waiting : (Book.ofNotes (notesAt key notes)).waiting = (v.desk key).latch.line := tells.waiting_eq
  refine ⟨⟨?_, ?_, ?_, ?_, ?_⟩, ?_⟩
  · rw [waiting]
    exact tells
  · intro idle x first later v' notes' goes stays
    rw [waiting] at first
    obtain ⟨rest, line⟩ := List.head?_eq_some_iff.1 first
    obtain ⟨-, there⟩ := run_desk watched goes key
    have told := (Desk.run_tells kept there tells).2.waiting_eq
    rw [← List.foldl_append] at told
    have stays' : ∀ m ∈ later.filter (·.key = key), ¬ (m.task = x ∧ m.deed = .callOff) := by
      rintro ⟨task, at_, deed⟩ member ⟨who, what⟩
      obtain ⟨made, at_key⟩ := List.mem_filter.1 member
      have same : at_ = key := of_decide_eq_true at_key
      dsimp only at who what
      rw [who, what, same] at made
      exact stays made
    rcases Desk.run_next kept there (desk_free.2 idle) line stays' with entered | ⟨nobody, free, rest', line'⟩
    · exact .inl entered
    · refine .inr ⟨nobody, desk_free.1 free, ?_⟩
      rw [Book.ofNotes, told, line']
      rfl
  · intro idle x first
    rw [waiting] at first ⊢
    obtain ⟨rest, line⟩ := List.head?_eq_some_iff.1 first
    obtain ⟨gone, ahead, d, wakes, made, inside⟩ := Desk.run_awake kept (desk_free.2 idle) line key
    obtain ⟨v', goes⟩ := run_of_desk watched made (fun m there => (mem_wake there).1)
      fun m there asks => absurd asks (mem_wake there).2
    refine ⟨gone, fun y there => ⟨Place.seat_eq_waiting.1 (ahead y there).1, (ahead y there).2⟩, v', wakes, goes, ?_⟩
    have same := (run_desk watched goes key).2
    rw [List.filter_eq_self.2 fun m there => by simp [(mem_wake there).1], made] at same
    rw [(Prod.mk.inj (Option.some.inj same)).1] at inside
    exact Place.seat_eq_inside.1 inside
  · intro x inside
    have seat : (v.desk key).seat x = .inside := Place.seat_eq_inside.2 inside
    obtain ⟨d, admitted, left⟩ := Desk.leaves seat key
    obtain ⟨v', made⟩ := step_of_desk (m := ⟨x, key, .leave⟩) watched left fun asks => by cases asks
    rw [made]
    rfl
  · intro x waits out
    rw [waiting] at out
    have seat : (v.desk key).seat x = .waiting := Place.seat_eq_waiting.2 waits
    obtain ⟨d, admitted, gone⟩ := Desk.givesUp kept seat out key
    obtain ⟨v', made⟩ := step_of_desk (m := ⟨x, key, .giveUp⟩) watched gone fun asks => by cases asks
    rw [made]
    rfl
  · exact run_of_desk initial_watched here (fun m there => of_decide_eq_true (List.mem_filter.1 there).2)
      fun _ _ _ _ _ => rfl

def handedOn : List (Motion (Fin 5)) :=
  [⟨0, "u1", .ask⟩, ⟨1, "u1", .ask⟩, ⟨2, "u1", .ask⟩, ⟨3, "u2", .ask⟩, ⟨0, "u1", .leave⟩, ⟨1, "u1", .callOff⟩,
    ⟨4, "u1", .ask⟩, ⟨3, "u2", .leave⟩]

theorem first_come_first_served_handedOn : ∃ v notes, (initial : Visits (Fin 5)).run? handedOn = some (v, notes) ∧
    Book.ofNotes (notesAt "u1" notes) = [⟨0, .admitted⟩, ⟨1, .calledOff⟩, ⟨2, .waiting⟩, ⟨4, .waiting⟩] ∧ v.Idle "u1" ∧
    v.Fair "u1" (notesAt "u1" notes) ∧
      ∃ w, (initial : Visits (Fin 5)).run? (handedOn.filter (·.key = "u1")) = some (w, notesAt "u1" notes) :=
  ⟨_, _, rfl, rfl, desk_free.1 (by unfold Desk.Free; decide), first_come_first_served rfl "u1"⟩

end Visits
end SubscriptionLedger
