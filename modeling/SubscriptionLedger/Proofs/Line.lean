import SubscriptionLedger.Concurrency.World
import SubscriptionLedger.Proofs.Watch

namespace SubscriptionLedger

variable {τ : Type}

inductive Deed where
  | ask
  -- a task that was called takes the key
  | enter
  -- its work under the key has ended or has failed, or it was called off in the midst of it
  | leave
  | callOff
  -- a task that was called off while it waited gives up
  | giveUp
deriving DecidableEq, Repr

structure Motion (τ : Type) where
  task : τ
  key : String
  deed : Deed
deriving DecidableEq, Repr

structure Note (τ : Type) where
  motion : Motion τ
  admitted : Bool
deriving DecidableEq, Repr

def Motion.run? {σ : Type} (step? : σ → Motion τ → Option (σ × Bool)) : σ → List (Motion τ) → Option (σ × List (Note τ))
  | s, [] => some (s, [])
  | s, m :: rest =>
    (step? s m).bind fun (s, admitted) => (run? step? s rest).map fun (s, notes) => (s, ⟨m, admitted⟩ :: notes)

theorem Motion.run?_cons {σ : Type} {step? : σ → Motion τ → Option (σ × Bool)} {s s' : σ} {m : Motion τ} :
    run? step? s (m :: rest) = some (s', notes) ↔
      ∃ next admitted later, step? s m = some (next, admitted) ∧ run? step? next rest = some (s', later) ∧
        notes = ⟨m, admitted⟩ :: later := by
  rw [run?]
  simp only [Option.bind_eq_some_iff, Option.map_eq_some_iff, Prod.exists, Prod.mk.injEq]
  constructor
  · rintro ⟨next, admitted, step, _, later, runs, rfl, rfl⟩
    exact ⟨next, admitted, later, step, runs, rfl⟩
  · rintro ⟨next, admitted, later, step, runs, rfl⟩
    exact ⟨next, admitted, step, s', later, runs, rfl, rfl⟩

def admissions (notes : List (Note τ)) : List τ := (notes.filter (·.admitted)).map (·.motion.task)

def wake (key : String) (gone : List τ) (x : τ) : List (Motion τ) := gone.map (⟨·, key, .giveUp⟩) ++ [⟨x, key, .enter⟩]

theorem mem_wake {m : Motion τ} (there : m ∈ wake key gone x) : m.key = key ∧ m.deed ≠ .ask := by
  unfold wake at there
  rcases List.mem_append.1 there with left | entered
  · obtain ⟨y, -, rfl⟩ := List.mem_map.1 left
    exact ⟨rfl, Deed.noConfusion⟩
  · cases List.mem_singleton.1 entered
    exact ⟨rfl, Deed.noConfusion⟩

inductive Fate where
  | waiting
  | admitted
  | calledOff
deriving DecidableEq, Repr

-- One asking for a key.
structure Asking (τ : Type) where
  task : τ
  fate : Fate
deriving DecidableEq, Repr

abbrev Book (τ : Type) := List (Asking τ)

namespace Book

-- The askings that were not called off.
def standing (book : Book τ) : Book τ := book.filter (·.fate ≠ .calledOff)

def waiting (book : Book τ) : List τ := (book.filter (·.fate = .waiting)).map (·.task)

variable [DecidableEq τ]

def settle (x : τ) (fate : Fate) (book : Book τ) : Book τ :=
  book.map fun a => if a.task = x ∧ a.fate = .waiting then { a with fate } else a

def record (book : Book τ) (n : Note τ) : Book τ :=
  match n.motion.deed with
  | .ask => book ++ [⟨n.motion.task, if n.admitted then .admitted else .waiting⟩]
  | .enter => book.settle n.motion.task .admitted
  | .callOff => book.settle n.motion.task .calledOff
  | .leave | .giveUp => book

def ofNotes (notes : List (Note τ)) : Book τ := notes.foldl record []

-- A book in which the standing askings are those that were admitted, and then those of a line.
def Tells (book : Book τ) (admitted line : List τ) : Prop :=
  book.standing = admitted.map (⟨·, .admitted⟩) ++ line.map (⟨·, .waiting⟩)

variable {book : Book τ} {admitted line rest : List τ} {x : τ}

omit [DecidableEq τ] in
theorem Tells.waiting_eq (tells : book.Tells admitted line) : book.waiting = line := by
  have decided : (book.standing.filter (·.fate = .waiting)).map (·.task) = line := by
    rw [tells]
    simp [List.filter_append, List.filter_map, Function.comp_def]
  rw [← decided]
  unfold waiting standing
  rw [List.filter_filter]
  congr 1
  refine List.filter_congr fun a _ => ?_
  cases a.fate <;> rfl

omit [DecidableEq τ] in
theorem tells_ask (tells : book.Tells admitted line) : Book.Tells (book ++ [⟨x, .waiting⟩]) admitted (line ++ [x]) := by
  unfold Tells standing at *
  rw [List.filter_append, tells]
  simp

omit [DecidableEq τ] in
theorem tells_admit (tells : book.Tells admitted []) : Book.Tells (book ++ [⟨x, .admitted⟩]) (admitted ++ [x]) [] := by
  unfold Tells standing at *
  rw [List.filter_append, tells]
  simp

theorem standing_settle (x : τ) : (book.settle x .admitted).standing = book.standing.settle x .admitted := by
  unfold settle standing
  rw [List.filter_map]
  congr 1
  refine List.filter_congr fun a _ => ?_
  dsimp only [Function.comp]
  split
  · rename_i waits
    rw [waits.2]
    rfl
  · rfl

theorem tells_enter (tells : book.Tells admitted (x :: rest)) (once : x ∉ rest) :
    (book.settle x .admitted).Tells (admitted ++ [x]) rest := by
  have others : ∀ y ∈ rest, y ≠ x := by
    rintro y there rfl
    exact once there
  unfold Tells at *
  rw [standing_settle, tells]
  unfold settle
  rw [List.map_append, List.map_cons, List.map_cons, List.map_map, List.map_map, List.map_append, List.append_assoc]
  congr 1
  · refine List.map_congr_left fun y _ => ?_
    simp
  · rw [if_pos ⟨rfl, rfl⟩]
    refine congrArg _ (List.map_congr_left fun y there => ?_)
    simp [others y there]

theorem tells_callOff (tells : book.Tells admitted line) :
    (book.settle x .calledOff).Tells admitted (line.filter (· ≠ x)) := by
  have dropped : (book.settle x .calledOff).standing =
      book.standing.filter fun a => ¬ (a.task = x ∧ a.fate = .waiting) := by
    unfold settle standing
    rw [List.filter_map, List.filter_filter]
    have kept : (book.filter ((fun a : Asking τ => decide (a.fate ≠ .calledOff)) ∘
        fun a => if a.task = x ∧ a.fate = .waiting then { a with fate := .calledOff } else a)) =
        book.filter fun a => decide (¬ (a.task = x ∧ a.fate = .waiting)) && decide (a.fate ≠ .calledOff) := by
      refine List.filter_congr fun a _ => ?_
      dsimp only [Function.comp]
      split
      · rename_i waits
        simp [waits]
      · rename_i stays
        simp [stays]
    rw [kept]
    refine (List.map_congr_left fun a there => ?_).trans (List.map_id _)
    have stays := (List.mem_filter.1 there).2
    rw [Bool.and_eq_true, decide_eq_true_iff] at stays
    rw [if_neg stays.1]
    rfl
  unfold Tells at *
  rw [dropped, tells, List.filter_append, List.filter_map, List.filter_map]
  congr 1
  · congr 1
    refine List.filter_eq_self.2 fun y _ => ?_
    simp
  · congr 1
    refine List.filter_congr fun y _ => ?_
    simp

end Book

namespace Latch

def line (l : Latch τ) : List τ := (l.queue.filter fun w => !w.mark.isOff).map (·.task)

variable {l : Latch τ} {holds waits : τ → Prop} {x y : τ} {rest : List τ}

theorem mem_line (there : x ∈ l.line) : ∃ w ∈ l.queue, w.task = x ∧ w.mark.isOff = false := by
  unfold line at there
  obtain ⟨w, member, rfl⟩ := List.mem_map.1 there
  obtain ⟨queued, live⟩ := List.mem_filter.1 member
  exact ⟨w, queued, rfl, by simpa using live⟩

theorem Serves.waits_of_line (serves : l.Serves holds waits) (there : x ∈ l.line) : waits x := by
  obtain ⟨w, queued, rfl, -⟩ := mem_line there
  exact (serves.queued _).1 (List.mem_map_of_mem queued)

theorem Serves.nodup_line (serves : l.Serves holds waits) : l.line.Nodup :=
  serves.once.sublist (List.filter_sublist.map _)

theorem eq_of_queued {v w : Waiter τ} (serves : l.Serves holds waits) (first : v ∈ l.queue) (second : w ∈ l.queue)
    (same : v.task = w.task) : v = w :=
  List.inj_on_of_nodup_map serves.once first second same

theorem line_of_isOpen (opened : l.isOpen) : l.line = [] := by
  unfold line
  rw [List.map_eq_nil_iff, List.filter_eq_nil_iff]
  intro w queued
  rw [(isOpen_iff.1 opened).2 w queued]
  decide

theorem line_ask_open (opened : (l.ask x).2 = true) : l.line = [] ∧ (l.ask x).1.line = [] := by
  unfold ask at opened
  split at opened
  · rename_i is
    have empty := line_of_isOpen is
    unfold ask
    rw [if_pos is]
    exact ⟨empty, empty⟩
  · cases opened

theorem line_ask_wait (closed : (l.ask x).2 = false) : (l.ask x).1.line = l.line ++ [x] := by
  unfold ask at closed
  split at closed
  · cases closed
  · rename_i shut
    unfold ask
    rw [if_neg shut]
    unfold line
    rw [List.filter_append, List.map_append]
    rfl

theorem line_callFirst (l : Latch τ) : l.callFirst.1.line = l.line := by
  unfold callFirst
  split
  · rename_i queue
    unfold line
    rw [queue]
    rfl
  · rfl

theorem line_release (l : Latch τ) : l.release.1.line = l.line := line_callFirst _

variable [DecidableEq τ]

theorem line_enter (serves : l.Serves holds waits) (calls : l.Calls x) : l.line = x :: (l.enter x).line := by
  obtain ⟨rest, queue, entered⟩ := enter_called serves calls
  rw [entered]
  unfold line
  rw [queue]
  rfl

theorem isOff_withdraw (m : Mark) : (Mark.withdraw m).isOff = true := by
  cases m <;> rfl

theorem line_withdraw (l : Latch τ) (x : τ) : (l.withdraw x).line = l.line.filter (· ≠ x) := by
  unfold line withdraw
  rw [List.filter_map, List.map_map, List.filter_map, List.filter_filter]
  have kept : l.queue.filter ((fun w : Waiter τ => !w.mark.isOff) ∘
      fun w => if w.task = x then { w with mark := Mark.withdraw w.mark } else w) =
      l.queue.filter fun w => ((fun y => decide (y ≠ x)) ∘ fun w : Waiter τ => w.task) w && !w.mark.isOff := by
    refine List.filter_congr fun w _ => ?_
    dsimp only [Function.comp]
    split
    · rename_i here
      simp [here, isOff_withdraw]
    · rename_i other
      simp [other]
  rw [kept]
  refine List.map_congr_left fun w _ => ?_
  dsimp only [Function.comp]
  split <;> rfl

theorem off_of_notMem_line (queued : x ∈ l.queue.map (·.task)) (out : x ∉ l.line) : (l.markOf? x).any Mark.isOff = true := by
  obtain ⟨v, there, same⟩ := List.mem_map.1 queued
  unfold markOf?
  cases found : l.queue.find? (·.task = x) with
  | none => exact absurd (by simpa using same) (List.find?_eq_none.1 found v there)
  | some w =>
    have here : w.task = x := by simpa using List.find?_some found
    cases off : w.mark.isOff with
    | true => exact off
    | false =>
      refine absurd ?_ out
      unfold line
      exact List.mem_map.2 ⟨w, List.mem_filter.2 ⟨List.mem_of_find?_eq_some found, by simp [off]⟩, here⟩

theorem line_remove (off : (l.markOf? x).any Mark.isOff = true) : (l.remove x).line = l.line := by
  obtain ⟨held, queue⟩ := l
  unfold markOf? at off
  unfold line remove
  dsimp only at *
  induction queue with
  | nil => rfl
  | cons w rest ih =>
    by_cases here : w.task = x
    · rw [List.find?_cons_of_pos (by simpa using here)] at off
      have gone : w.mark.isOff = true := by simpa using off
      rw [List.eraseP_cons_of_pos (by simpa using here), List.filter_cons_of_neg (by simp [gone])]
    · rw [List.find?_cons_of_neg (by simpa using here)] at off
      rw [List.eraseP_cons_of_neg (by simpa using here), List.filter_cons, List.filter_cons]
      split
      · rw [List.map_cons, List.map_cons, ih off]
      · exact ih off

theorem abandon_idle (free : l.held = false) (queue : l.queue = ⟨x, mark⟩ :: ws) :
    (l.abandon x).1.held = false ∧ (l.abandon x).1.queue.length = ws.length := by
  have rest : l.remove x = ⟨false, ws⟩ := by
    unfold remove
    rw [queue, List.eraseP_cons_of_pos (by simp), free]
  unfold abandon
  rw [rest]
  dsimp only
  rw [if_neg Bool.false_ne_true]
  unfold callFirst
  split
  · rename_i called
    dsimp only at called
    rw [called]
    exact ⟨rfl, rfl⟩
  · exact ⟨rfl, rfl⟩

theorem line_abandon (off : (l.markOf? x).any Mark.isOff = true) : (l.abandon x).1.line = l.line := by
  unfold abandon
  dsimp only
  split
  · exact line_remove off
  · rw [line_callFirst]
    exact line_remove off

end Latch

inductive Seat where
  | outside
  | waiting
  | inside
deriving DecidableEq, Repr

structure Desk (τ : Type) where
  latch : Latch τ
  seat : τ → Seat

namespace Desk

variable [DecidableEq τ]

def step? (d : Desk τ) (m : Motion τ) : Option (Desk τ × Bool) :=
  match m.deed, d.seat m.task with
  | .ask, .outside =>
    let (latch, admitted) := d.latch.ask m.task
    some (⟨latch, Function.update d.seat m.task (if admitted then .inside else .waiting)⟩, admitted)
  | .enter, .waiting =>
    if d.latch.markOf? m.task = some .called then
      some (⟨d.latch.enter m.task, Function.update d.seat m.task .inside⟩, true)
    else none
  | .leave, .inside => some (⟨d.latch.release.1, Function.update d.seat m.task .outside⟩, false)
  | .callOff, .waiting => some (⟨d.latch.withdraw m.task, d.seat⟩, false)
  | .callOff, .inside => some (d, false)
  | .giveUp, .waiting =>
    if (d.latch.markOf? m.task).any Mark.isOff then
      some (⟨(d.latch.abandon m.task).1, Function.update d.seat m.task .outside⟩, false)
    else none
  | _, _ => none

def run? : Desk τ → List (Motion τ) → Option (Desk τ × List (Note τ)) := Motion.run? step?

-- A desk whose latch serves those who are there, and has woken the first of them in time.
structure Kept (d : Desk τ) : Prop where
  serves : d.latch.Serves (d.seat · = .inside) (d.seat · = .waiting)
  alert : d.latch.Alert

variable {d d' : Desk τ} {m : Motion τ} {x y : τ} {seat : Seat} {holds waits : τ → Prop} {latch : Latch τ} {admitted : Bool}
  {rest : List τ}

theorem serves_update (serves : latch.Serves holds waits) (self : (holds x ↔ seat = .inside) ∧ (waits x ↔ seat = .waiting))
    (others : ∀ y, y ≠ x → (holds y ↔ d.seat y = .inside) ∧ (waits y ↔ d.seat y = .waiting)) :
    latch.Serves (Function.update d.seat x seat · = .inside) (Function.update d.seat x seat · = .waiting) := by
  have each : ∀ y, (holds y ↔ Function.update d.seat x seat y = .inside) ∧
      (waits y ↔ Function.update d.seat x seat y = .waiting) := by
    intro y
    by_cases same : y = x
    · rw [same, Function.update_self]
      exact self
    · rw [Function.update_of_ne same]
      exact others y same
  exact serves.congr (fun y => (each y).1) fun y => (each y).2

inductive Shifts (d d' : Desk τ) (m : Motion τ) : Bool → Prop where
  | passIn (asked : m.deed = .ask) (nobody : ∀ y, d.seat y ≠ .inside) (before : d.latch.line = []) (after : d'.latch.line = []) :
      Shifts d d' m true
  | queue (asked : m.deed = .ask) (after : d'.latch.line = d.latch.line ++ [m.task]) : Shifts d d' m false
  | enter (entered : m.deed = .enter) (first : d.latch.line = m.task :: d'.latch.line) : Shifts d d' m true
  | leave (left : m.deed = .leave) (inside : d.seat m.task = .inside) (same : d'.latch.line = d.latch.line) :
      Shifts d d' m false
  | callOff (called : m.deed = .callOff) (after : d'.latch.line = d.latch.line.filter (· ≠ m.task)) : Shifts d d' m false
  | giveUp (gone : m.deed = .giveUp) (same : d'.latch.line = d.latch.line) : Shifts d d' m false

def Free (d : Desk τ) : Prop := ∀ y, d.seat y ≠ .inside

theorem inside_of_update (d : Desk τ) (x : τ) (other : seat ≠ .inside) (inside : Function.update d.seat x seat y = .inside) :
    d.seat y = .inside := by
  by_cases same : y = x
  · rw [same, Function.update_self] at inside
    exact absurd inside other
  · rwa [Function.update_of_ne same] at inside

theorem leaves (inside : d.seat x = .inside) (key : String) : ∃ d' admitted, d.step? ⟨x, key, .leave⟩ = some (d', admitted) := by
  unfold step?
  simp [inside]

theorem inside_of_step (step : d.step? m = some (d', false)) (inside : d'.seat y = .inside) : d.seat y = .inside := by
  unfold step? at step
  split at step
  · obtain ⟨rfl, refused⟩ := Prod.mk.inj (Option.some.inj step)
    rw [refused] at inside
    exact inside_of_update d _ (by decide) inside
  · split at step
    · cases step
    · cases step
  · cases step
    exact inside_of_update d _ (by decide) inside
  · cases step
    exact inside
  · cases step
    exact inside
  · split at step
    · cases step
      exact inside_of_update d _ (by decide) inside
    · cases step
  · cases step

section Steps

variable (kept : d.Kept)
include kept

theorem kept_ask (outside : d.seat x = .outside) :
    (⟨(d.latch.ask x).1, Function.update d.seat x (if (d.latch.ask x).2 then .inside else .waiting)⟩ : Desk τ).Kept := by
  refine ⟨?_, Latch.alert_ask kept.alert x⟩
  cases admitted : (d.latch.ask x).2 with
  | true =>
    obtain ⟨inside, nobody⟩ := Latch.serves_ask_open kept.serves admitted
    refine serves_update inside ⟨by simp, by simp [outside]⟩ fun y other => ⟨?_, Iff.rfl⟩
    exact iff_of_false other (nobody y)
  | false =>
    have fresh : ¬ d.seat x = .waiting := by simp [outside]
    refine serves_update (Latch.serves_ask_wait kept.serves fresh admitted) ⟨by simp [outside], by simp⟩ fun y other => ⟨Iff.rfl, ?_⟩
    exact ⟨fun is => is.resolve_right other, .inl⟩

theorem kept_enter (called : d.latch.markOf? x = some .called) :
    (⟨d.latch.enter x, Function.update d.seat x .inside⟩ : Desk τ).Kept := by
  obtain ⟨entered, nobody⟩ := Latch.serves_enter kept.serves (Latch.mem_of_markOf? called)
  refine ⟨?_, Latch.alert_held rfl⟩
  exact serves_update entered ⟨by simp, by simp⟩ fun y other =>
    ⟨iff_of_false other (nobody y), fun both => both.1, fun waits => ⟨waits, other⟩⟩

theorem kept_leave (inside : d.seat x = .inside) : (⟨d.latch.release.1, Function.update d.seat x .outside⟩ : Desk τ).Kept := by
  obtain ⟨released, -⟩ := Latch.serves_release kept.serves
  refine ⟨serves_update released ⟨by simp, by simp [inside]⟩ fun y other => ⟨?_, Iff.rfl⟩, Latch.alert_release _⟩
  exact iff_of_false id fun also => other (kept.serves.alone y x also inside)

theorem kept_giveUp (waits : d.seat x = .waiting) : (⟨(d.latch.abandon x).1, Function.update d.seat x .outside⟩ : Desk τ).Kept := by
  obtain ⟨abandoned, -⟩ := Latch.serves_abandon kept.serves x
  refine ⟨serves_update abandoned ⟨by simp [waits], by simp⟩ fun y other => ⟨Iff.rfl, ?_⟩, Latch.alert_abandon _ x⟩
  exact ⟨fun both => both.1, fun also => ⟨also, other⟩⟩

theorem step_shifts (step : d.step? m = some (d', admitted)) : d'.Kept ∧ d.Shifts d' m admitted := by
  unfold step? at step
  split at step
  · rename_i asked outside
    obtain ⟨rfl, answer⟩ := Prod.mk.inj (Option.some.inj step)
    refine ⟨kept_ask kept outside, ?_⟩
    cases admitted with
    | true =>
      obtain ⟨before, after⟩ := Latch.line_ask_open answer
      exact .passIn asked (Latch.serves_ask_open kept.serves answer).2 before after
    | false => exact .queue asked (Latch.line_ask_wait answer)
  · rename_i entered waits
    split at step
    · rename_i called
      cases step
      exact ⟨kept_enter kept called, .enter entered (Latch.line_enter kept.serves (Latch.mem_of_markOf? called))⟩
    · cases step
  · rename_i left inside
    cases step
    exact ⟨kept_leave kept inside, .leave left inside (Latch.line_release _)⟩
  · rename_i called waits
    cases step
    exact ⟨⟨Latch.serves_withdraw kept.serves _, Latch.alert_withdraw kept.alert _⟩, .callOff called (Latch.line_withdraw _ _)⟩
  · rename_i called inside
    cases step
    refine ⟨kept, .callOff called (List.filter_eq_self.2 fun y there => ?_).symm⟩
    have waits := kept.serves.waits_of_line there
    rw [decide_eq_true_iff]
    rintro rfl
    rw [inside] at waits
    cases waits
  · rename_i gone waits
    split at step
    · rename_i off
      cases step
      exact ⟨kept_giveUp kept waits, .giveUp gone (Latch.line_abandon off)⟩
    · cases step
  · cases step

theorem givesUp (waits : d.seat x = .waiting) (out : x ∉ d.latch.line) (key : String) :
    ∃ d' admitted, d.step? ⟨x, key, .giveUp⟩ = some (d', admitted) := by
  have off := Latch.off_of_notMem_line ((kept.serves.queued x).2 waits) out
  unfold step?
  simp [waits, off]

theorem tells_record (step : d.step? m = some (d', admitted)) {book : Book τ} {entered : List τ}
    (tells : book.Tells entered d.latch.line) :
    (book.record ⟨m, admitted⟩).Tells (entered ++ admissions [⟨m, admitted⟩]) d'.latch.line := by
  obtain ⟨-, shifts⟩ := step_shifts kept step
  unfold Book.record
  cases shifts with
  | passIn asked _ before after =>
    rw [before] at tells
    rw [asked, after]
    exact Book.tells_admit tells
  | queue asked after =>
    rw [asked, after]
    simpa [admissions] using Book.tells_ask tells
  | enter deed first =>
    have once := kept.serves.nodup_line
    rw [first] at tells once
    rw [deed]
    exact Book.tells_enter tells (List.nodup_cons.1 once).1
  | leave deed _ same | giveUp deed same =>
    rw [deed, same]
    simpa [admissions] using tells
  | callOff deed after =>
    rw [deed, after]
    simpa [admissions] using Book.tells_callOff tells

theorem run_tells (runs : d.run? motions = some (d', notes)) {book : Book τ} {entered : List τ}
    (tells : book.Tells entered d.latch.line) :
    d'.Kept ∧ (notes.foldl Book.record book).Tells (entered ++ admissions notes) d'.latch.line := by
  induction motions generalizing d book entered notes with
  | nil =>
    cases runs
    exact ⟨kept, by simpa [admissions] using tells⟩
  | cons m rest ih =>
    obtain ⟨next, admitted, later, step, goes, rfl⟩ := Motion.run?_cons.1 runs
    obtain ⟨kept', told⟩ := ih (step_shifts kept step).1 goes (tells_record kept step tells)
    refine ⟨kept', ?_⟩
    have split : admissions (⟨m, admitted⟩ :: later) = admissions [⟨m, admitted⟩] ++ admissions later := by
      unfold admissions
      rw [← List.map_append, ← List.filter_append]
      rfl
    rw [split, ← List.append_assoc]
    exact told

theorem step_next (step : d.step? m = some (d', admitted)) (free : d.Free) (first : d.latch.line = x :: rest)
    (stays : ¬ (m.task = x ∧ m.deed = .callOff)) :
    admitted = true ∧ m.task = x ∨ admitted = false ∧ d'.Free ∧ ∃ rest, d'.latch.line = x :: rest := by
  have still : admitted = false → d'.Free := by
    rintro rfl y inside
    exact free y (inside_of_step step inside)
  cases (step_shifts kept step).2 with
  | passIn _ _ before _ =>
    rw [before] at first
    cases first
  | queue _ after =>
    rw [first] at after
    exact .inr ⟨rfl, still rfl, _, after⟩
  | enter _ head =>
    rw [head] at first
    exact .inl ⟨rfl, (List.cons.inj first).1⟩
  | leave _ inside _ => exact absurd inside (free _)
  | callOff deed after =>
    have other : x ≠ m.task := fun same => stays ⟨same.symm, deed⟩
    rw [first, List.filter_cons_of_pos (by simpa using other)] at after
    exact .inr ⟨rfl, still rfl, _, after⟩
  | giveUp _ same => exact .inr ⟨rfl, still rfl, _, same.trans first⟩

theorem run_next (runs : d.run? motions = some (d', notes)) (free : d.Free) (first : d.latch.line = x :: rest)
    (stays : ∀ m ∈ motions, ¬ (m.task = x ∧ m.deed = .callOff)) :
    (admissions notes).head? = some x ∨ admissions notes = [] ∧ d'.Free ∧ ∃ rest, d'.latch.line = x :: rest := by
  induction motions generalizing d notes rest with
  | nil =>
    cases runs
    exact .inr ⟨rfl, free, rest, first⟩
  | cons m others ih =>
    obtain ⟨next, admitted, later, step, goes, rfl⟩ := Motion.run?_cons.1 runs
    obtain ⟨here, there⟩ := List.forall_mem_cons.1 stays
    rcases step_next kept step free first here with ⟨rfl, rfl⟩ | ⟨rfl, free', rest', first'⟩
    · exact .inl rfl
    · -- what admits nobody is no admission
      have later := ih (step_shifts kept step).1 goes free' first' there
      exact later

-- Where nobody is inside, those who are before the first in the line have been called off and can give up one after
-- another, and then it enters.
theorem run_awake (free : d.Free) (first : d.latch.line = x :: rest) (key : String) :
    ∃ gone : List τ, (∀ y ∈ gone, d.seat y = .waiting ∧ y ∉ d.latch.line) ∧ ∃ d' notes,
      d.run? (wake key gone x) = some (d', notes) ∧ d'.seat x = .inside := by
  have idle : d.latch.held = false := by
    cases held : d.latch.held with
    | false => rfl
    | true =>
      obtain ⟨y, inside⟩ := kept.serves.held.1 held
      exact absurd inside (free y)
  obtain ⟨n, long⟩ : ∃ n, d.latch.queue.length = n := ⟨_, rfl⟩
  induction n generalizing d with
  | zero =>
    unfold Latch.line at first
    rw [List.length_eq_zero_iff.1 long] at first
    cases first
  | succ n ih =>
    obtain ⟨w, ws, queue⟩ := List.exists_cons_of_length_eq_add_one long
    have waits : d.seat w.task = .waiting := (kept.serves.queued _).1 (by rw [queue]; exact .head _)
    have marked : d.latch.markOf? w.task = some w.mark := by
      unfold Latch.markOf?
      rw [queue, List.find?_cons_of_pos (by simp)]
      rfl
    cases off : w.mark.isOff with
    | false =>
      -- the first in the queue was called when nobody was inside
      have head : d.latch.line = w.task :: (ws.filter fun w => !w.mark.isOff).map (·.task) := by
        unfold Latch.line
        rw [queue, List.filter_cons_of_pos (by simp [off])]
        rfl
      obtain rfl : w.task = x := (List.cons.inj (head.symm.trans first)).1
      have called : w.mark = .called := by
        have awake := kept.alert idle w (by rw [queue]; rfl)
        cases mark : w.mark with
        | called => rfl
        | asleep => exact absurd mark awake
        | withdrawn | calledWithdrawn =>
          rw [mark] at off
          cases off
      rw [called] at marked
      refine ⟨[], List.forall_mem_nil _, ⟨d.latch.enter w.task, Function.update d.seat w.task .inside⟩, [⟨⟨w.task, key, .enter⟩, true⟩], ?_,
        Function.update_self ..⟩
      unfold wake run? Motion.run? step?
      simp [waits, marked, Motion.run?]
    | true =>
      have gone : (d.latch.markOf? w.task).any Mark.isOff = true := by
        rw [marked]
        exact off
      have kept' := kept_giveUp kept waits
      have step : d.step? ⟨w.task, key, .giveUp⟩ =
          some (⟨(d.latch.abandon w.task).1, Function.update d.seat w.task .outside⟩, false) := by
        unfold step?
        simp only [waits]
        rw [if_pos gone]
      have line := Latch.line_abandon gone
      obtain ⟨idle', short⟩ := Latch.abandon_idle idle queue
      rw [queue, List.length_cons] at long
      obtain ⟨others, ahead, d', notes, runs, inside⟩ := ih kept' (fun y inside => free y (inside_of_step step inside))
        (line.trans first) idle' (short.trans (Nat.succ.inj long))
      refine ⟨w.task :: others, List.forall_mem_cons.2 ⟨⟨waits, ?_⟩, fun y there => ?_⟩, d', _,
        Motion.run?_cons.2 ⟨_, _, notes, step, runs, rfl⟩, inside⟩
      · intro there
        obtain ⟨v, queued, same, live⟩ := Latch.mem_line there
        rw [Latch.eq_of_queued kept.serves queued (by rw [queue]; exact .head _) same, off] at live
        cases live
      · obtain ⟨waits', out⟩ := ahead y there
        dsimp only at waits' out
        rw [line] at out
        refine ⟨?_, out⟩
        by_cases same : y = w.task
        · rw [same]
          exact waits
        · rwa [Function.update_of_ne same] at waits'

end Steps

end Desk
end SubscriptionLedger
