import Mathlib.Data.List.Nodup
import Mathlib.Logic.Function.Basic
import SubscriptionLedger.Concurrency.KeyedLock

namespace SubscriptionLedger

variable {τ : Type}

-- It is the turn of a task that was called until it runs, even if it has been called off in between.
def Mark.AtTurn : Mark → Prop
  | .called | .calledWithdrawn => True
  | .asleep | .withdrawn => False

def Mark.Off : Mark → Prop
  | .withdrawn | .calledWithdrawn => True
  | .asleep | .called => False

namespace Latch

def load (l : Latch τ) : Nat := (if l.held then 1 else 0) + l.queue.length

-- It is the turn of nobody but the first one, and of nobody at all while the latch is held.
structure Steady (l : Latch τ) : Prop where
  behind : ∀ w ∈ l.queue.tail, ¬ w.mark.AtTurn
  held : l.held → ∀ w ∈ l.queue, ¬ w.mark.AtTurn

structure Serves (l : Latch τ) (holds waits : τ → Prop) : Prop where
  held : l.held ↔ ∃ x, holds x
  alone : ∀ x y, holds x → holds y → x = y
  queued : ∀ x, x ∈ l.queue.map (·.task) ↔ waits x
  once : (l.queue.map (·.task)).Nodup
  steady : l.Steady

def Calls (l : Latch τ) (x : τ) : Prop := ⟨x, .called⟩ ∈ l.queue

variable {l : Latch τ} {holds waits : τ → Prop} {x : τ}

theorem Serves.congr (serves : l.Serves holds waits) (inside : ∀ x, holds x ↔ holds' x) (outside : ∀ x, waits x ↔ waits' x) :
    l.Serves holds' waits' := by
  obtain rfl : holds = holds' := funext fun x => propext (inside x)
  obtain rfl : waits = waits' := funext fun x => propext (outside x)
  exact serves

theorem Serves.nobody (serves : l.Serves holds waits) (free : l.held = false) (y : τ) : ¬ holds y := by
  intro inside
  rw [serves.held.2 ⟨y, inside⟩] at free
  cases free

theorem free_serves : (free : Latch τ).Serves (fun _ => False) fun _ => False where
  held := by simp [free]
  alone := fun _ _ none => none.elim
  queued := by simp [free]
  once := List.nodup_nil
  steady := ⟨nofun, nofun⟩

theorem isOpen_iff : l.isOpen ↔ l.held = false ∧ ∀ w ∈ l.queue, w.mark = .withdrawn := by
  simp [isOpen]

theorem load_ask (l : Latch τ) (x : τ) : (l.ask x).1.load = l.load + 1 := by
  unfold ask load
  by_cases opened : l.isOpen
  · obtain ⟨free, -⟩ := isOpen_iff.1 opened
    simp [opened, free]
    omega
  · simp [opened]
    omega

theorem serves_ask_open (serves : l.Serves holds waits) (opened : (l.ask x).2 = true) :
    (l.ask x).1.Serves (fun y => y = x) waits ∧ ∀ y, ¬ holds y := by
  have is : l.isOpen = true := by
    unfold ask at opened
    split at opened
    · assumption
    · cases opened
  obtain ⟨free, off⟩ := isOpen_iff.1 is
  unfold ask
  rw [if_pos is]
  refine ⟨⟨⟨fun _ => ⟨x, rfl⟩, fun _ => rfl⟩, ?_, serves.queued, serves.once, serves.steady.behind, ?_⟩, serves.nobody free⟩
  · rintro y z rfl rfl
    rfl
  · intro _ w member
    rw [off w member]
    exact id

theorem serves_ask_wait (serves : l.Serves holds waits) (fresh : ¬ waits x) (closed : (l.ask x).2 = false) :
    (l.ask x).1.Serves holds fun y => waits y ∨ y = x := by
  have shut : ¬ l.isOpen = true := by
    unfold ask at closed
    split at closed
    · cases closed
    · assumption
  unfold ask
  rw [if_neg shut]
  refine ⟨serves.held, serves.alone, ?_, ?_, ?_, ?_⟩
  · intro y
    rw [List.map_append, List.mem_append, serves.queued]
    simp
  · rw [List.map_append]
    refine List.Nodup.append serves.once (List.nodup_singleton _) ?_
    intro y old new
    cases List.mem_singleton.1 new
    exact fresh ((serves.queued x).1 old)
  · intro w member
    cases queue : l.queue with
    | nil =>
      rw [queue] at member
      cases member
    | cons first rest =>
      rw [queue] at member
      rcases List.mem_append.1 member with old | new
      · exact serves.steady.behind w (by rw [queue]; exact old)
      · cases List.mem_singleton.1 new
        exact id
  · intro held w member
    rcases List.mem_append.1 member with old | new
    · exact serves.steady.held held w old
    · cases List.mem_singleton.1 new
      exact id

theorem load_callFirst (l : Latch τ) : l.callFirst.1.load = l.load := by
  unfold callFirst load
  split
  · rename_i queue
    rw [queue]
    rfl
  · rfl

theorem serves_callFirst (serves : l.Serves holds waits) (free : l.held = false) :
    l.callFirst.1.Serves holds waits ∧ (∀ y ∈ l.callFirst.2, l.callFirst.1.Calls y) ∧
      ∀ y, l.Calls y → l.callFirst.1.Calls y := by
  unfold callFirst
  split
  · rename_i task rest queue
    have behind := serves.steady.behind
    have queued := serves.queued
    have once := serves.once
    rw [queue] at behind queued once
    refine ⟨⟨serves.held, serves.alone, queued, once, behind, ?_⟩, ?_, ?_⟩
    · intro held
      rw [free] at held
      cases held
    · rintro y ⟨⟩
      exact .head _
    · intro y calls
      unfold Calls at calls
      rw [queue] at calls
      rcases List.mem_cons.1 calls with here | later
      · cases here
      · exact .tail _ later
  · exact ⟨serves, nofun, fun _ calls => calls⟩

theorem load_release (held : l.held = true) : l.release.1.load + 1 = l.load := by
  unfold release
  rw [load_callFirst]
  unfold load
  rw [held]
  simp
  omega

theorem serves_release (serves : l.Serves holds waits) :
    l.release.1.Serves (fun _ => False) waits ∧ ∀ y ∈ l.release.2, l.release.1.Calls y := by
  have freed : ({ l with held := false } : Latch τ).Serves (fun _ => False) waits :=
    ⟨by simp, fun _ _ none => none.elim, serves.queued, serves.once, serves.steady.behind, nofun⟩
  obtain ⟨served, calls, -⟩ := serves_callFirst freed rfl
  exact ⟨served, calls⟩

theorem Serves.called (serves : l.Serves holds waits) (calls : l.Calls x) :
    l.held = false ∧ ∃ rest, l.queue = ⟨x, .called⟩ :: rest := by
  unfold Calls at calls
  cases queue : l.queue with
  | nil =>
    rw [queue] at calls
    cases calls
  | cons first rest =>
    constructor
    · by_contra held
      exact serves.steady.held (by simpa using held) _ calls trivial
    · rw [queue] at calls
      rcases List.mem_cons.1 calls with here | later
      · exact ⟨rest, by rw [here]⟩
      · exact absurd trivial (serves.steady.behind ⟨x, .called⟩ (by rw [queue]; exact later))

theorem mem_tail_eraseP {p : Waiter τ → Bool} {ws : List (Waiter τ)} (member : w ∈ (ws.eraseP p).tail) : w ∈ ws.tail := by
  cases ws with
  | nil => cases member
  | cons v rest =>
    by_cases here : p v
    · rw [List.eraseP_cons_of_pos here] at member
      exact List.mem_of_mem_tail member
    · rw [List.eraseP_cons_of_neg here] at member
      exact List.mem_of_mem_eraseP member

variable [DecidableEq τ]

theorem mem_of_markOf? (marked : l.markOf? x = some m) : ⟨x, m⟩ ∈ l.queue := by
  unfold markOf? at marked
  obtain ⟨w, found, rfl⟩ := Option.map_eq_some_iff.1 marked
  obtain rfl : w.task = x := by simpa using List.find?_some found
  exact List.mem_of_find?_eq_some found

theorem load_remove (l : Latch τ) (there : x ∈ l.queue.map (·.task)) : (l.remove x).load + 1 = l.load := by
  obtain ⟨w, member, rfl⟩ := List.mem_map.1 there
  have shorter := List.length_eraseP_of_mem member (p := fun v => decide (v.task = w.task)) (by simp)
  have some_ := List.length_pos_of_mem member
  unfold load remove
  dsimp only
  rw [shorter]
  omega

theorem mem_map_eraseP {ws : List (Waiter τ)} (once : (ws.map (·.task)).Nodup) (y : τ) :
    y ∈ (ws.eraseP (·.task = x)).map (·.task) ↔ y ∈ ws.map (·.task) ∧ y ≠ x := by
  induction ws with
  | nil => simp
  | cons v rest ih =>
    obtain ⟨fresh, apart⟩ := List.nodup_cons.1 once
    by_cases here : v.task = x
    · rw [List.eraseP_cons_of_pos (by simpa using here)]
      subst here
      rw [List.map_cons, List.mem_cons]
      refine ⟨fun later => ⟨.inr later, ?_⟩, fun both => both.1.resolve_left both.2⟩
      rintro rfl
      exact fresh later
    · rw [List.eraseP_cons_of_neg (by simpa using here), List.map_cons, List.mem_cons, ih apart, List.map_cons,
        List.mem_cons]
      refine ⟨?_, ?_⟩
      · rintro (rfl | ⟨later, other⟩)
        · exact ⟨.inl rfl, here⟩
        · exact ⟨.inr later, other⟩
      · rintro ⟨rfl | later, other⟩
        · exact .inl rfl
        · exact .inr ⟨later, other⟩

theorem serves_remove (serves : l.Serves holds waits) (x : τ) : (l.remove x).Serves holds fun y => waits y ∧ y ≠ x := by
  refine ⟨serves.held, serves.alone, fun y => ?_, serves.once.sublist (List.eraseP_sublist.map _), ?_, ?_⟩
  · unfold remove
    rw [mem_map_eraseP serves.once, serves.queued]
  · intro w member
    exact serves.steady.behind w (mem_tail_eraseP member)
  · intro held w member
    exact serves.steady.held held w (List.mem_of_mem_eraseP member)

theorem enter_called (serves : l.Serves holds waits) (calls : l.Calls x) :
    ∃ rest, l.queue = ⟨x, .called⟩ :: rest ∧ l.enter x = ⟨true, rest⟩ := by
  obtain ⟨-, rest, queue⟩ := serves.called calls
  refine ⟨rest, queue, ?_⟩
  unfold enter remove
  rw [queue, List.eraseP_cons_of_pos (by simp)]

theorem load_enter (serves : l.Serves holds waits) (calls : l.Calls x) : (l.enter x).load = l.load := by
  obtain ⟨free, -⟩ := serves.called calls
  obtain ⟨rest, queue, entered⟩ := enter_called serves calls
  rw [entered]
  unfold load
  rw [free, queue]
  simp
  omega

theorem serves_enter (serves : l.Serves holds waits) (calls : l.Calls x) :
    (l.enter x).Serves (fun y => y = x) (fun y => waits y ∧ y ≠ x) ∧ ∀ y, ¬ holds y := by
  obtain ⟨free, -⟩ := serves.called calls
  obtain ⟨rest, queue, entered⟩ := enter_called serves calls
  have removed := serves_remove serves x
  have behind := serves.steady.behind
  have same : (l.enter x).queue = (l.remove x).queue := rfl
  rw [queue] at behind
  rw [entered] at same ⊢
  refine ⟨⟨⟨fun _ => ⟨x, rfl⟩, fun _ => rfl⟩, ?_, ?_, ?_, ?_, fun _ => behind⟩, serves.nobody free⟩
  · rintro y z rfl rfl
    rfl
  · exact same ▸ removed.queued
  · exact same ▸ removed.once
  · intro w member
    exact behind w (List.mem_of_mem_tail member)

theorem tasks_withdraw (l : Latch τ) (x : τ) : (l.withdraw x).queue.map (·.task) = l.queue.map (·.task) := by
  unfold withdraw
  rw [List.map_map]
  refine List.map_congr_left fun w _ => ?_
  dsimp only [Function.comp]
  split <;> rfl

theorem load_withdraw (l : Latch τ) (x : τ) : (l.withdraw x).load = l.load := by
  unfold withdraw load
  rw [List.length_map]

theorem atTurn_withdraw (m : Mark) : (Mark.withdraw m).AtTurn ↔ m.AtTurn := by
  cases m <;> exact Iff.rfl

theorem serves_withdraw (serves : l.Serves holds waits) (x : τ) : (l.withdraw x).Serves holds waits := by
  have kept : ∀ w : Waiter τ, (if w.task = x then { w with mark := Mark.withdraw w.mark } else w).mark.AtTurn ↔ w.mark.AtTurn := by
    intro w
    split
    · exact atTurn_withdraw w.mark
    · exact Iff.rfl
  refine ⟨serves.held, serves.alone, ?_, ?_, ?_, ?_⟩
  · rw [tasks_withdraw]
    exact serves.queued
  · rw [tasks_withdraw]
    exact serves.once
  · intro w member
    unfold withdraw at member
    rw [← List.map_tail] at member
    obtain ⟨v, there, rfl⟩ := List.mem_map.1 member
    rw [kept]
    exact serves.steady.behind v there
  · intro held w member
    obtain ⟨v, there, rfl⟩ := List.mem_map.1 member
    rw [kept]
    exact serves.steady.held held v there

theorem load_abandon (l : Latch τ) (there : x ∈ l.queue.map (·.task)) : (l.abandon x).1.load + 1 = l.load := by
  rw [← load_remove l there]
  unfold abandon
  dsimp only
  split
  · rfl
  · rw [load_callFirst]

theorem serves_abandon (serves : l.Serves holds waits) (x : τ) :
    (l.abandon x).1.Serves holds (fun y => waits y ∧ y ≠ x) ∧ ∀ y ∈ (l.abandon x).2, (l.abandon x).1.Calls y := by
  have removed := serves_remove serves x
  unfold abandon
  dsimp only
  split
  · exact ⟨removed, nofun⟩
  · rename_i free
    obtain ⟨served, calls, -⟩ := serves_callFirst removed (by simpa using free)
    exact ⟨served, calls⟩

end Latch

namespace KeyedLock

section Tables

variable {table : List (String × Nat)} {key other : String} {value : Nat}

theorem find?_pair (k : String) (v : Nat) (rest : List (String × Nat)) (key : String) :
    find? key ((k, v) :: rest) = if k = key then some v else find? key rest := by
  unfold find?
  rw [List.find?_cons]
  by_cases same : k = key <;> simp [same]

theorem find?_of_notMem (absent : key ∉ table.map (·.1)) : find? key table = none := by
  unfold find?
  rw [Option.map_eq_none_iff, List.find?_eq_none]
  intro pair member same
  exact absent (List.mem_map.2 ⟨pair, member, by simpa using same⟩)

theorem isSome_find?_iff : (find? key table).isSome ↔ key ∈ table.map (·.1) := by
  unfold find?
  rw [Option.isSome_map, List.find?_isSome, List.mem_map]
  exact exists_congr fun pair => and_congr_right fun _ => decide_eq_true_iff

theorem find?_set (key other : String) (value : Nat) (table : List (String × Nat)) :
    find? other (set key value table) = if other = key then some value else find? other table := by
  induction table with
  | nil =>
    rw [set, find?_pair]
    by_cases same : other = key
    · rw [if_pos same.symm, if_pos same]
    · rw [if_neg (Ne.symm same), if_neg same]
  | cons pair rest ih =>
    obtain ⟨k, v⟩ := pair
    unfold set
    by_cases here : k = key
    · rw [if_pos here, find?_pair, find?_pair]
      subst here
      by_cases same : k = other
      · rw [if_pos same, if_pos same.symm]
      · rw [if_neg same, if_neg same, if_neg (Ne.symm same)]
    · rw [if_neg here, find?_pair, find?_pair, ih]
      by_cases same : k = other
      · subst same
        rw [if_pos rfl, if_neg here, if_pos rfl]
      · rw [if_neg same, if_neg same]

theorem mem_set : other ∈ (set key value table).map (·.1) ↔ other = key ∨ other ∈ table.map (·.1) := by
  induction table with
  | nil => simp [set]
  | cons pair rest ih =>
    obtain ⟨k, v⟩ := pair
    unfold set
    split
    · rename_i here
      simp [here]
    · rw [List.map_cons, List.mem_cons, ih, List.map_cons, List.mem_cons]
      tauto

theorem nodup_set (distinct : (table.map (·.1)).Nodup) : ((set key value table).map (·.1)).Nodup := by
  induction table with
  | nil => simp [set]
  | cons pair rest ih =>
    obtain ⟨k, v⟩ := pair
    obtain ⟨fresh, apart⟩ := List.nodup_cons.1 distinct
    unfold set
    split
    · exact distinct
    · rename_i other
      rw [List.map_cons, List.nodup_cons, mem_set]
      refine ⟨?_, ih apart⟩
      rintro (same | member)
      · exact other same
      · exact fresh member

theorem nodup_erase (distinct : (table.map (·.1)).Nodup) : ((erase key table).map (·.1)).Nodup :=
  distinct.sublist ((List.eraseP_sublist).map _)

theorem find?_erase (distinct : (table.map (·.1)).Nodup) :
    find? other (erase key table) = if other = key then none else find? other table := by
  induction table with
  | nil => simp [erase, find?]
  | cons pair rest ih =>
    obtain ⟨k, v⟩ := pair
    obtain ⟨fresh, apart⟩ := List.nodup_cons.1 distinct
    unfold erase at *
    by_cases here : k = key
    · rw [List.eraseP_cons_of_pos (by simpa using here), find?_pair]
      subst here
      by_cases same : other = k
      · rw [if_pos same, same, find?_of_notMem fresh]
      · rw [if_neg same, if_neg (Ne.symm same)]
    · rw [List.eraseP_cons_of_neg (by simpa using here), find?_pair, find?_pair, ih apart]
      by_cases same : k = other
      · subst same
        rw [if_pos rfl, if_neg here, if_pos rfl]
      · rw [if_neg same, if_neg same]

end Tables

def latchOf (l : KeyedLock τ) (key : String) : Latch τ := ((find? key l.current).map l.latch).getD .free

-- Each key in use has a latch of its own, and is in use by as many tasks as load its latch.
structure Sound (l : KeyedLock τ) : Prop where
  keys : (l.current.map (·.1)).Nodup
  counted : (l.users.map (·.1)).Nodup
  made : ∀ key n, find? key l.current = some n → n < l.latches.length
  apart : ∀ key other n, find? key l.current = some n → find? other l.current = some n → key = other
  used : ∀ key n, find? key l.current = some n → find? key l.users = some (l.latch n).load ∧ 0 < (l.latch n).load
  unused : ∀ key, find? key l.current = none → find? key l.users = none

structure Turns (l l' : KeyedLock τ) (key : String) (latch : Latch τ) : Prop where
  sound : l'.Sound
  here : l'.latchOf key = latch
  elsewhere : ∀ other, other ≠ key → find? other l'.current = find? other l.current ∧ l'.latchOf other = l.latchOf other
  stays : ∀ n, find? key l.current = some n → 0 < latch.load → find? key l'.current = some n

variable {l l' : KeyedLock τ} {key : String} {t : Ticket} {n : Nat}

theorem empty_sound : (empty : KeyedLock τ).Sound :=
  ⟨List.nodup_nil, List.nodup_nil, nofun, nofun, nofun, fun _ _ => rfl⟩

theorem latchOf_of_find? (found : find? key l.current = some n) : l.latchOf key = l.latch n := by
  unfold latchOf
  rw [found, Option.map_some, Option.getD_some]

theorem Sound.used_iff (sound : l.Sound) (key : String) :
    (find? key l.users).getD 0 = (l.latchOf key).load ∧ ((find? key l.users).isSome ↔ 0 < (l.latchOf key).load) ∧
      ((find? key l.current).isSome ↔ 0 < (l.latchOf key).load) := by
  cases found : find? key l.current with
  | none =>
    have latch : l.latchOf key = .free := by
      unfold latchOf
      rw [found]
      rfl
    rw [sound.unused key found, latch]
    simp [Latch.load, Latch.free]
  | some n =>
    obtain ⟨counts, loaded⟩ := sound.used key n found
    rw [counts, latchOf_of_find? found]
    exact ⟨rfl, iff_of_true rfl loaded, iff_of_true rfl loaded⟩

theorem latch_setLatch (bound : n < l.latches.length) (latch : Latch τ) (m : Nat) :
    (l.setLatch n latch).latch m = if m = n then latch else l.latch m := by
  unfold KeyedLock.latch setLatch
  by_cases same : m = n
  · subst same
    simp [bound]
  · simp [same, List.getElem?_set_ne (Ne.symm same)]

-- A key with a latch: it is in use by as many tasks as load the latch, or it is not in use.
def Keeps (l : KeyedLock τ) (key : String) (latch : Latch τ) : Prop :=
  (∃ n, find? key l.current = some n ∧ n < l.latches.length ∧ l.latch n = latch ∧
    find? key l.users = some latch.load ∧ 0 < latch.load ∧ ∀ other, other ≠ key → find? other l.current ≠ some n) ∨
    find? key l.current = none ∧ find? key l.users = none ∧ latch = .free

theorem turns_at {latch : Latch τ} (sound : l.Sound) (keys : (l'.current.map (·.1)).Nodup)
    (counted : (l'.users.map (·.1)).Nodup)
    (current : ∀ other, other ≠ key → find? other l'.current = find? other l.current)
    (users : ∀ other, other ≠ key → find? other l'.users = find? other l.users)
    (latches : ∀ other m, other ≠ key → find? other l.current = some m → m < l'.latches.length ∧ l'.latch m = l.latch m)
    (keeps : l'.Keeps key latch)
    (stays : ∀ n, find? key l.current = some n → 0 < latch.load → find? key l'.current = some n) : Turns l l' key latch := by
  refine ⟨⟨keys, counted, ?_, ?_, ?_, ?_⟩, ?_, ?_, stays⟩
  · intro other m known
    by_cases here : other = key
    · subst here
      rcases keeps with ⟨n, found, bound, -⟩ | ⟨unknown, -⟩
      · cases found.symm.trans known
        exact bound
      · cases unknown.symm.trans known
    · rw [current other here] at known
      exact (latches other m here known).1
  · intro one other m first second
    rcases keeps with ⟨n, found, -, -, -, -, alone⟩ | ⟨unknown, -⟩
    · by_cases left : one = key
      · by_cases right : other = key
        · rw [left, right]
        · rw [left, found] at first
          exact absurd (first ▸ second) (alone other right)
      · by_cases right : other = key
        · rw [right, found] at second
          exact absurd (second ▸ first) (alone one left)
        · rw [current one left] at first
          rw [current other right] at second
          exact sound.apart one other m first second
    · have used : ∀ k, find? k l'.current = some m → k ≠ key := by
        rintro k known rfl
        rw [unknown] at known
        cases known
      have left := used one first
      have right := used other second
      rw [current one left] at first
      rw [current other right] at second
      exact sound.apart one other m first second
  · intro other m known
    by_cases here : other = key
    · subst here
      rcases keeps with ⟨n, found, -, is, counts, loaded, -⟩ | ⟨unknown, -⟩
      · cases found.symm.trans known
        rw [is]
        exact ⟨counts, loaded⟩
      · cases unknown.symm.trans known
    · rw [current other here] at known
      rw [users other here, (latches other m here known).2]
      exact sound.used other m known
  · intro other none
    by_cases here : other = key
    · subst here
      rcases keeps with ⟨n, found, -⟩ | ⟨-, uncounted, -⟩
      · cases found.symm.trans none
      · exact uncounted
    · rw [current other here] at none
      rw [users other here]
      exact sound.unused other none
  · rcases keeps with ⟨n, found, -, is, -⟩ | ⟨unknown, -, rfl⟩
    · rw [latchOf_of_find? found, is]
    · unfold latchOf
      rw [unknown]
      rfl
  · intro other distinct
    refine ⟨current other distinct, ?_⟩
    unfold latchOf
    rw [current other distinct]
    cases known : find? other l.current with
    | none => rfl
    | some m => rw [Option.map_some, Option.map_some, (latches other m distinct known).2]

theorem turns_setLatch (sound : l.Sound) (found : find? key l.current = some n) (latch : Latch τ)
    (latches : l'.latches = l.latches.set n latch) (current : l'.current = l.current)
    (counted : (l'.users.map (·.1)).Nodup) (loaded : 0 < latch.load)
    (users : ∀ other, find? other l'.users = if other = key then some latch.load else find? other l.users) :
    Turns l l' key latch := by
  have bound := sound.made key n found
  have length : l'.latches.length = l.latches.length := by
    rw [latches, List.length_set]
  have each : ∀ m, l'.latch m = if m = n then latch else l.latch m := by
    intro m
    rw [← latch_setLatch bound]
    unfold KeyedLock.latch setLatch
    rw [latches]
  have apart : ∀ other m, other ≠ key → find? other l.current = some m → m ≠ n := by
    rintro other m distinct known rfl
    exact distinct (sound.apart other key m known found)
  refine turns_at sound (by rw [current]; exact sound.keys) counted (fun other _ => by rw [current]) ?_ ?_ (.inl ⟨n, ?_⟩) ?_
  · intro other distinct
    rw [users, if_neg distinct]
  · intro other m distinct known
    rw [length, each, if_neg (apart other m distinct known)]
    exact ⟨sound.made other m known, rfl⟩
  · rw [current, length, each, if_pos rfl, users, if_pos rfl]
    exact ⟨found, bound, rfl, rfl, loaded, fun other distinct known => apart other n distinct known rfl⟩
  · intro m known _
    rw [current]
    exact known

theorem turns_new (sound : l.Sound) (unknown : find? key l.current = none) (latch : Latch τ) (loaded : latch.load = 1) :
    Turns l ⟨l.latches ++ [latch], set key l.latches.length l.current, set key 1 l.users⟩ key latch := by
  have current : ∀ other, other ≠ key → find? other (set key l.latches.length l.current) = find? other l.current := by
    intro other distinct
    rw [find?_set, if_neg distinct]
  refine turns_at sound (nodup_set sound.keys) (nodup_set sound.counted) current ?_ ?_ (.inl ⟨l.latches.length, ?_⟩) ?_
  · intro other distinct
    rw [find?_set, if_neg distinct]
  · intro other m distinct known
    have bound := sound.made other m known
    unfold KeyedLock.latch
    rw [List.length_append, List.getElem?_append_left bound]
    exact ⟨Nat.lt_succ_of_lt bound, rfl⟩
  · refine ⟨by rw [find?_set, if_pos rfl], by simp, by simp [KeyedLock.latch], by rw [find?_set, if_pos rfl, loaded], ?_, ?_⟩
    · rw [loaded]
      exact Nat.one_pos
    · intro other distinct known
      rw [current other distinct] at known
      exact absurd (sound.made other _ known) (Nat.lt_irrefl _)
  · intro m known
    rw [unknown] at known
    cases known

theorem eq_free_of_load {latch : Latch τ} (idle : latch.load = 0) : latch = .free := by
  obtain ⟨held, queue⟩ := latch
  unfold Latch.load at idle
  cases held with
  | true => simp at idle
  | false =>
    have empty : queue = [] := by simpa using idle
    rw [empty]
    rfl

theorem turns_drop (sound : l.Sound) (found : find? key l.current = some n) (latch : Latch τ) :
    Turns l ⟨l.latches.set n latch, erase key l.current, erase key l.users⟩ key .free := by
  refine turns_at sound (nodup_erase sound.keys) (nodup_erase sound.counted) ?_ ?_ ?_ (.inr ⟨?_, ?_, rfl⟩) ?_
  · intro other distinct
    rw [find?_erase sound.keys, if_neg distinct]
  · intro other distinct
    rw [find?_erase sound.counted, if_neg distinct]
  · intro other m distinct known
    have apart : n ≠ m := by
      rintro rfl
      exact distinct (sound.apart other key n known found)
    unfold KeyedLock.latch
    rw [List.length_set, List.getElem?_set_ne apart]
    exact ⟨sound.made other m known, rfl⟩
  · rw [find?_erase sound.keys, if_pos rfl]
  · rw [find?_erase sound.counted, if_pos rfl]
  · intro m _ loaded
    exact absurd loaded (Nat.lt_irrefl 0)

theorem ask_turns (sound : l.Sound) (key : String) (task : τ) :
    ∃ l' n, l.ask task key = (l', ⟨key, n⟩, ((l.latchOf key).ask task).2) ∧
      Turns l l' key ((l.latchOf key).ask task).1 ∧ find? key l'.current = some n := by
  unfold ask locate
  cases known : find? key l.current with
  | some n =>
    have latch := latchOf_of_find? known
    have load := Latch.load_ask (l.latchOf key) task
    obtain ⟨counts, -⟩ := sound.used key n known
    refine ⟨(l.countUp key).setLatch n ((l.latchOf key).ask task).1, n, ?_, turns_setLatch sound known _ rfl rfl
      (nodup_set sound.counted) (by omega) ?_, known⟩
    · rw [latch]
      rfl
    · intro other
      change find? other (set key _ l.users) = _
      rw [find?_set, counts, load, latch]
      rfl
  | none =>
    have latch : l.latchOf key = .free := by
      unfold latchOf
      rw [known]
      rfl
    have counts := sound.unused key known
    rw [latch]
    refine ⟨_, l.latches.length, ?_, turns_new sound known ⟨true, []⟩ rfl, ?_⟩
    · unfold countUp setLatch KeyedLock.latch
      dsimp only
      rw [counts]
      simp [Latch.ask, Latch.isOpen, Latch.free]
    · rw [find?_set, if_pos rfl]

theorem countDown?_last (counts : find? key l.users = some 1) :
    l.countDown? key = (find? key l.current).map fun _ =>
      { l with users := erase key l.users, current := erase key l.current } := by
  unfold countDown?
  rw [counts]

theorem countDown?_more (counts : find? key l.users = some (n + 2)) :
    l.countDown? key = some { l with users := set key (n + 1) l.users } := by
  unfold countDown?
  rw [counts]

theorem countDown?_turns (sound : l.Sound) (found : find? key l.current = some n) {latch : Latch τ}
    (less : latch.load + 1 = (l.latchOf key).load) :
    ∃ l', (l.setLatch n latch).countDown? key = some l' ∧ Turns l l' key latch := by
  obtain ⟨counts, -⟩ := sound.used key n found
  rw [← latchOf_of_find? found, ← less] at counts
  cases rest : latch.load with
  | zero =>
    cases eq_free_of_load rest
    refine ⟨_, (countDown?_last (l := l.setLatch n .free) counts).trans (congrArg (Option.map _) found), ?_⟩
    exact turns_drop sound found .free
  | succ m =>
    rw [rest] at counts
    refine ⟨_, countDown?_more (l := l.setLatch n latch) counts, turns_setLatch sound found _ rfl rfl (nodup_set sound.counted) (by omega) ?_⟩
    intro other
    change find? other (set key _ l.users) = _
    rw [find?_set, rest]

theorem leave?_turns (sound : l.Sound) (found : find? t.key l.current = some t.latch) (held : (l.latchOf t.key).held = true) :
    ∃ l', l.leave? t = some (l', (l.latchOf t.key).release.2) ∧ Turns l l' t.key (l.latchOf t.key).release.1 := by
  obtain ⟨l', counted, turns⟩ := countDown?_turns sound found (Latch.load_release held)
  refine ⟨l', ?_, turns⟩
  unfold leave?
  dsimp only
  rw [← latchOf_of_find? found, counted]
  rfl

theorem setLatch_turns (sound : l.Sound) (found : find? key l.current = some n) {latch : Latch τ}
    (load : latch.load = (l.latchOf key).load) : Turns l (l.setLatch n latch) key latch := by
  obtain ⟨counts, loaded⟩ := sound.used key n found
  rw [← latchOf_of_find? found, ← load] at counts loaded
  refine turns_setLatch sound found latch rfl rfl sound.counted loaded fun other => ?_
  change find? other l.users = _
  by_cases same : other = key
  · rw [if_pos same, same, counts]
  · rw [if_neg same]

variable [DecidableEq τ] {task : τ} {holds waits : τ → Prop}

theorem enter_turns (sound : l.Sound) (found : find? t.key l.current = some t.latch)
    (serves : (l.latchOf t.key).Serves holds waits) (calls : (l.latchOf t.key).Calls task) :
    Turns l (l.enter task t) t.key ((l.latchOf t.key).enter task) := by
  unfold enter
  rw [← latchOf_of_find? found]
  exact setLatch_turns sound found (Latch.load_enter serves calls)

theorem withdraw_turns (sound : l.Sound) (found : find? t.key l.current = some t.latch) (task : τ) :
    Turns l (l.withdraw task t) t.key ((l.latchOf t.key).withdraw task) := by
  unfold withdraw
  rw [← latchOf_of_find? found]
  exact setLatch_turns sound found (Latch.load_withdraw _ task)

theorem abandon?_turns (sound : l.Sound) (found : find? t.key l.current = some t.latch)
    (there : task ∈ (l.latchOf t.key).queue.map (·.task)) :
    ∃ l', l.abandon? task t = some (l', ((l.latchOf t.key).abandon task).2) ∧
      Turns l l' t.key ((l.latchOf t.key).abandon task).1 := by
  obtain ⟨l', counted, turns⟩ := countDown?_turns sound found (Latch.load_abandon _ there)
  refine ⟨l', ?_, turns⟩
  unfold abandon?
  dsimp only
  rw [← latchOf_of_find? found, counted]
  rfl

end KeyedLock

inductive Place where
  | away
  | waiting (t : Ticket)
  | inside (t : Ticket)

def Place.Waiting (key : String) : Place → Prop
  | .waiting t => t.key = key
  | _ => False

def Place.Inside (key : String) : Place → Prop
  | .inside t => t.key = key
  | _ => False

theorem Latch.Serves.loaded {l : Latch τ} (serves : l.Serves holds waits) (busy : holds x ∨ waits x) : 0 < l.load := by
  unfold load
  rcases busy with inside | outside
  · rw [if_pos (serves.held.2 ⟨x, inside⟩)]
    omega
  · have member := List.length_pos_of_mem ((serves.queued x).2 outside)
    rw [List.length_map] at member
    omega

theorem Latch.Serves.update [DecidableEq τ] {l : Latch τ} {place : τ → Place} {x : τ} {new : Place}
    (serves : l.Serves holds waits) (self : (holds x ↔ new.Inside key) ∧ (waits x ↔ new.Waiting key))
    (others : ∀ y, y ≠ x → (holds y ↔ (place y).Inside key) ∧ (waits y ↔ (place y).Waiting key)) :
    l.Serves (fun y => (Function.update place x new y).Inside key) fun y => (Function.update place x new y).Waiting key := by
  have each : ∀ y, (holds y ↔ (Function.update place x new y).Inside key) ∧
      (waits y ↔ (Function.update place x new y).Waiting key) := by
    intro y
    by_cases same : y = x
    · subst same
      rw [Function.update_self]
      exact self
    · rw [Function.update_of_ne same]
      exact others y same
  exact serves.congr (fun y => (each y).1) fun y => (each y).2

namespace KeyedLock

structure Guards (l : KeyedLock τ) (place : τ → Place) : Prop where
  sound : l.Sound
  tickets : ∀ x t, place x = .waiting t ∨ place x = .inside t → find? t.key l.current = some t.latch
  serves : ∀ key, (l.latchOf key).Serves (fun x => (place x).Inside key) fun x => (place x).Waiting key

def Calls (l : KeyedLock τ) (place : τ → Place) (x : τ) : Prop :=
  ∀ t, place x = .waiting t → (l.latchOf t.key).Calls x

variable {l l' : KeyedLock τ} {place : τ → Place} {key : String} {t : Ticket} {x y : τ}

theorem empty_guards : (empty : KeyedLock τ).Guards fun _ => .away := by
  refine ⟨empty_sound, ?_, fun key => Latch.free_serves⟩
  rintro x t (away | away) <;> cases away

variable [DecidableEq τ]

theorem guards_turns {latch : Latch τ} (guards : l.Guards place) (turns : Turns l l' key latch) (x : τ) (new : Place)
    (old : ∀ other, other ≠ key → ¬ (place x).Inside other ∧ ¬ (place x).Waiting other)
    (now : ∀ other, other ≠ key → ¬ new.Inside other ∧ ¬ new.Waiting other)
    (ticket : ∀ t, new = .waiting t ∨ new = .inside t → find? t.key l'.current = some t.latch)
    (serves : latch.Serves (fun y => (Function.update place x new y).Inside key)
      fun y => (Function.update place x new y).Waiting key) : l'.Guards (Function.update place x new) := by
  refine ⟨turns.sound, fun y t is => ?_, fun other => ?_⟩
  · by_cases same : y = x
    · subst same
      rw [Function.update_self] at is
      exact ticket t is
    · have there := is
      rw [Function.update_of_ne same] at there
      have found := guards.tickets y t there
      by_cases here : t.key = key
      · refine here ▸ turns.stays _ (here ▸ found) (serves.loaded (x := y) ?_)
        rcases is with outside | inside
        · rw [outside]
          exact .inr here
        · rw [inside]
          exact .inl here
      · rw [(turns.elsewhere _ here).1]
        exact found
  · by_cases here : other = key
    · subst here
      rw [turns.here]
      exact serves
    · rw [(turns.elsewhere other here).2]
      obtain ⟨insideOld, waitingOld⟩ := old other here
      obtain ⟨insideNow, waitingNow⟩ := now other here
      exact (guards.serves other).update ⟨iff_of_false insideOld insideNow, iff_of_false waitingOld waitingNow⟩
        fun y _ => ⟨Iff.rfl, Iff.rfl⟩

theorem guards_ask (guards : l.Guards place) (away : place x = .away) (key : String) :
    ∃ l' n, (l.ask x key = (l', ⟨key, n⟩, true) ∧ l'.Guards (Function.update place x (.inside ⟨key, n⟩)) ∧
        (∀ y, ¬ (place y).Inside key) ∨
      l.ask x key = (l', ⟨key, n⟩, false) ∧ l'.Guards (Function.update place x (.waiting ⟨key, n⟩))) ∧
      ∀ other y, (l.latchOf other).Calls y → (l'.latchOf other).Calls y := by
  have serves := guards.serves key
  obtain ⟨l', n, asked, turns, found⟩ := ask_turns guards.sound key x
  have nowhere : ∀ other, other ≠ key → ¬ (place x).Inside other ∧ ¬ (place x).Waiting other := by
    intro other _
    rw [away]
    exact ⟨fun none => none, fun none => none⟩
  have kept : ∀ other y, (l.latchOf other).Calls y → (l'.latchOf other).Calls y := by
    intro other y calls
    by_cases here : other = key
    · subst here
      rw [turns.here]
      unfold Latch.ask
      split
      · exact calls
      · exact List.mem_append_left _ calls
    · rw [(turns.elsewhere other here).2]
      exact calls
  refine ⟨l', n, ?_, kept⟩
  cases admitted : ((l.latchOf key).ask x).2 with
  | true =>
    obtain ⟨inside, nobody⟩ := Latch.serves_ask_open serves admitted
    refine .inl ⟨by rw [asked, admitted], ?_, nobody⟩
    refine guards_turns guards turns x _ nowhere (fun other distinct => ⟨fun same => distinct same.symm, fun none => none⟩) ?_ ?_
    · rintro t (⟨⟨⟩⟩ | ⟨⟨⟩⟩)
      exact found
    · refine inside.update ⟨iff_of_true rfl rfl, ?_⟩ fun y distinct => ⟨iff_of_false distinct (nobody y), Iff.rfl⟩
      rw [away]
      exact Iff.rfl
  | false =>
    have fresh : ¬ (place x).Waiting key := by
      rw [away]
      exact fun none => none
    refine .inr ⟨by rw [asked, admitted], ?_⟩
    refine guards_turns guards turns x _ nowhere (fun other distinct => ⟨fun none => none, fun same => distinct same.symm⟩) ?_ ?_
    · rintro t (⟨⟨⟩⟩ | ⟨⟨⟩⟩)
      exact found
    · refine (Latch.serves_ask_wait serves fresh admitted).update ⟨?_, iff_of_true (.inr rfl) rfl⟩ fun y distinct =>
        ⟨Iff.rfl, fun is => is.resolve_right distinct, .inl⟩
      rw [away]
      exact Iff.rfl

theorem guards_leave (guards : l.Guards place) (inside : place x = .inside t) :
    ∃ l' called, l.leave? t = some (l', called) ∧ l'.Guards (Function.update place x .away) ∧
      (∀ y ∈ called, l'.Calls (Function.update place x .away) y) ∧
      ∀ other y, (l.latchOf other).Calls y → (l'.latchOf other).Calls y := by
  have serves := guards.serves t.key
  have here : (place x).Inside t.key := by
    rw [inside]
    rfl
  have held := serves.held.2 ⟨x, here⟩
  obtain ⟨l', left, turns⟩ := leave?_turns guards.sound (guards.tickets x t (.inr inside)) held
  obtain ⟨released, calls⟩ := Latch.serves_release serves
  refine ⟨l', _, left, ?_, ?_, ?_⟩
  · refine guards_turns guards turns x .away ?_ (fun other _ => ⟨fun none => none, fun none => none⟩)
      (by rintro u (⟨⟨⟩⟩ | ⟨⟨⟩⟩)) ?_
    · intro other distinct
      rw [inside]
      exact ⟨fun same => distinct same.symm, fun none => none⟩
    · refine released.update ⟨Iff.rfl, ?_⟩ fun y distinct =>
        ⟨iff_of_false (fun none => none) fun there => distinct (serves.alone y x there here), Iff.rfl⟩
      rw [inside]
      exact Iff.rfl
  · intro y called u waits
    have calling := calls y called
    have queued := (released.queued y).1 (List.mem_map.2 ⟨_, calling, rfl⟩)
    have other : y ≠ x := by
      rintro rfl
      rw [inside] at queued
      exact queued
    rw [Function.update_of_ne other] at waits
    rw [waits] at queued
    change u.key = t.key at queued
    rw [queued, turns.here]
    exact calling
  · intro other y calls
    by_cases same : other = t.key
    · subst same
      exact absurd trivial (serves.steady.held held _ calls)
    · rw [(turns.elsewhere other same).2]
      exact calls

theorem guards_enter (guards : l.Guards place) (waits : place x = .waiting t) (calls : l.Calls place x) :
    (l.enter x t).Guards (Function.update place x (.inside t)) ∧ (∀ y, ¬ (place y).Inside t.key) ∧
      ∀ other y, y ≠ x → (l.latchOf other).Calls y → ((l.enter x t).latchOf other).Calls y := by
  have serves := guards.serves t.key
  have called := calls t waits
  have found := guards.tickets x t (.inl waits)
  have turns := enter_turns guards.sound found serves called
  obtain ⟨entered, nobody⟩ := Latch.serves_enter serves called
  refine ⟨?_, nobody, ?_⟩
  · refine guards_turns guards turns x _ ?_ (fun other distinct => ⟨fun same => distinct same.symm, fun none => none⟩) ?_ ?_
    · intro other distinct
      rw [waits]
      exact ⟨fun none => none, fun same => distinct same.symm⟩
    · rintro u (⟨⟨⟩⟩ | ⟨⟨⟩⟩)
      exact turns.stays _ found (entered.loaded (x := x) (.inl rfl))
    · exact entered.update ⟨iff_of_true rfl rfl, iff_of_false (fun both => both.2 rfl) fun none => none⟩ fun y distinct =>
        ⟨iff_of_false distinct (nobody y), fun both => both.1, fun there => ⟨there, distinct⟩⟩
  · intro other y distinct calling
    by_cases same : other = t.key
    · subst same
      obtain ⟨rest, queue, enters⟩ := Latch.enter_called serves called
      unfold Latch.Calls at calling
      rw [queue] at calling
      rw [turns.here, enters]
      rcases List.mem_cons.1 calling with here | later
      · cases here
        exact absurd rfl distinct
      · exact later
    · rw [(turns.elsewhere other same).2]
      exact calling

end KeyedLock
end SubscriptionLedger
