import Mathlib.Data.Finset.Card
import Mathlib.Data.Finset.Image
import SubscriptionLedger.Proofs.Lock

namespace SubscriptionLedger

structure Crowd (τ : Type) where
  lock : KeyedLock τ
  holds : Finset (τ × Ticket)
  waits : Finset (τ × Ticket)

variable {τ : Type} [DecidableEq τ]

def tasksAt (tickets : Finset (τ × Ticket)) (key : String) : Finset τ := (tickets.filter (·.2.key = key)).image (·.1)

section Tickets

variable {tickets : Finset (τ × Ticket)} {key : String} {x y : τ} {t : Ticket}

theorem mem_tasksAt : x ∈ tasksAt tickets key ↔ ∃ t, (x, t) ∈ tickets ∧ t.key = key := by
  unfold tasksAt
  rw [Finset.mem_image]
  constructor
  · rintro ⟨⟨y, t⟩, member, rfl⟩
    exact ⟨t, Finset.mem_filter.1 member⟩
  · rintro ⟨t, member⟩
    exact ⟨(x, t), Finset.mem_filter.2 member, rfl⟩

theorem mem_tasksAt_insert : y ∈ tasksAt (insert (x, t) tickets) t.key ↔ y = x ∨ y ∈ tasksAt tickets t.key := by
  simp only [mem_tasksAt, Finset.mem_insert, Prod.mk.injEq]
  constructor
  · rintro ⟨u, ⟨rfl, rfl⟩ | member, same⟩
    · exact .inl rfl
    · exact .inr ⟨u, member, same⟩
  · rintro (rfl | ⟨u, member, same⟩)
    · exact ⟨t, .inl ⟨rfl, rfl⟩, rfl⟩
    · exact ⟨u, .inr member, same⟩

theorem tasksAt_insert_of_ne (distinct : key ≠ t.key) : tasksAt (insert (x, t) tickets) key = tasksAt tickets key := by
  ext y
  simp only [mem_tasksAt, Finset.mem_insert, Prod.mk.injEq]
  constructor
  · rintro ⟨u, ⟨rfl, rfl⟩ | member, same⟩
    · exact absurd same.symm distinct
    · exact ⟨u, member, same⟩
  · rintro ⟨u, member, same⟩
    exact ⟨u, .inr member, same⟩

theorem mem_tasksAt_erase (single : ∀ u, (x, u) ∈ tickets → u.key = t.key → u = t) :
    y ∈ tasksAt (tickets.erase (x, t)) t.key ↔ y ∈ tasksAt tickets t.key ∧ y ≠ x := by
  simp only [mem_tasksAt, Finset.mem_erase, ne_eq, Prod.mk.injEq]
  constructor
  · rintro ⟨u, ⟨other, member⟩, same⟩
    refine ⟨⟨u, member, same⟩, ?_⟩
    rintro rfl
    exact other ⟨rfl, single u member same⟩
  · rintro ⟨⟨u, member, same⟩, other⟩
    exact ⟨u, ⟨fun both => other both.1, member⟩, same⟩

theorem tasksAt_erase_of_ne (distinct : key ≠ t.key) : tasksAt (tickets.erase (x, t)) key = tasksAt tickets key := by
  ext y
  simp only [mem_tasksAt, Finset.mem_erase, ne_eq, Prod.mk.injEq]
  constructor
  · rintro ⟨u, ⟨-, member⟩, same⟩
    exact ⟨u, member, same⟩
  · rintro ⟨u, member, rfl⟩
    refine ⟨u, ⟨?_, member⟩, rfl⟩
    rintro ⟨-, rfl⟩
    exact distinct rfl

end Tickets

theorem Latch.Serves.load_eq {l : Latch τ} {holders waiters : Finset τ} (serves : l.Serves (· ∈ holders) (· ∈ waiters)) :
    l.load = holders.card + waiters.card := by
  have queued : waiters = (l.queue.map (·.task)).toFinset := by
    ext x
    rw [List.mem_toFinset, serves.queued]
  unfold load
  rw [queued, List.toFinset_card_of_nodup serves.once, List.length_map]
  congr 1
  split
  · rename_i held
    obtain ⟨x, inside⟩ := serves.held.1 held
    exact (Finset.card_eq_one.2 ⟨x, Finset.eq_singleton_iff_unique_mem.2 ⟨inside, fun y also => serves.alone y x also inside⟩⟩).symm
  · rename_i free
    refine (Finset.card_eq_zero.2 (Finset.eq_empty_of_forall_notMem fun x inside => free ?_)).symm
    exact serves.held.2 ⟨x, inside⟩

namespace Crowd

open KeyedLock

def initial : Crowd τ := ⟨.empty, ∅, ∅⟩

def tickets (c : Crowd τ) : Finset (τ × Ticket) := c.holds ∪ c.waits

def keys (c : Crowd τ) : Finset String := c.tickets.image (·.2.key)

def asleep (c : Crowd τ) : Finset τ := c.waits.image (·.1)

-- What one task does next. While it waits for a key it can only be called off, enter or abandon its place.
inductive Step (c : Crowd τ) : Crowd τ → Prop where
  | acquire (awake : x ∉ c.asleep) (asked : c.lock.ask x k = (l, t, true)) :
      Step c ⟨l, insert (x, t) c.holds, c.waits⟩
  | queue (awake : x ∉ c.asleep) (asked : c.lock.ask x k = (l, t, false)) :
      Step c ⟨l, c.holds, insert (x, t) c.waits⟩
  | enter (waits : (x, t) ∈ c.waits) (called : (c.lock.latch t.latch).markOf? x = some .called) :
      Step c ⟨c.lock.enter x t, insert (x, t) c.holds, c.waits.erase (x, t)⟩
  -- the block may have come to its end, or have failed, or the task is called off inside of it
  | leave (awake : x ∉ c.asleep) (holds : (x, t) ∈ c.holds) (left : c.lock.leave? t = some (l, called)) :
      Step c ⟨l, c.holds.erase (x, t), c.waits⟩
  -- before it was called, or between that and its next run
  | callOff (waits : (x, t) ∈ c.waits) : Step c ⟨c.lock.withdraw x t, c.holds, c.waits⟩
  | abandon (waits : (x, t) ∈ c.waits) (off : ∃ m, (c.lock.latch t.latch).markOf? x = some m ∧ m.Off)
      (left : c.lock.abandon? x t = some (l, called)) : Step c ⟨l, c.holds, c.waits.erase (x, t)⟩

inductive Runs (c : Crowd τ) : Crowd τ → Prop where
  | refl : Runs c c
  | snoc (runs : Runs c d) (step : Step d e) : Runs c e

-- Tickets are for the latches that keys have now, and each latch serves the tasks that have its ticket.
structure Orderly (c : Crowd τ) : Prop where
  sound : c.lock.Sound
  tickets : ∀ x t, (x, t) ∈ c.tickets → find? t.key c.lock.current = some t.latch
  serves : ∀ key, (c.lock.latchOf key).Serves (· ∈ tasksAt c.holds key) (· ∈ tasksAt c.waits key)

structure Moves (c d : Crowd τ) (key : String) (latch : Latch τ) : Prop where
  turns : Turns c.lock d.lock key latch
  tickets : ∀ x t, (x, t) ∈ d.tickets → (x, t) ∈ c.tickets ∨ find? t.key d.lock.current = some t.latch
  serves : latch.Serves (· ∈ tasksAt d.holds key) (· ∈ tasksAt d.waits key)
  elsewhere : ∀ other, other ≠ key → tasksAt d.holds other = tasksAt c.holds other ∧ tasksAt d.waits other = tasksAt c.waits other

variable {c d : Crowd τ} {key : String} {x y : τ} {t u : Ticket} {l : KeyedLock τ} {latch : Latch τ}

theorem mem_tickets : (x, t) ∈ c.tickets ↔ (x, t) ∈ c.holds ∨ (x, t) ∈ c.waits := Finset.mem_union

theorem mem_keys : key ∈ c.keys ↔ ∃ x, x ∈ tasksAt c.holds key ∨ x ∈ tasksAt c.waits key := by
  unfold keys
  rw [Finset.mem_image]
  constructor
  · rintro ⟨⟨x, t⟩, member, rfl⟩
    refine ⟨x, ?_⟩
    rw [mem_tasksAt, mem_tasksAt]
    rcases mem_tickets.1 member with holds | waits
    · exact .inl ⟨t, holds, rfl⟩
    · exact .inr ⟨t, waits, rfl⟩
  · rintro ⟨x, inside | outside⟩
    · obtain ⟨t, holds, same⟩ := mem_tasksAt.1 inside
      exact ⟨(x, t), mem_tickets.2 (.inl holds), same⟩
    · obtain ⟨t, waits, same⟩ := mem_tasksAt.1 outside
      exact ⟨(x, t), mem_tickets.2 (.inr waits), same⟩

theorem initial_orderly : (initial : Crowd τ).Orderly where
  sound := empty_sound
  tickets := fun _ _ none => by cases none
  serves := fun _ => Latch.free_serves.congr (fun _ => by simp [tasksAt, initial]) fun _ => by simp [tasksAt, initial]

theorem Orderly.single (orderly : c.Orderly) (first : (x, t) ∈ c.tickets) (second : (x, u) ∈ c.tickets)
    (same : u.key = t.key) : u = t := by
  have here := orderly.tickets x t first
  have there := orderly.tickets x u second
  rw [same, here, Option.some.injEq] at there
  obtain ⟨k, n⟩ := t
  obtain ⟨k', n'⟩ := u
  cases same
  cases there
  rfl

theorem Moves.stays (moves : Moves c d key latch) (found : find? other c.lock.current = some n) (used : other ∈ d.keys) :
    find? other d.lock.current = some n := by
  by_cases here : other = key
  · subst here
    obtain ⟨x, busy⟩ := mem_keys.1 used
    exact moves.turns.stays n found (moves.serves.loaded busy)
  · rw [(moves.turns.elsewhere other here).1]
    exact found

theorem Orderly.moves (orderly : c.Orderly) (moves : Moves c d key latch) : d.Orderly where
  sound := moves.turns.sound
  tickets := by
    intro x t out
    rcases moves.tickets x t out with old | new
    · exact moves.stays (orderly.tickets x t old) (Finset.mem_image_of_mem _ out)
    · exact new
  serves := by
    intro other
    by_cases here : other = key
    · subst here
      rw [moves.turns.here]
      exact moves.serves
    · obtain ⟨inside, outside⟩ := moves.elsewhere other here
      rw [(moves.turns.elsewhere other here).2, inside, outside]
      exact orderly.serves other

section Steps

variable (orderly : c.Orderly)
include orderly

theorem moves_acquire (asked : c.lock.ask x key = (l, t, true)) :
    Moves c ⟨l, insert (x, t) c.holds, c.waits⟩ key ((c.lock.latchOf key).ask x).1 := by
  obtain ⟨l', n, asks, turns, found⟩ := ask_turns orderly.sound key x
  obtain ⟨rfl, rest⟩ := Prod.mk.inj (asks.symm.trans asked)
  obtain ⟨rfl, admitted⟩ := Prod.mk.inj rest
  obtain ⟨inside, nobody⟩ := Latch.serves_ask_open (orderly.serves key) admitted
  refine ⟨turns, ?_, inside.congr (fun y => ?_) fun y => Iff.rfl, fun other distinct => ⟨tasksAt_insert_of_ne distinct, rfl⟩⟩
  · intro y u out
    rcases mem_tickets.1 out with holds | waits
    · rcases Finset.mem_insert.1 holds with new | old
      · cases new
        exact .inr found
      · exact .inl (mem_tickets.2 (.inl old))
    · exact .inl (mem_tickets.2 (.inr waits))
  · exact Iff.trans ⟨.inl, fun is => is.resolve_right (nobody y)⟩ (mem_tasksAt_insert (t := ⟨key, n⟩)).symm

theorem moves_queue (awake : x ∉ c.asleep) (asked : c.lock.ask x key = (l, t, false)) :
    Moves c ⟨l, c.holds, insert (x, t) c.waits⟩ key ((c.lock.latchOf key).ask x).1 := by
  obtain ⟨l', n, asks, turns, found⟩ := ask_turns orderly.sound key x
  obtain ⟨rfl, rest⟩ := Prod.mk.inj (asks.symm.trans asked)
  obtain ⟨rfl, admitted⟩ := Prod.mk.inj rest
  have fresh : x ∉ tasksAt c.waits key := by
    intro waits
    obtain ⟨u, there, -⟩ := mem_tasksAt.1 waits
    exact awake (Finset.mem_image_of_mem Prod.fst there)
  have queued := Latch.serves_ask_wait (orderly.serves key) fresh admitted
  refine ⟨turns, ?_, queued.congr (fun y => Iff.rfl) fun y => ?_, fun other distinct => ⟨rfl, tasksAt_insert_of_ne distinct⟩⟩
  · intro y u out
    rcases mem_tickets.1 out with holds | waits
    · exact .inl (mem_tickets.2 (.inl holds))
    · rcases Finset.mem_insert.1 waits with new | old
      · cases new
        exact .inr found
      · exact .inl (mem_tickets.2 (.inr old))
  · exact Or.comm.trans (mem_tasksAt_insert (t := ⟨key, n⟩)).symm

theorem Orderly.single_holds (holds : (x, t) ∈ c.holds) : ∀ u, (x, u) ∈ c.holds → u.key = t.key → u = t := fun _ also =>
  orderly.single (mem_tickets.2 (.inl holds)) (mem_tickets.2 (.inl also))

theorem Orderly.single_waits (waits : (x, t) ∈ c.waits) : ∀ u, (x, u) ∈ c.waits → u.key = t.key → u = t := fun _ also =>
  orderly.single (mem_tickets.2 (.inr waits)) (mem_tickets.2 (.inr also))

theorem Orderly.latch_of_waits (waits : (x, t) ∈ c.waits) :
    find? t.key c.lock.current = some t.latch ∧ c.lock.latch t.latch = c.lock.latchOf t.key ∧
      x ∈ (c.lock.latchOf t.key).queue.map (·.task) := by
  have found := orderly.tickets x t (mem_tickets.2 (.inr waits))
  exact ⟨found, (latchOf_of_find? found).symm, ((orderly.serves t.key).queued x).2 (mem_tasksAt.2 ⟨t, waits, rfl⟩)⟩

theorem Orderly.latch_of_holds (holds : (x, t) ∈ c.holds) :
    find? t.key c.lock.current = some t.latch ∧ c.lock.latch t.latch = c.lock.latchOf t.key ∧
      (c.lock.latchOf t.key).held = true := by
  have found := orderly.tickets x t (mem_tickets.2 (.inl holds))
  exact ⟨found, (latchOf_of_find? found).symm, (orderly.serves t.key).held.2 ⟨x, mem_tasksAt.2 ⟨t, holds, rfl⟩⟩⟩

theorem moves_enter (waits : (x, t) ∈ c.waits) (called : (c.lock.latch t.latch).markOf? x = some .called) :
    Moves c ⟨c.lock.enter x t, insert (x, t) c.holds, c.waits.erase (x, t)⟩ t.key ((c.lock.latchOf t.key).enter x) := by
  obtain ⟨found, latch, -⟩ := orderly.latch_of_waits waits
  have calls : (c.lock.latchOf t.key).Calls x := latch ▸ Latch.mem_of_markOf? called
  have turns := enter_turns orderly.sound found (orderly.serves t.key) calls
  obtain ⟨entered, nobody⟩ := Latch.serves_enter (orderly.serves t.key) calls
  refine ⟨turns, ?_, entered.congr (fun y => ?_) fun y => ?_,
    fun other distinct => ⟨tasksAt_insert_of_ne distinct, tasksAt_erase_of_ne distinct⟩⟩
  · intro y u out
    rcases mem_tickets.1 out with holds | waits'
    · rcases Finset.mem_insert.1 holds with new | old
      · cases new
        exact .inl (mem_tickets.2 (.inr waits))
      · exact .inl (mem_tickets.2 (.inl old))
    · exact .inl (mem_tickets.2 (.inr (Finset.mem_of_mem_erase waits')))
  · exact Iff.trans ⟨.inl, fun is => is.resolve_right (nobody y)⟩ mem_tasksAt_insert.symm
  · exact (mem_tasksAt_erase (orderly.single_waits waits)).symm

theorem moves_leave (holds : (x, t) ∈ c.holds) (left : c.lock.leave? t = some (l, called)) :
    Moves c ⟨l, c.holds.erase (x, t), c.waits⟩ t.key (c.lock.latchOf t.key).release.1 := by
  obtain ⟨found, -, held⟩ := orderly.latch_of_holds holds
  obtain ⟨l', leaves, turns⟩ := leave?_turns orderly.sound found held
  obtain ⟨rfl, -⟩ := Prod.mk.inj (Option.some.inj (leaves.symm.trans left))
  obtain ⟨released, -⟩ := Latch.serves_release (orderly.serves t.key)
  have inside : x ∈ tasksAt c.holds t.key := mem_tasksAt.2 ⟨t, holds, rfl⟩
  refine ⟨turns, ?_, released.congr (fun y => ?_) fun y => Iff.rfl, fun other distinct => ⟨tasksAt_erase_of_ne distinct, rfl⟩⟩
  · intro y u out
    rcases mem_tickets.1 out with holds' | waits
    · exact .inl (mem_tickets.2 (.inl (Finset.mem_of_mem_erase holds')))
    · exact .inl (mem_tickets.2 (.inr waits))
  · refine Iff.trans (iff_of_false id ?_) (mem_tasksAt_erase (orderly.single_holds holds)).symm
    rintro ⟨also, other⟩
    exact other ((orderly.serves t.key).alone y x also inside)

theorem moves_callOff (waits : (x, t) ∈ c.waits) :
    Moves c ⟨c.lock.withdraw x t, c.holds, c.waits⟩ t.key ((c.lock.latchOf t.key).withdraw x) := by
  obtain ⟨found, -, -⟩ := orderly.latch_of_waits waits
  exact ⟨withdraw_turns orderly.sound found x, fun _ _ => .inl, Latch.serves_withdraw (orderly.serves t.key) x,
    fun _ _ => ⟨rfl, rfl⟩⟩

theorem moves_abandon (waits : (x, t) ∈ c.waits) (left : c.lock.abandon? x t = some (l, called)) :
    Moves c ⟨l, c.holds, c.waits.erase (x, t)⟩ t.key ((c.lock.latchOf t.key).abandon x).1 := by
  obtain ⟨found, -, there⟩ := orderly.latch_of_waits waits
  obtain ⟨l', leaves, turns⟩ := abandon?_turns orderly.sound found there
  obtain ⟨rfl, -⟩ := Prod.mk.inj (Option.some.inj (leaves.symm.trans left))
  obtain ⟨abandoned, -⟩ := Latch.serves_abandon (orderly.serves t.key) x
  refine ⟨turns, ?_, abandoned.congr (fun y => Iff.rfl) fun y => ?_, fun other distinct => ⟨rfl, tasksAt_erase_of_ne distinct⟩⟩
  · intro y u out
    rcases mem_tickets.1 out with holds | waits'
    · exact .inl (mem_tickets.2 (.inl holds))
    · exact .inl (mem_tickets.2 (.inr (Finset.mem_of_mem_erase waits')))
  · exact (mem_tasksAt_erase (orderly.single_waits waits)).symm

theorem Step.moves (step : Step c d) : ∃ key latch, Moves c d key latch := by
  cases step with
  | acquire _ asked => exact ⟨_, _, moves_acquire orderly asked⟩
  | queue awake asked => exact ⟨_, _, moves_queue orderly awake asked⟩
  | enter waits called => exact ⟨_, _, moves_enter orderly waits called⟩
  | leave _ holds left => exact ⟨_, _, moves_leave orderly holds left⟩
  | callOff waits => exact ⟨_, _, moves_callOff orderly waits⟩
  | abandon waits _ left => exact ⟨_, _, moves_abandon orderly waits left⟩

end Steps

theorem Orderly.step (orderly : c.Orderly) (step : Step c d) : d.Orderly := by
  obtain ⟨key, latch, moves⟩ := Step.moves orderly step
  exact orderly.moves moves

theorem Runs.orderly (runs : Runs initial c) : c.Orderly := by
  induction runs with
  | refl => exact initial_orderly
  | snoc _ step ih => exact ih.step step

theorem Orderly.loaded_iff (orderly : c.Orderly) (key : String) : 0 < (c.lock.latchOf key).load ↔ key ∈ c.keys := by
  rw [mem_keys, (orderly.serves key).load_eq, Nat.add_pos_iff_pos_or_pos, Finset.card_pos, Finset.card_pos, exists_or]
  exact Iff.rfl

theorem Orderly.size_eq (orderly : c.Orderly) : c.lock.size = c.keys.card := by
  have keys : c.keys = (c.lock.current.map (·.1)).toFinset := by
    ext key
    rw [List.mem_toFinset, ← isSome_find?_iff, (orderly.sound.used_iff key).2.2, orderly.loaded_iff]
  unfold size
  rw [keys, List.toFinset_card_of_nodup orderly.sound.keys, List.length_map]

theorem tasksAt_tickets (c : Crowd τ) (key : String) : tasksAt c.tickets key = tasksAt c.holds key ∪ tasksAt c.waits key := by
  unfold tasksAt tickets
  rw [Finset.filter_union, Finset.image_union]

structure Kept (c : Crowd τ) : Prop where
  alone : ∀ key, ∀ x ∈ tasksAt c.holds key, ∀ y ∈ tasksAt c.holds key, x = y
  -- the lock knows the keys in use, and no others
  entry : ∀ key, (find? key c.lock.current).isSome ↔ key ∈ c.keys
  counted : ∀ key, (find? key c.lock.users).isSome ↔ key ∈ c.keys
  -- a task that waits for a key that it holds uses it twice
  uses : ∀ key, (find? key c.lock.users).getD 0 = (tasksAt c.holds key).card + (tasksAt c.waits key).card
  count : ∀ key, Disjoint (tasksAt c.holds key) (tasksAt c.waits key) →
    (find? key c.lock.users).getD 0 = (tasksAt c.tickets key).card
  -- the latch that a task was sent to is the latch of its key, and stays so while the key is in use
  latch : ∀ x t, (x, t) ∈ c.tickets → find? t.key c.lock.current = some t.latch
  lasting : ∀ d, Step c d → ∀ key n, find? key c.lock.current = some n → key ∈ d.keys → find? key d.lock.current = some n
  leaves : ∀ x t, (x, t) ∈ c.holds → (c.lock.latch t.latch).held = true ∧ (c.lock.leave? t).isSome
  abandons : ∀ x t, (x, t) ∈ c.waits → (c.lock.abandon? x t).isSome
  size : c.lock.size = c.keys.card
  idle : c.tickets = ∅ → c.lock.size = 0

-- Whatever the tasks at a lock do, and whenever they are called off, one at a time is inside of a key, and the lock has an
-- entry for each key in use, with the number of those who use it, and for no other.
theorem kept_apart (runs : Runs (initial : Crowd τ) c) : c.Kept := by
  have orderly := runs.orderly
  have uses : ∀ key, (find? key c.lock.users).getD 0 = (tasksAt c.holds key).card + (tasksAt c.waits key).card := by
    intro key
    rw [(orderly.sound.used_iff key).1, (orderly.serves key).load_eq]
  refine ⟨?_, ?_, ?_, uses, ?_, orderly.tickets, ?_, ?_, ?_, orderly.size_eq, ?_⟩
  · intro key x inside y also
    exact (orderly.serves key).alone x y inside also
  · intro key
    rw [(orderly.sound.used_iff key).2.2, orderly.loaded_iff]
  · intro key
    rw [(orderly.sound.used_iff key).2.1, orderly.loaded_iff]
  · intro key apart
    rw [uses, tasksAt_tickets, Finset.card_union_of_disjoint apart]
  · intro d step key n found used
    obtain ⟨moved, latch, moves⟩ := Step.moves orderly step
    exact moves.stays found used
  · intro x t holds
    obtain ⟨found, latch, held⟩ := orderly.latch_of_holds holds
    obtain ⟨l', left, -⟩ := leave?_turns orderly.sound found held
    rw [latch, left]
    exact ⟨held, rfl⟩
  · intro x t waits
    obtain ⟨found, -, there⟩ := orderly.latch_of_waits waits
    obtain ⟨l', left, -⟩ := abandon?_turns orderly.sound found there
    rw [left]
    rfl
  · intro none
    rw [orderly.size_eq]
    unfold keys
    rw [none]
    rfl

-- The turn of a task that is called off after it was called goes to the next one.
theorem kept_apart_relay : ∃ c : Crowd String, Runs initial c ∧ c.holds = {("carl", ⟨"key", 0⟩)} ∧ c.waits = ∅ ∧ c.Kept := by
  have asked : Runs initial (⟨⟨[⟨true, []⟩], [("key", 0)], [("key", 1)]⟩, _, _⟩ : Crowd String) :=
    .snoc .refl (.acquire (x := "ann") (k := "key") (by decide) rfl)
  have queued : Runs initial ⟨⟨[⟨true, [⟨"bob", .asleep⟩]⟩], [("key", 0)], [("key", 2)]⟩, _, _⟩ :=
    .snoc asked (.queue (x := "bob") (k := "key") (by decide) rfl)
  have waiting : Runs initial ⟨⟨[⟨true, [⟨"bob", .asleep⟩, ⟨"carl", .asleep⟩]⟩], [("key", 0)], [("key", 3)]⟩, _, _⟩ :=
    .snoc queued (.queue (x := "carl") (k := "key") (by decide) rfl)
  have left : Runs initial ⟨⟨[⟨false, [⟨"bob", .called⟩, ⟨"carl", .asleep⟩]⟩], [("key", 0)], [("key", 2)]⟩, _, _⟩ :=
    .snoc waiting (.leave (x := "ann") (t := ⟨"key", 0⟩) (by decide) (by decide) rfl)
  have off : Runs initial ⟨⟨[⟨false, [⟨"bob", .calledWithdrawn⟩, ⟨"carl", .asleep⟩]⟩], [("key", 0)], [("key", 2)]⟩, _, _⟩ :=
    .snoc left (.callOff (x := "bob") (t := ⟨"key", 0⟩) (by decide))
  have given : Runs initial ⟨⟨[⟨false, [⟨"carl", .called⟩]⟩], [("key", 0)], [("key", 1)]⟩, _, _⟩ :=
    .snoc off (.abandon (x := "bob") (t := ⟨"key", 0⟩) (by decide) ⟨.calledWithdrawn, by decide, trivial⟩ rfl)
  have entered : Runs initial ⟨⟨[⟨true, []⟩], [("key", 0)], [("key", 1)]⟩, _, _⟩ :=
    .snoc given (.enter (x := "carl") (t := ⟨"key", 0⟩) (by decide) (by decide))
  exact ⟨_, entered, by decide, by decide, kept_apart entered⟩

end Crowd
end SubscriptionLedger
