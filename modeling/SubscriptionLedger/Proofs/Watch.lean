import SubscriptionLedger.Proofs.Lock

namespace SubscriptionLedger

variable {τ : Type}

namespace Latch

-- A free latch has woken the first one in its queue.
def Alert (l : Latch τ) : Prop := l.held = false → ∀ w ∈ l.queue.head?, w.mark ≠ .asleep

variable {l : Latch τ}

theorem alert_free : (free : Latch τ).Alert := nofun

theorem alert_held (held : l.held = true) : l.Alert := by
  intro free
  rw [held] at free
  cases free

theorem alert_ask (alert : l.Alert) (x : τ) : (l.ask x).1.Alert := by
  unfold ask
  split
  · exact alert_held rfl
  · rename_i shut
    intro free w first
    -- somebody is in the queue, or the latch would be open
    cases queue : l.queue with
    | nil =>
      have opened : l.isOpen = true := isOpen_iff.2 ⟨free, by simp [queue]⟩
      exact absurd opened shut
    | cons v rest =>
      rw [queue] at first
      refine alert free w ?_
      rw [queue]
      exact first

theorem alert_callFirst (l : Latch τ) : l.callFirst.1.Alert := by
  unfold callFirst
  split
  · rintro - w ⟨⟩
    exact nofun
  · rename_i awake
    intro _ w first asleep
    obtain ⟨task, mark⟩ := w
    cases asleep
    obtain ⟨rest, queue⟩ := List.head?_eq_some_iff.1 first
    exact awake task rest queue

theorem alert_release (l : Latch τ) : l.release.1.Alert := alert_callFirst _

theorem Serves.busy {holds waits : τ → Prop} (serves : l.Serves holds waits) (loaded : 0 < l.load) : ∃ x, holds x ∨ waits x := by
  cases held : l.held with
  | true =>
    obtain ⟨x, inside⟩ := serves.held.1 held
    exact ⟨x, .inl inside⟩
  | false =>
    unfold load at loaded
    rw [held] at loaded
    cases queue : l.queue with
    | nil =>
      rw [queue] at loaded
      exact absurd loaded (Nat.lt_irrefl 0)
    | cons v rest =>
      refine ⟨v.task, .inr ((serves.queued _).1 ?_)⟩
      rw [queue]
      exact .head _

variable [DecidableEq τ]

theorem alert_withdraw (alert : l.Alert) (x : τ) : (l.withdraw x).Alert := by
  intro free w first
  unfold withdraw at first
  rw [List.head?_map] at first
  obtain ⟨v, there, rfl⟩ := Option.map_eq_some_iff.1 first
  have awake := alert free v there
  split
  · cases mark : v.mark with
    | asleep => exact absurd mark awake
    | _ => exact nofun
  · exact awake

theorem alert_abandon (l : Latch τ) (x : τ) : (l.abandon x).1.Alert := by
  unfold abandon
  dsimp only
  split
  · rename_i held
    exact alert_held held
  · exact alert_callFirst _

end Latch

namespace KeyedLock

-- A lock that knows where all tasks are, and wakes them in time.
structure Watches (l : KeyedLock τ) (place : τ → Place) : Prop extends l.Guards place where
  alert : ∀ key, (l.latchOf key).Alert

variable {l l' : KeyedLock τ} {place : τ → Place} {key : String} {t : Ticket} {x y : τ} {latch : Latch τ}

theorem Turns.alert (turns : Turns l l' key latch) (alert : ∀ key, (l.latchOf key).Alert) (here : latch.Alert) (other : String) :
    (l'.latchOf other).Alert := by
  by_cases same : other = key
  · rw [same, turns.here]
    exact here
  · rw [(turns.elsewhere other same).2]
    exact alert other

theorem empty_watches : (empty : KeyedLock τ).Watches fun _ => .away := ⟨empty_guards, fun _ => Latch.alert_free⟩

theorem Guards.idle (guards : l.Guards place) (away : ∀ x, place x = .away) : l.current = [] ∧ l.users = [] := by
  have unused : ∀ key, find? key l.current = none := by
    intro key
    cases found : find? key l.current with
    | none => rfl
    | some n =>
      have loaded := (guards.sound.used_iff key).2.2.1 (by rw [found]; rfl)
      obtain ⟨x, inside | outside⟩ := (guards.serves key).busy loaded
      · rw [away x] at inside
        exact inside.elim
      · rw [away x] at outside
        exact outside.elim
  have empty : ∀ table : List (String × Nat), (∀ key, find? key table = none) → table = [] := by
    intro table nothing
    cases table with
    | nil => rfl
    | cons pair rest =>
      have here := nothing pair.1
      rw [find?_pair, if_pos rfl] at here
      cases here
  exact ⟨empty _ unused, empty _ fun key => guards.sound.unused key (unused key)⟩

variable [DecidableEq τ]

theorem watches_ask (watches : l.Watches place) (away : place x = .away) (key : String) :
    ∃ l' n, l.ask x key = (l', ⟨key, n⟩, true) ∧ l'.Watches (Function.update place x (.inside ⟨key, n⟩)) ∨
      l.ask x key = (l', ⟨key, n⟩, false) ∧ l'.Watches (Function.update place x (.waiting ⟨key, n⟩)) := by
  obtain ⟨l', n, asked, turns, -⟩ := ask_turns watches.sound key x
  have alert := turns.alert watches.alert (Latch.alert_ask (watches.alert key) x)
  obtain ⟨l'', m, enters | waits, -⟩ := guards_ask watches.toGuards away key
  · obtain ⟨asked', guards, -⟩ := enters
    cases (Prod.mk.inj (asked.symm.trans asked')).1
    exact ⟨l', m, .inl ⟨asked', guards, alert⟩⟩
  · obtain ⟨asked', guards⟩ := waits
    cases (Prod.mk.inj (asked.symm.trans asked')).1
    exact ⟨l', m, .inr ⟨asked', guards, alert⟩⟩

theorem watches_leave (watches : l.Watches place) (inside : place x = .inside t) :
    ∃ l' called, l.leave? t = some (l', called) ∧ l'.Watches (Function.update place x .away) ∧
      (∀ y ∈ called, l'.Calls (Function.update place x .away) y) ∧
      ∀ other y, (l.latchOf other).Calls y → (l'.latchOf other).Calls y := by
  have held : (l.latchOf t.key).held = true := (watches.serves t.key).held.2 ⟨x, by rw [inside]; rfl⟩
  obtain ⟨l', left, turns⟩ := leave?_turns watches.sound (watches.tickets x t (.inr inside)) held
  obtain ⟨l'', called, left', guards, calls⟩ := guards_leave watches.toGuards inside
  cases (Prod.mk.inj (Option.some.inj (left.symm.trans left'))).1
  exact ⟨l', called, left', ⟨guards, turns.alert watches.alert (Latch.alert_release _)⟩, calls⟩

theorem watches_enter (watches : l.Watches place) (waits : place x = .waiting t) (calls : l.Calls place x) :
    (l.enter x t).Watches (Function.update place x (.inside t)) ∧
      ∀ other y, y ≠ x → (l.latchOf other).Calls y → ((l.enter x t).latchOf other).Calls y := by
  have found := watches.tickets x t (.inl waits)
  have turns := enter_turns watches.sound found (watches.serves t.key) (calls t waits)
  obtain ⟨guards, -, kept⟩ := guards_enter watches.toGuards waits calls
  exact ⟨⟨guards, turns.alert watches.alert (Latch.alert_held rfl)⟩, kept⟩

theorem watches_withdraw (watches : l.Watches place) (waits : place x = .waiting t) : (l.withdraw x t).Watches place := by
  have found := watches.tickets x t (.inl waits)
  have turns := withdraw_turns watches.sound found x
  have serves := Latch.serves_withdraw (watches.serves t.key) x
  have stays : Function.update place x (.waiting t) = place := by
    rw [← waits, Function.update_eq_self]
  have queued : (place x).Waiting t.key := by
    rw [waits]
    rfl
  have elsewhere : ∀ other, other ≠ t.key → ¬ (Place.waiting t).Inside other ∧ ¬ (Place.waiting t).Waiting other :=
    fun other distinct => ⟨fun none => none, fun same => distinct same.symm⟩
  refine ⟨?_, turns.alert watches.alert (Latch.alert_withdraw (watches.alert t.key) x)⟩
  rw [← stays]
  refine guards_turns watches.toGuards turns x (.waiting t) (by rw [waits]; exact elsewhere) elsewhere ?_ ?_
  · rintro u (⟨⟨⟩⟩ | ⟨⟨⟩⟩)
    exact turns.stays _ found (serves.loaded (.inr queued))
  · rw [stays]
    exact serves

theorem watches_giveUp (watches : l.Watches place) (waits : place x = .waiting t) :
    ∃ l' called, l.abandon? x t = some (l', called) ∧ l'.Watches (Function.update place x .away) := by
  have found := watches.tickets x t (.inl waits)
  have serves := watches.serves t.key
  have queued : (place x).Waiting t.key := by
    rw [waits]
    rfl
  obtain ⟨l', gone, turns⟩ := abandon?_turns watches.sound found ((serves.queued x).2 queued)
  refine ⟨l', _, gone, ?_, turns.alert watches.alert (Latch.alert_abandon _ x)⟩
  refine guards_turns watches.toGuards turns x .away ?_ (fun other _ => ⟨fun none => none, fun none => none⟩)
    (by rintro u (⟨⟨⟩⟩ | ⟨⟨⟩⟩)) ?_
  · intro other distinct
    rw [waits]
    exact ⟨fun none => none, fun same => distinct same.symm⟩
  · refine (Latch.serves_abandon serves x).1.update ⟨?_, iff_of_false (fun both => both.2 rfl) fun none => none⟩ fun y distinct =>
      ⟨Iff.rfl, fun both => both.1, fun there => ⟨there, distinct⟩⟩
    rw [waits]
    exact Iff.rfl

theorem Watches.marked_iff (watches : l.Watches place) (waits : place x = .waiting t) :
    (l.latch t.latch).markOf? x = some .called ↔ l.Calls place x := by
  have here := latchOf_of_find? (watches.tickets x t (.inl waits))
  constructor
  · intro marked u there
    cases waits.symm.trans there
    rw [here]
    exact Latch.mem_of_markOf? marked
  · intro calls
    obtain ⟨-, rest, queue⟩ := (watches.serves t.key).called (calls t waits)
    rw [here] at queue
    unfold Latch.markOf?
    rw [queue, List.find?_cons_of_pos (by simp)]
    rfl

theorem Watches.first (watches : l.Watches place) (waits : (place x).Waiting key) (nobody : ∀ y, ¬ (place y).Inside key) :
    ∃ y t m, place y = .waiting t ∧ (l.latch t.latch).markOf? y = some m ∧ m ≠ .asleep := by
  have serves := watches.serves key
  have free : (l.latchOf key).held = false := by
    cases held : (l.latchOf key).held with
    | false => rfl
    | true =>
      obtain ⟨y, inside⟩ := serves.held.1 held
      exact absurd inside (nobody y)
  have queued := (serves.queued x).2 waits
  cases queue : (l.latchOf key).queue with
  | nil =>
    rw [queue] at queued
    cases queued
  | cons v rest =>
    have awake : v.mark ≠ .asleep := watches.alert key free v (by rw [queue]; rfl)
    have there : (place v.task).Waiting key := (serves.queued _).1 (by rw [queue]; exact .head _)
    cases here : place v.task with
    | waiting t =>
      rw [here] at there
      cases there
      refine ⟨v.task, t, v.mark, here, ?_, awake⟩
      rw [← latchOf_of_find? (watches.tickets _ t (.inl here))]
      unfold Latch.markOf?
      rw [queue, List.find?_cons_of_pos (by simp)]
      rfl
    | away | inside =>
      rw [here] at there
      exact there.elim

end KeyedLock
end SubscriptionLedger
