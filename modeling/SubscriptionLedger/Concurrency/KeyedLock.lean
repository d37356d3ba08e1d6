namespace SubscriptionLedger

inductive Mark where
  | asleep
  -- it is its turn, but it has not run yet
  | called
  -- called off while asleep, not run yet
  | withdrawn
  -- called off after it was called, not run yet
  | calledWithdrawn
deriving DecidableEq, Repr

structure Waiter (τ : Type) where
  task : τ
  mark : Mark
deriving DecidableEq, Repr

structure Latch (τ : Type) where
  held : Bool
  queue : List (Waiter τ)
deriving DecidableEq, Repr

-- What a task keeps while it holds a key or waits for it; latches are known by their number.
structure Ticket where
  key : String
  latch : Nat
deriving DecidableEq, Repr

structure KeyedLock (τ : Type) where
  -- every latch that was ever made
  latches : List (Latch τ)
  -- the latch of each key in use
  current : List (String × Nat)
  -- how many tasks hold each key in use or wait for it
  users : List (String × Nat)
deriving DecidableEq, Repr

variable {τ : Type}

namespace Latch

def free : Latch τ := ⟨false, []⟩

-- Calls the first waiter, unless it is no longer asleep.
def callFirst (l : Latch τ) : Latch τ × Option τ :=
  match l.queue with
  | ⟨task, .asleep⟩ :: rest => ({ l with queue := ⟨task, .called⟩ :: rest }, some task)
  | _ => (l, none)

def release (l : Latch τ) : Latch τ × Option τ := { l with held := false }.callFirst

-- Nobody holds the latch, and nobody who waits will still take it.
def isOpen (l : Latch τ) : Bool := !l.held && l.queue.all (·.mark == .withdrawn)

def ask (l : Latch τ) (task : τ) : Latch τ × Bool :=
  if l.isOpen then ({ l with held := true }, true)
  else ({ l with queue := l.queue ++ [⟨task, .asleep⟩] }, false)

variable [DecidableEq τ]

def markOf? (l : Latch τ) (task : τ) : Option Mark := (l.queue.find? (·.task = task)).map (·.mark)

def remove (l : Latch τ) (task : τ) : Latch τ :=
  { l with queue := l.queue.eraseP (·.task = task) }

def enter (l : Latch τ) (task : τ) : Latch τ := { l.remove task with held := true }

-- A task that was called off leaves the queue, and lets another one be called if it is its turn.
def abandon (l : Latch τ) (task : τ) : Latch τ × Option τ :=
  let rest := l.remove task
  if rest.held then (rest, none) else rest.callFirst

def Mark.withdraw : Mark → Mark
  | .asleep => .withdrawn
  | .called => .calledWithdrawn
  | m => m

def withdraw (l : Latch τ) (task : τ) : Latch τ :=
  { l with queue := l.queue.map fun w => if w.task = task then { w with mark := Mark.withdraw w.mark } else w }

end Latch

namespace KeyedLock

def empty : KeyedLock τ := ⟨[], [], []⟩

def find? (key : String) (table : List (String × Nat)) : Option Nat :=
  (table.find? (·.1 = key)).map (·.2)

def set (key : String) (value : Nat) : List (String × Nat) → List (String × Nat)
  | [] => [(key, value)]
  | (k, v) :: rest => if k = key then (k, value) :: rest else (k, v) :: set key value rest

def erase (key : String) (table : List (String × Nat)) : List (String × Nat) :=
  table.eraseP (·.1 = key)

def latch (l : KeyedLock τ) (n : Nat) : Latch τ := l.latches[n]?.getD .free

def setLatch (l : KeyedLock τ) (n : Nat) (latch : Latch τ) : KeyedLock τ :=
  { l with latches := l.latches.set n latch }

def size (l : KeyedLock τ) : Nat := l.current.length

def locate (l : KeyedLock τ) (key : String) : KeyedLock τ × Nat :=
  match find? key l.current with
  | some n => (l, n)
  | none =>
    ({ l with latches := l.latches ++ [.free], current := set key l.latches.length l.current },
      l.latches.length)

def countUp (l : KeyedLock τ) (key : String) : KeyedLock τ :=
  { l with users := set key ((find? key l.users).getD 0 + 1) l.users }

-- One task less uses a key; the last one drops its latch. There is no result if nobody uses it.
def countDown? (l : KeyedLock τ) (key : String) : Option (KeyedLock τ) :=
  match find? key l.users with
  | none | some 0 => none
  | some 1 =>
    (find? key l.current).map fun _ =>
      { l with users := erase key l.users, current := erase key l.current }
  | some (n + 2) => some { l with users := set key (n + 1) l.users }

def ask (l : KeyedLock τ) (task : τ) (key : String) : KeyedLock τ × Ticket × Bool :=
  let (l, n) := l.locate key
  let l := l.countUp key
  let (latch, admitted) := (l.latch n).ask task
  (l.setLatch n latch, ⟨key, n⟩, admitted)

def leave? (l : KeyedLock τ) (t : Ticket) : Option (KeyedLock τ × Option τ) :=
  let (latch, called) := (l.latch t.latch).release
  ((l.setLatch t.latch latch).countDown? t.key).map fun l => (l, called)

variable [DecidableEq τ]

def enter (l : KeyedLock τ) (task : τ) (t : Ticket) : KeyedLock τ :=
  l.setLatch t.latch ((l.latch t.latch).enter task)

-- A waiting task is called off; it will find out when it runs again.
def withdraw (l : KeyedLock τ) (task : τ) (t : Ticket) : KeyedLock τ :=
  l.setLatch t.latch ((l.latch t.latch).withdraw task)

def abandon? (l : KeyedLock τ) (task : τ) (t : Ticket) : Option (KeyedLock τ × Option τ) :=
  let (latch, called) := (l.latch t.latch).abandon task
  ((l.setLatch t.latch latch).countDown? t.key).map fun l => (l, called)

end KeyedLock
end SubscriptionLedger
