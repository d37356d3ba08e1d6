import SubscriptionLedger.Concurrency.KeyedLock

namespace SubscriptionLedger

inductive Ending where
  | failed
  | cancelled
deriving DecidableEq, Repr

-- The tickets of a task, the latest first; a waiting task waits for the key of its latest one.
structure LockTask where
  name : String
  tickets : List Ticket
  isWaiting : Bool
deriving DecidableEq, Repr

structure LockTasks where
  lock : KeyedLock String
  tasks : List LockTask
  -- tasks and the keys they hold, in the order in which they entered
  inside : List (String × String)
  -- tasks and the keys they wait for, in the order in which they asked
  waiting : List (String × String)
  ended : List (String × Ending)
deriving DecidableEq, Repr

inductive LockMove where
  | enter (task key : String)
  | exit (task : String)
  | fail (task : String)
  | cancel (task : String)
deriving DecidableEq, Repr

namespace LockTasks

def initial : LockTasks := ⟨.empty, [], [], [], []⟩

def task? (s : LockTasks) (name : String) : Option LockTask := s.tasks.find? (·.name = name)

def setTask (s : LockTasks) (t : LockTask) : LockTasks :=
  if s.tasks.any (·.name = t.name) then
    { s with tasks := s.tasks.map fun u => if u.name = t.name then t else u }
  else { s with tasks := s.tasks ++ [t] }

def hasEnded (s : LockTasks) (name : String) : Bool := s.ended.any (·.1 = name)

def resume (s : LockTasks) (name : String) : LockTasks :=
  match s.task? name with
  | some ⟨_, ticket :: rest, true⟩ =>
    { s.setTask ⟨name, ticket :: rest, false⟩ with
      lock := s.lock.enter name ticket
      inside := s.inside ++ [(name, ticket.key)]
      waiting := s.waiting.erase (name, ticket.key) }
  | _ => s

def resumeAll (s : LockTasks) (called : List String) : LockTasks := called.foldl resume s

def letGo (s : LockTasks) (name : String) (ticket : Ticket) : LockTasks × List String :=
  match s.lock.leave? ticket with
  | some (lock, called) => ({ s with lock, inside := s.inside.erase (name, ticket.key) }, called.toList)
  | none => (s, [])

def letGoAll (s : LockTasks) (name : String) : List Ticket → LockTasks × List String
  | [] => (s, [])
  | ticket :: rest =>
    let (s, called) := s.letGo name ticket
    let (s, others) := letGoAll s name rest
    (s, called ++ others)

-- A waiting task is called off, and finds out at once.
def giveUp (s : LockTasks) (name : String) (ticket : Ticket) : LockTasks × List String :=
  match (s.lock.withdraw name ticket).abandon? name ticket with
  | some (lock, called) => ({ s with lock, waiting := s.waiting.erase (name, ticket.key) }, called.toList)
  | none => (s, [])

def finish (s : LockTasks) (t : LockTask) (ending : Ending) : LockTasks :=
  let (s, called) := match t.tickets, t.isWaiting with
    | ticket :: rest, true =>
      let (s, called) := s.giveUp t.name ticket
      let (s, others) := s.letGoAll t.name rest
      (s, called ++ others)
    | tickets, _ => s.letGoAll t.name tickets
  { s with
    tasks := s.tasks.filter (·.name ≠ t.name)
    ended := s.ended ++ [(t.name, ending)] }.resumeAll called

def enter (s : LockTasks) (name key : String) : LockTasks :=
  let tickets := (s.task? name).elim [] (·.tickets)
  let (lock, ticket, admitted) := s.lock.ask name key
  let s := s.setTask ⟨name, ticket :: tickets, !admitted⟩
  if admitted then { s with lock, inside := s.inside ++ [(name, key)] }
  else { s with lock, waiting := s.waiting ++ [(name, key)] }

def move? (s : LockTasks) : LockMove → Option LockTasks
  | .enter name key =>
    if s.hasEnded name || (s.task? name).any (·.isWaiting) then none else some (s.enter name key)
  | .exit name =>
    match s.task? name with
    | some ⟨_, ticket :: rest, false⟩ =>
      let (s, called) := (s.setTask ⟨name, rest, false⟩).letGo name ticket
      some (s.resumeAll called)
    | _ => none
  | .fail name =>
    match s.task? name with
    | some t => if t.isWaiting then none else some (s.finish t .failed)
    | none => none
  | .cancel name => (s.task? name).map fun t => s.finish t .cancelled

def cancelAll (s : LockTasks) : LockTasks :=
  s.tasks.foldl (fun s t => (s.move? (.cancel t.name)).getD s) s

end LockTasks
end SubscriptionLedger
