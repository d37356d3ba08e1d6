import SubscriptionLedger.Concurrency.KeyedLock
import SubscriptionLedger.Program

namespace SubscriptionLedger

inductive Stage (α : Type) where
  | fresh (p : Program α)
  | standing (q : Query) (next : Except Fault q.Reply → Program α)
  | waiting (ticket : Ticket) (next : Except Fault Unit → Program α)
  | finished (result : Except Fault α)

structure Job (α : Type) where
  id : String
  bench : Nat
  -- the tickets of the keys that it holds
  tickets : List Ticket
  stage : Stage α

structure World (α : Type) where
  now : Moment
  store : Store
  -- the lock of each bench
  locks : List (KeyedLock String)
  jobs : List (Job α)

variable {α : Type}

-- What a task has become after it ran on, and whom it called by letting go of keys.
structure Progress (α : Type) where
  lock : KeyedLock String
  tickets : List Ticket
  stage : Stage α
  called : List String

def takeTicket (key : String) (tickets : List Ticket) : Option Ticket × List Ticket :=
  (tickets.find? (·.key = key), tickets.eraseP (·.key = key))

namespace Program

-- Runs on to the next call, the next key that is taken, or the end. Nobody here pays.
def runOn (task : String) : KeyedLock String → List Ticket → Program α → Progress α
  | lock, tickets, done a => ⟨lock, tickets, .finished (.ok a), []⟩
  | lock, tickets, fail f => ⟨lock, tickets, .finished (.error f), []⟩
  | lock, tickets, ask q next => ⟨lock, tickets, .standing q next, []⟩
  | lock, tickets, pay _ next => runOn task lock tickets (next (.error .connection))
  | lock, tickets, acquire key next =>
    let (lock, ticket, admitted) := lock.ask task key
    if admitted then runOn task lock (ticket :: tickets) (next (.ok ()))
    else ⟨lock, tickets, .waiting ticket next, []⟩
  | lock, tickets, release key next =>
    match takeTicket key tickets with
    | (none, _) => runOn task lock tickets next
    | (some ticket, rest) =>
      match lock.leave? ticket with
      | none => runOn task lock rest next
      | some (lock, called) =>
        let p := runOn task lock rest next
        { p with called := called.toList ++ p.called }

end Program

namespace World

def job? (w : World α) (id : String) : Option (Job α) := w.jobs.find? (·.id = id)

def lock (w : World α) (bench : Nat) : KeyedLock String := w.locks[bench]?.getD .empty

def settle (w : World α) (t : Job α) (p : Progress α) : World α × List String :=
  ({ w with
      locks := w.locks.set t.bench p.lock
      jobs := w.jobs.map fun u => if u.id = t.id then { t with tickets := p.tickets, stage := p.stage } else u },
    p.called)

def start (w : World α) (t : Job α) (p : Program α) : World α × List String :=
  w.settle t (p.runOn t.id (w.lock t.bench) t.tickets)

def carryOut (w : World α) (t : Job α) (q : Query) (next : Except Fault q.Reply → Program α) :
    World α × List String :=
  let (reply, store) := w.store.ask w.now q
  { w with store }.settle t ((next reply).runOn t.id (w.lock t.bench) t.tickets)

def resume (w : World α) (id : String) : World α × List String :=
  match w.job? id with
  | some t =>
    match t.stage with
    | .waiting ticket next =>
      w.settle t ((next (.ok ())).runOn id ((w.lock t.bench).enter id ticket) (ticket :: t.tickets))
    | _ => (w, [])
  | none => (w, [])

-- Everyone who was called runs on, and so does everyone whom they call.
def resumeAll (fuel : Nat) (w : World α) (called : List String) : World α :=
  match fuel, called with
  | 0, _ | _, [] => w
  | fuel + 1, id :: rest =>
    let (w, more) := w.resume id
    resumeAll fuel w (rest ++ more)

def resumeCalled (w : World α) (called : List String) : World α := w.resumeAll (2 * w.jobs.length + 1) called

-- One turn of a task: it starts, or makes the call it stands before; the call comes along. A task
-- that waits for a key, or is finished, does nothing.
def advance (w : World α) (id : String) : World α × Option Call :=
  match w.job? id with
  | none => (w, none)
  | some t =>
    match t.stage with
    | .fresh p =>
      let (w, called) := w.start t p
      (w.resumeCalled called, none)
    | .standing q next =>
      let (w', called) := w.carryOut t q next
      (w'.resumeCalled called, some (q.call w.now))
    | .waiting _ _ | .finished _ => (w, none)

def isFinished (t : Job α) : Bool :=
  match t.stage with
  | .finished _ => true
  | _ => false

structure Turn (α : Type) where
  id : String
  call : Option Call
  world : World α

def turns (w : World α) : List String → List (Turn α) × World α
  | [] => ([], w)
  | id :: rest =>
    let (w', call) := w.advance id
    let (later, last) := turns w' rest
    (⟨id, call, w'⟩ :: later, last)

def round (w : World α) : List String → List (Turn α) × World α
  | [] => ([], w)
  | id :: rest =>
    if (w.job? id).all isFinished then round w rest
    else
      let (w', call) := w.advance id
      let (later, last) := round w' rest
      (⟨id, call, w'⟩ :: later, last)

def rounds (fuel : Nat) (w : World α) : List (Turn α) × World α :=
  match fuel with
  | 0 => ([], w)
  | fuel + 1 =>
    if w.jobs.all isFinished then ([], w)
    else
      let (now, w) := w.round (w.jobs.map (·.id))
      let (later, last) := rounds fuel w
      (now ++ later, last)

-- No reconciliation makes more calls than this.
def callBound : Nat := 10

def play (w : World α) (schedule : List String) : List (Turn α) × World α :=
  let (first, w) := w.turns schedule
  let (later, last) := w.rounds (callBound * (w.jobs.length + 1))
  (first ++ later, last)

end World

-- What becomes of a call. A task that is called off at a call sees the call fail.
inductive Handling where
  | carried
  -- it fails before it reaches the store
  | refused (f : Fault)
  -- it is carried out, and its reply is lost
  | lost (f : Fault)
  -- it is answered in any other way, and the store is as others have left it by then
  | answered (reply : (q : Query) → Except Fault q.Reply) (after : Store)

def Store.handle (s : Store) (now : Moment) (q : Query) : Handling → Except Fault q.Reply × Store
  | .carried => s.ask now q
  | .refused f => (q.answer (.error f), s)
  | .lost f => (q.answer (.error f), (s.ask now q).2)
  | .answered reply after => (reply q, after)

inductive Act where
  | start
  | call (now : Moment) (handling : Handling)
  -- a task that was called takes its key
  | enter
  -- a task that was called off while it waited gives up
  | giveUp
  -- a task is called off that has not started, or waits for a key
  | callOff

def Mark.isOff : Mark → Bool
  | .withdrawn | .calledWithdrawn => true
  | .asleep | .called => false

structure Move where
  id : String
  act : Act

def Act.Own : Act → Prop
  | .callOff => False
  | _ => True

def Job.act? (t : Job α) (s : Store) (lock : KeyedLock String) (act : Act) : Option (Store × Progress α) :=
  match act, t.stage with
  | .start, .fresh p => some (s, p.runOn t.id lock t.tickets)
  | .call now handling, .standing q next =>
    let (reply, s) := s.handle now q handling
    some (s, (next reply).runOn t.id lock t.tickets)
  | .enter, .waiting ticket next =>
    if (lock.latch ticket.latch).markOf? t.id = some .called then
      some (s, (next (.ok ())).runOn t.id (lock.enter t.id ticket) (ticket :: t.tickets))
    else none
  | .giveUp, .waiting ticket next =>
    if ((lock.latch ticket.latch).markOf? t.id).any Mark.isOff then
      (lock.abandon? t.id ticket).map fun (lock, _) => (s, (next (.error .cancelled)).runOn t.id lock t.tickets)
    else none
  | .callOff, .fresh _ => some (s, ⟨lock, t.tickets, .finished (.error .cancelled), []⟩)
  | .callOff, .waiting ticket next => some (s, ⟨lock.withdraw t.id ticket, t.tickets, .waiting ticket next, []⟩)
  | _, _ => none

namespace World

def move? (w : World α) (m : Move) : Option (World α) :=
  (w.job? m.id).bind fun t =>
    (t.act? w.store (w.lock t.bench) m.act).map fun (store, p) => ({ w with store }.settle t p).1

def moves? (w : World α) : List Move → Option (World α)
  | [] => some w
  | m :: rest => (w.move? m).bind (moves? · rest)

end World
end SubscriptionLedger
