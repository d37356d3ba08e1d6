import SubscriptionLedger.Program

namespace SubscriptionLedger

inductive Disturbance where
  | fault (f : Fault)
  | put (table : Table) (row : Row)
  | drop (table : Table) (id : Document)

structure Surroundings where
  now : Moment
  provider : PaymentRequest → Except Fault PaymentReply
  -- what happens before the call of a number; the first call has the number 1
  disturbances : Nat → List Disturbance

structure Journal where
  store : Store
  calls : List Call := []
  payments : List PaymentRequest := []

namespace Disturbance

-- Lets disturbances happen in turn, up to the first that is a fault.
def happen (s : Store) : List Disturbance → Except Fault Unit × Store
  | [] => (.ok (), s)
  | fault f :: _ => (.error f, s)
  | put table row :: rest => happen (s.put table row) rest
  | drop table id :: rest => happen (s.drop table id) rest

end Disturbance

namespace Journal

def ask (w : Surroundings) (j : Journal) (q : Query) : Except Fault q.Reply × Journal :=
  let calls := j.calls ++ [q.call w.now]
  match Disturbance.happen j.store (w.disturbances calls.length) with
  | (.error f, store) => (q.answer (.error f), { j with store, calls })
  | (.ok (), store) =>
    let (reply, store) := store.ask w.now q
    (reply, { j with store, calls })

end Journal

namespace Program

variable {α : Type}

-- Runs a program alone; every key is free.
def run (w : Surroundings) : Program α → Journal → Except Fault α × Journal
  | done a, j => (.ok a, j)
  | fail f, j => (.error f, j)
  | ask q next, j =>
    let (reply, j) := j.ask w q
    run w (next reply) j
  | pay r next, j => run w (next (w.provider r)) { j with payments := j.payments ++ [r] }
  | acquire _ next, j => run w (next (.ok ())) j
  | release _ next, j => run w next j

end Program
end SubscriptionLedger
