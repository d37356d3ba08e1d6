import SubscriptionLedger.Failure.Fault

namespace SubscriptionLedger

structure Connection where
  -- the number of the client in use
  client : Option Nat := none
  -- address and key of every client that was ever made, in order
  made : List (String × String) := []
deriving DecidableEq, Repr

namespace Connection

def establish (c : Connection) (settings : Except Fault Settings) : Except Fault Nat × Connection :=
  match c.client with
  | some n => (.ok n, c)
  | none =>
    match settings with
    | .error f => (.error f, c)
    | .ok s =>
      if s.databaseUrl = "" || s.databaseKey = "" then (.error .notConfigured, c)
      else
        let n := c.made.length + 1
        (.ok n, { client := some n, made := c.made ++ [(s.databaseUrl, s.databaseKey)] })

def get (c : Connection) : Except Fault Nat :=
  match c.client with
  | some n => .ok n
  | none => .error .notConnected

def drop (c : Connection) : Connection := { c with client := none }

theorem get_drop (c : Connection) : c.drop.get = .error .notConnected := rfl

theorem get_establish (c : Connection) (settings : Except Fault Settings) {n : Nat}
    (h : (c.establish settings).1 = .ok n) : (c.establish settings).2.get = .ok n := by
  unfold establish at h ⊢
  split at h <;> rename_i hc
  · simp_all [get]
  · split at h <;> rename_i hs
    · simp at h
    · split at h
      · simp at h
      · simp_all [get]

end Connection

inductive Component where
  | auth
  | users
  | products
  | billings
  | reconciler
  | billing
deriving DecidableEq, Repr

namespace Component

def plan : Component → List Component
  | auth => [auth]
  | users => [users]
  | products => [products]
  | billings => [billings]
  | reconciler => [billings, products, users, reconciler]
  | billing => [billings, products, users, reconciler, billing]

def needsStore : Component → Bool
  | users | products | billings => true
  | _ => false

def needsSettings : Component → Bool
  | auth | billing => true
  | _ => false

end Component

-- Every instance has a number of its own, which no later one gets again.
structure Container where
  instances : List (Component × Nat) := []
  made : Nat := 0
deriving DecidableEq, Repr

namespace Container

def instance? (c : Container) (part : Component) : Option Nat :=
  (c.instances.find? (·.1 = part)).map (·.2)

def make (connection : Connection) (c : Container) (part : Component) : Except Fault Container :=
  if (c.instance? part).isSome then .ok c
  else if part.needsStore && connection.client.isNone then .error .notConnected
  else .ok { instances := (part, c.made) :: c.instances, made := c.made + 1 }

-- Makes parts in turn; those made before one that fails stay.
def makeAll (connection : Connection) (c : Container) : List Component → Except Fault Unit × Container
  | [] => (.ok (), c)
  | part :: rest =>
    match c.make connection part with
    | .ok c => makeAll connection c rest
    | .error f => (.error f, c)

def get (connection : Connection) (settings : Except Fault Settings) (c : Container) (part : Component) :
    Except Fault Nat × Container :=
  match c.instance? part with
  | some n => (.ok n, c)
  | none =>
    match (if part.needsSettings then settings.map fun _ => () else .ok ()) with
    | .error f => (.error f, c)
    | .ok () =>
      match c.makeAll connection part.plan with
      | (.error f, c) => (.error f, c)
      | (.ok (), c) => (.ok ((c.instance? part).getD 0), c)

def reset (c : Container) : Container := { c with instances := [] }

end Container
end SubscriptionLedger
