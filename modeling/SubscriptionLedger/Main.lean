import SubscriptionLedger.Service.CommandLine

open SubscriptionLedger

namespace SubscriptionLedger.CommandLine

def usage : String := "usage: subscription-ledger [-h] [--reload] [--host HOST] [--port PORT]"

def variableNames : List String := (Settings.plainNames ++ Settings.listNames).map Text.upper

def readEnvironment : List String → IO Environment
  | [] => return []
  | name :: rest => do
    let others ← readEnvironment rest
    match ← IO.getEnv name with
    | some value => return (name, value) :: others
    | none => return others

def describe (l : Launch) : String :=
  l.level ++ ": " ++ target ++ " on " ++ l.host ++ ":" ++ toString l.port ++
    if l.reload then " with reload" else ""

end SubscriptionLedger.CommandLine

open CommandLine in
def main (arguments : List String) : IO UInt32 := do
  match launch arguments (← readEnvironment variableNames) with
  | .ok l =>
    IO.println (describe l)
    return 0
  | .error .help =>
    IO.println usage
    return 0
  | .error .usage =>
    IO.eprintln usage
    return 2
  | .error (.fault _) =>
    IO.eprintln "the settings cannot be used"
    return 1
