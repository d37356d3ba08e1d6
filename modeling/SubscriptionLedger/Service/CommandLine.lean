import SubscriptionLedger.Failure.Fault

namespace SubscriptionLedger.CommandLine

inductive Flag where
  | help
  | reload
  | host
  | port
deriving DecidableEq, Repr

def flags : List (String × Flag) :=
  [("--help", .help), ("--reload", .reload), ("--host", .host), ("--port", .port)]

inductive Word where
  | plain
  -- an option, with what follows its equals sign
  | flag (f : Flag) (value : Option String)
  -- short for more than one option
  | unclear
  | unknown
deriving DecidableEq, Repr

def beginsWith : (front cs : List Char) → Bool
  | [], _ => true
  | _, [] => false
  | a :: as, b :: bs => a = b && beginsWith as bs

def isDigit (c : Char) : Bool := (Text.digitValue? c).isSome

def isNegativeNumber : List Char → Bool
  | '-' :: rest =>
    let whole := rest.takeWhile isDigit
    match rest.dropWhile isDigit with
    | [] => !whole.isEmpty
    | '.' :: fraction => !fraction.isEmpty && fraction.all isDigit
    | _ => false
  | _ => false

def cut (cs : List Char) : List Char × Option String :=
  match cs.dropWhile (· != '=') with
  | [] => (cs, none)
  | _ :: value => (cs.takeWhile (· != '='), some (String.ofList value))

def longWord (cs : List Char) : Word :=
  let (name, value) := cut cs
  match flags.filter fun f => f.1 == String.ofList name with
  | [(_, f)] => .flag f value
  | _ =>
    match flags.filter fun f => beginsWith name f.1.toList with
    | [(_, f)] => .flag f value
    | _ :: _ :: _ => .unclear
    | [] => if cs.contains ' ' then .plain else .unknown

-- The one option of a single letter. It may be said more than once, also behind one equals sign; other
-- letters glued to it are not understood.
def shortWord (cs : List Char) : Word :=
  match cs with
  | '-' :: 'h' :: letters =>
    let repeated := match letters with
      | '=' :: 'h' :: more => more
      | _ => letters
    .flag .help (if repeated.all (· = 'h') then none else some (String.ofList letters))
  | _ => if isNegativeNumber cs || cs.contains ' ' then .plain else .unknown

def Word.of (argument : String) : Word :=
  match argument.toList with
  | '-' :: '-' :: rest => longWord ('-' :: '-' :: rest)
  | '-' :: c :: rest => shortWord ('-' :: c :: rest)
  | _ => .plain

inductive Stop where
  -- help was asked for
  | help
  | usage
  | fault (f : Fault)
deriving DecidableEq, Repr

def Stop.code? : Stop → Option Nat
  | help => some 0
  | usage => some 2
  | fault _ => none

structure Options where
  reload : Bool := false
  host : Option String := none
  port : Option Int := none
  -- something was left over that nobody understands
  leftOver : Bool := false
deriving DecidableEq, Repr

def Options.setPort (o : Options) (value : String) : Except Stop Options :=
  match wholeOfText value with
  | .ok n => .ok { o with port := some n }
  | .error _ => .error .usage

def Options.set (o : Options) (f : Flag) (value : String) : Except Stop Options :=
  match f with
  | .host => .ok { o with host := some value }
  | .port => o.setPort value
  | .help | .reload => .error .usage

-- What follows an equals sign. Two hyphens there stand for no value at all.
def Options.setBehind (o : Options) (f : Flag) (value : String) : Except Stop Options :=
  match f with
  | .host => if value = "--" then .ok { o with host := none } else o.set f value
  | .port => if value = "--" then .ok { o with port := none } else o.set f value
  | .help | .reload => .error .usage

def Options.switch (o : Options) : Flag → Except Stop Options
  | .help => .error .help
  | _ => .ok { o with reload := true }

def takesValue : Flag → Bool
  | .host | .port => true
  | .help | .reload => false

def read (o : Options) : List String → Except Stop Options
  | [] => .ok o
  | "--" :: _ => .ok { o with leftOver := true }
  | [argument] =>
    match Word.of argument with
    | .plain | .unknown => .ok { o with leftOver := true }
    | .unclear => .error .usage
    | .flag f (some value) => o.setBehind f value
    | .flag f none => if takesValue f then .error .usage else o.switch f
  | argument :: next :: rest =>
    match Word.of argument with
    | .plain | .unknown => read { o with leftOver := true } (next :: rest)
    | .unclear => .error .usage
    | .flag f (some value) => (o.setBehind f value).bind fun o => read o (next :: rest)
    | .flag f none =>
      if takesValue f then
        if next ≠ "--" && Word.of next = .plain then (o.set f next).bind fun o => read o rest
        else .error .usage
      else (o.switch f).bind fun o => read o (next :: rest)

-- Whether an argument in front of two hyphens is short for more than one option.
def anyUnclear (arguments : List String) : Bool :=
  (arguments.takeWhile (· != "--")).any fun argument => Word.of argument = .unclear

def options (arguments : List String) : Except Stop Options := do
  if anyUnclear arguments then throw .usage
  let o ← read {} arguments
  if o.leftOver then throw .usage
  return o

def level? : String → Option String
  | "CRITICAL" | "FATAL" => some "CRITICAL"
  | "ERROR" => some "ERROR"
  | "WARNING" | "WARN" => some "WARNING"
  | "INFO" => some "INFO"
  | "DEBUG" => some "DEBUG"
  | "NOTSET" => some "NOTSET"
  | _ => none

structure Launch where
  host : String
  port : Int
  reload : Bool
  level : String
deriving DecidableEq, Repr

def target : String := "api:app"

def launchWith (o : Options) (s : Settings) : Except Stop Launch :=
  match level? (Text.upper s.logLevel) with
  | none => .error (.fault (.misfit .badValue))
  | some level =>
    let host := o.host.getD ""
    let port := o.port.getD 0
    .ok ⟨if host = "" then s.host else host, if port = 0 then s.port else port, o.reload || s.reload, level⟩

def launch (arguments : List String) (environment : Environment) : Except Stop Launch :=
  match options arguments with
  | .error stop => .error stop
  | .ok o =>
    match Settings.load environment with
    | .error f => .error (.fault f)
    | .ok s => launchWith o s

end SubscriptionLedger.CommandLine
