import SubscriptionLedger.Document.Number

namespace SubscriptionLedger

inductive Complaint where
  | value
  | memberName
  | colon
  | comma
  | extraData
  | unterminated
  | controlCharacter
  | escape
  | unicodeEscape
  | byteOrderMark
  -- a row of digits too long to be read
  | tooManyDigits (count : Nat)
  -- a list or an object nested too deep
  | tooDeep (object : Bool)
deriving DecidableEq, Repr

structure ReadError where
  complaint : Complaint
  position : Nat
deriving DecidableEq, Repr

def Complaint.message : Complaint → String
  | .value => "Expecting value"
  | .memberName => "Expecting property name enclosed in double quotes"
  | .colon => "Expecting ':' delimiter"
  | .comma => "Expecting ',' delimiter"
  | .extraData => "Extra data"
  | .unterminated => "Unterminated string starting at"
  | .controlCharacter => "Invalid control character at"
  | .escape => "Invalid \\escape"
  | .unicodeEscape => "Invalid \\uXXXX escape"
  | .byteOrderMark => "Unexpected UTF-8 BOM (decode using utf-8-sig)"
  | .tooManyDigits count =>
    "Exceeds the limit (" ++ toString maxDigits ++ " digits) for integer string conversion: value has " ++
      toString count ++ " digits; use sys.set_int_max_str_digits() to increase the limit"
  | .tooDeep object =>
    "maximum recursion depth exceeded while decoding a JSON " ++ (if object then "object" else "array") ++
      " from a unicode string"

def Complaint.isFormal : Complaint → Bool
  | .tooManyDigits _ | .tooDeep _ => false
  | _ => true

def ReadError.describe (text : List Char) (e : ReadError) : String :=
  let before := text.take e.position
  let line := before.count '\n' + 1
  let column := (before.reverse.takeWhile (· != '\n')).length + 1
  e.complaint.message ++
    if e.complaint.isFormal then
      ": line " ++ toString line ++ " column " ++ toString column ++ " (char " ++ toString e.position ++ ")"
    else ""

namespace Document.Reader

-- What was read, what is left of the text, and the position where that begins.
abbrev Read (α : Type) := Except ReadError (α × List Char × Nat)

def isSpace (c : Char) : Bool := c = ' ' || c = '\t' || c = '\n' || c = '\r'

def skip : List Char → Nat → List Char × Nat
  | c :: rest, pos => if isSpace c then skip rest (pos + 1) else (c :: rest, pos)
  | [], pos => ([], pos)

def hex4? (a b c d : Char) : Option Nat := do
  return (((← Text.Hex.value? a) * 16 + (← Text.Hex.value? b)) * 16 + (← Text.Hex.value? c)) * 16 +
    (← Text.Hex.value? d)

def simpleEscape? : Char → Option Char
  | '"' => some '"'
  | '\\' => some '\\'
  | '/' => some '/'
  | 'b' => some '\x08'
  | 'f' => some '\x0c'
  | 'n' => some '\n'
  | 'r' => some '\r'
  | 't' => some '\t'
  | _ => none

def string (start : Nat) (done : List Char) : List Char → Nat → Read String
  | [], _ => .error ⟨.unterminated, start⟩
  | '"' :: rest, pos => .ok (String.ofList done.reverse, rest, pos + 1)
  | ['\\'], _ => .error ⟨.unterminated, start⟩
  | '\\' :: 'u' :: a :: b :: c :: d :: '\\' :: 'u' :: a' :: b' :: c' :: d' :: e :: rest, pos =>
    match hex4? a b c d with
    | none => .error ⟨.unicodeEscape, pos + 1⟩
    | some n =>
      match (if Text.Surrogate.isHigh n then hex4? a' b' c' d' else none) with
      | some low =>
        if Text.Surrogate.isLow low then
          string start (Text.Surrogate.join n low :: done)
            (e :: rest) (pos + 12)
        else string start (Text.Surrogate.ofCode n :: done) ('\\' :: 'u' :: a' :: b' :: c' :: d' :: e :: rest) (pos + 6)
      | none =>
        string start (Text.Surrogate.ofCode n :: done) ('\\' :: 'u' :: a' :: b' :: c' :: d' :: e :: rest) (pos + 6)
  | '\\' :: 'u' :: a :: b :: c :: d :: e :: rest, pos =>
    match hex4? a b c d with
    | none => .error ⟨.unicodeEscape, pos + 1⟩
    | some n => string start (Text.Surrogate.ofCode n :: done) (e :: rest) (pos + 6)
  | '\\' :: 'u' :: _, pos => .error ⟨.unicodeEscape, pos + 1⟩
  | '\\' :: c :: rest, pos =>
    match simpleEscape? c with
    | some c => string start (c :: done) rest (pos + 2)
    | none => .error ⟨.escape, pos⟩
  | c :: rest, pos =>
    if c.toNat < 0x20 then .error ⟨.controlCharacter, pos⟩ else string start (c :: done) rest (pos + 1)

def digits (cs : List Char) : List Char × List Char := (cs.takeWhile Char.isDigit, cs.dropWhile Char.isDigit)

def ofDigits (ds : List Char) : Nat := Text.valueOf (ds.map fun c => c.toNat - 48)

-- An exponent that has digits; one without is left unread.
def exponent? : List Char → Option (Int × List Char)
  | c :: rest =>
    if c = 'e' || c = 'E' then
      let (negative, body) := match rest with
        | '-' :: r => (true, r)
        | '+' :: r => (false, r)
        | _ => (false, rest)
      let (ds, left) := digits body
      if ds.isEmpty then none else some (Binary64.signed negative (ofDigits ds), left)
    else none
  | [] => none

def fraction? : List Char → Option (List Char × List Char)
  | '.' :: rest => let (ds, left) := digits rest; if ds.isEmpty then none else some (ds, left)
  | _ => none

def number (cs : List Char) (pos : Nat) : Read Document :=
  let (negative, body) := match cs with
    | '-' :: rest => (true, rest)
    | _ => (false, cs)
  let whole := match body with
    | '0' :: rest => (['0'], rest)
    | _ => digits body
  let (ds, left) := whole
  if ds.isEmpty then .error ⟨.value, pos⟩
  else
    let fraction := fraction? left
    let (fs, left) := fraction.getD ([], left)
    let power := exponent? left
    let (e, left) := power.getD (0, left)
    let after := pos + (cs.length - left.length)
    if fraction.isSome || power.isSome then
      .ok (.real (Binary64.ofDecimal negative (ofDigits (ds ++ fs)) (e - fs.length)), left, after)
    else if maxDigits < ds.length then .error ⟨.tooManyDigits ds.length, pos⟩
    else .ok (.int (Binary64.signed negative (ofDigits ds)), left, after)

def maxDepth : Nat := 980

mutual
-- The fuel bounds the steps; twice the length of the text is always enough. `depth` more lists and
-- objects may be entered.
def value (fuel depth : Nat) (cs : List Char) (pos : Nat) : Read Document :=
  match fuel with
  | 0 => .error ⟨.value, pos⟩
  | fuel + 1 =>
    match cs with
    | '"' :: rest => (string pos [] rest (pos + 1)).map fun (s, r) => (.text s, r)
    | '\x7b' :: rest =>
      match depth with
      | 0 => .error ⟨.tooDeep true, pos⟩
      | depth + 1 =>
        match skip rest (pos + 1) with
        | ('\x7d' :: rest, p) => .ok (.object [], rest, p + 1)
        | (rest, p) => members fuel depth [] rest p
    | '[' :: rest =>
      match depth with
      | 0 => .error ⟨.tooDeep false, pos⟩
      | depth + 1 =>
        match skip rest (pos + 1) with
        | (']' :: rest, p) => .ok (.list [], rest, p + 1)
        | (rest, p) => items fuel depth [] rest p
    | 'n' :: 'u' :: 'l' :: 'l' :: rest => .ok (.null, rest, pos + 4)
    | 't' :: 'r' :: 'u' :: 'e' :: rest => .ok (.bool true, rest, pos + 4)
    | 'f' :: 'a' :: 'l' :: 's' :: 'e' :: rest => .ok (.bool false, rest, pos + 5)
    | 'N' :: 'a' :: 'N' :: rest => .ok (.real .nan, rest, pos + 3)
    | 'I' :: 'n' :: 'f' :: 'i' :: 'n' :: 'i' :: 't' :: 'y' :: rest =>
      .ok (.real (.infinite false), rest, pos + 8)
    | '-' :: 'I' :: 'n' :: 'f' :: 'i' :: 'n' :: 'i' :: 't' :: 'y' :: rest =>
      .ok (.real (.infinite true), rest, pos + 9)
    | cs => number cs pos

def items (fuel depth : Nat) (done : List Document) (cs : List Char) (pos : Nat) : Read Document :=
  match fuel with
  | 0 => .error ⟨.value, pos⟩
  | fuel + 1 =>
    match value fuel depth cs pos with
    | .error e => .error e
    | .ok (d, rest, p) =>
      match skip rest p with
      | (']' :: rest, p) => .ok (.list (d :: done).reverse, rest, p + 1)
      | (',' :: rest, p) => let (rest, p) := skip rest (p + 1); items fuel depth (d :: done) rest p
      | (_, p) => .error ⟨.comma, p⟩

def members (fuel depth : Nat) (done : Members) (cs : List Char) (pos : Nat) : Read Document :=
  match fuel with
  | 0 => .error ⟨.value, pos⟩
  | fuel + 1 =>
    match cs with
    | '"' :: rest =>
      match string pos [] rest (pos + 1) with
      | .error e => .error e
      | .ok (name, rest, p) =>
        match skip rest p with
        | (':' :: rest, p) =>
          let (rest, p) := skip rest (p + 1)
          match value fuel depth rest p with
          | .error e => .error e
          | .ok (d, rest, p) =>
            let done := done.put name d
            match skip rest p with
            | ('\x7d' :: rest, p) => .ok (.object done, rest, p + 1)
            | (',' :: rest, p) => let (rest, p) := skip rest (p + 1); members fuel depth done rest p
            | (_, p) => .error ⟨.comma, p⟩
        | (_, p) => .error ⟨.colon, p⟩
    | _ => .error ⟨.memberName, pos⟩
end

end Document.Reader

def Document.readUnmarked (cs : List Char) : Except ReadError Document :=
  let (start, p) := Reader.skip cs 0
  match Reader.value (2 * cs.length + 2) Reader.maxDepth start p with
  | .error e => .error e
  | .ok (d, rest, p) =>
    match Reader.skip rest p with
    | ([], _) => .ok d
    | (_, p) => .error ⟨.extraData, p⟩

-- A byte order mark belongs to bytes; a text must not begin with one.
def Document.readChars (cs : List Char) : Except ReadError Document :=
  if cs.head? = some (Char.ofNat 0xFEFF) then .error ⟨.byteOrderMark, 0⟩ else readUnmarked cs

def Document.read (s : String) : Except ReadError Document := Document.readChars s.toList

end SubscriptionLedger
