import SubscriptionLedger.Document.Basic
import SubscriptionLedger.Text.Basic

namespace SubscriptionLedger

-- What lies beyond the greatest number that a signed word of 64 bits holds.
def wordLimit : Int := 9223372036854775808

def fitsWord (n : Int) : Bool := -wordLimit ≤ n && n < wordLimit

end SubscriptionLedger

namespace SubscriptionLedger.Decimal

-- The greatest exponent of a first digit, and the least exponent of a last one.
def maxExponent : Int := 999999999999999999
def minExponent : Int := -1999999999999999997

def plainChars (s : String) : List Char :=
  ((Text.trim Text.isBlank s.toList).filter (· != '_')).map fun c =>
    match Text.digitValue? c with
    | some d => Char.ofNat (48 + d)
    | none => c

def unsigned : List Char → List Char
  | '-' :: rest | '+' :: rest => rest
  | cs => cs

def valueOf (ds : List Char) : Nat := Text.valueOf (ds.map fun c => c.toNat - 48)

def exponent? : List Char → Option Int
  | [] => some 0
  | c :: rest =>
    let ds := unsigned rest
    if c.toLower = 'e' && !ds.isEmpty && ds.all Char.isDigit then
      some (if rest.head? = some '-' then -(valueOf ds : Int) else valueOf ds)
    else none

def digits (cs : List Char) : List Char × List Char × List Char :=
  let whole := cs.takeWhile Char.isDigit
  match cs.dropWhile Char.isDigit with
  | '.' :: rest => (whole, rest.takeWhile Char.isDigit, rest.dropWhile Char.isDigit)
  | rest => (whole, [], rest)

def fits (coefficient : Nat) (exponent : Int) : Bool :=
  let first := exponent + ((Nat.toDigits 10 coefficient).length - 1 : Nat)
  minExponent ≤ exponent && first ≤ maxExponent

def isNumber (cs : List Char) : Bool :=
  let (whole, fraction, rest) := digits cs
  !(whole.isEmpty && fraction.isEmpty) &&
    (exponent? rest).any fun e => fits (valueOf (whole ++ fraction)) (e - fraction.length)

-- What stands for the infinite, and for no number at all, which may be followed by digits.
def isSpecial (cs : List Char) : Bool :=
  let small := cs.map Char.toLower
  small = "inf".toList || small = "infinity".toList ||
    ["nan".toList, "snan".toList].any fun word =>
      word.isPrefixOf small && (small.drop word.length).all Char.isDigit

def isDecimal (s : String) : Bool :=
  let cs := unsigned (plainChars s)
  isNumber cs || isSpecial cs

end SubscriptionLedger.Decimal

namespace SubscriptionLedger

inductive Misfit where
  -- a member was asked of something that is no object
  | notAnObject
  -- the kind of value has no meaning here
  | wrongKind
  -- a value of the right kind that has no meaning here
  | badValue
  -- a number beyond every range
  | tooLarge
  -- a time whose year cannot be counted
  | uncountable
  -- a member that must be there is absent
  | missing
  -- a value nested too deep to be looked through
  | tooDeep
  -- an amount that is no decimal number
  | badDecimal
deriving DecidableEq, Repr

-- Longer rows of digits are refused unread.
def maxDigits : Nat := 4300

def numeral? : List Char → Option (List Nat)
  | [] => none
  | c :: rest => (Text.digitValue? c).bind fun d => (go rest).map (d :: ·)
where
  go : List Char → Option (List Nat)
    | [] => some []
    | '_' :: c :: rest => (Text.digitValue? c).bind fun d => (go rest).map (d :: ·)
    | c :: rest => (Text.digitValue? c).bind fun d => (go rest).map (d :: ·)

-- The blanks that are dropped around the digits are those with the property White_Space. The separators
-- U+001C to U+001F are not among them and make the text no number.
def wholeOfText (s : String) : Except Misfit Int :=
  let cs := Text.trim Text.isWhiteSpace s.toList
  let (negative, body) := match cs with
    | '-' :: rest => (true, rest)
    | '+' :: rest => (false, rest)
    | _ => (false, cs)
  match numeral? body with
  | none => .error .badValue
  | some digits =>
    if maxDigits < digits.length then .error .badValue
    else .ok (Binary64.signed negative (Text.valueOf digits))

def Document.whole : Document → Except Misfit Int
  | .int n => .ok n
  | .bool b => .ok (if b then 1 else 0)
  | .real x =>
    match x.truncate? with
    | some n => .ok n
    | none => .error (if x = .nan then .badValue else .tooLarge)
  | .text s => wholeOfText s
  | _ => .error .wrongKind

end SubscriptionLedger
