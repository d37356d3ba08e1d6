import SubscriptionLedger.Document.Basic
import SubscriptionLedger.Text.Letter

namespace SubscriptionLedger.Document

def hexDigits (width n : Nat) : List Char :=
  (List.range width).reverse.map fun place => Text.Hex.digit (n / Nat.pow 16 place % 16)

def quotedChar (quote c : Char) : List Char :=
  if c = quote || c = '\\' then ['\\', c]
  else if c = '\n' then ['\\', 'n']
  else if c = '\r' then ['\\', 'r']
  else if c = '\t' then ['\\', 't']
  else if let some half := Text.Surrogate.half? c then '\\' :: 'u' :: hexDigits 4 half
  else if Text.isVisible c then [c]
  else if c.toNat < 0x100 then '\\' :: 'x' :: hexDigits 2 c.toNat
  else if c.toNat < 0x10000 then '\\' :: 'u' :: hexDigits 4 c.toNat
  else '\\' :: 'U' :: hexDigits 8 c.toNat

def quoted (s : String) : String :=
  let quote := if s.toList.contains '\'' && !s.toList.contains '"' then '"' else '\''
  String.ofList (quote :: s.toList.flatMap (quotedChar quote) ++ [quote])

mutual
-- Inside another document a text is quoted, with single quotes unless it holds some and no double ones.
def inner : Document → String
  | .null => "None"
  | .bool b => if b then "True" else "False"
  | .int n => toString n
  | .real x => x.text
  | .text s => quoted s
  | .list items => "[" ++ innerList items ++ "]"
  | .object members => "\x7b" ++ innerMembers members ++ "\x7d"

def innerList : List Document → String
  | [] => ""
  | [d] => inner d
  | d :: rest => inner d ++ ", " ++ innerList rest

def innerMembers : Members → String
  | [] => ""
  | [(name, d)] => quoted name ++ ": " ++ inner d
  | (name, d) :: rest => quoted name ++ ": " ++ inner d ++ ", " ++ innerMembers rest
end

def display : Document → String
  | .text s => s
  | d => inner d

@[simp] theorem display_text (s : String) : (Document.text s).display = s := rfl

def unicodeEscape (n : Nat) : List Char := '\\' :: 'u' :: hexDigits 4 n

def escapedChar (c : Char) : List Char :=
  if c = '"' then ['\\', '"']
  else if c = '\\' then ['\\', '\\']
  else if c = '\n' then ['\\', 'n']
  else if c = '\r' then ['\\', 'r']
  else if c = '\t' then ['\\', 't']
  else if let some half := Text.Surrogate.half? c then unicodeEscape half
  else if 0x20 ≤ c.toNat && c.toNat < 0x7F then [c]
  else if c.toNat < 0x10000 then unicodeEscape c.toNat
  else
    let n := c.toNat - 0x10000
    unicodeEscape (0xD800 + n / 0x400) ++ unicodeEscape (0xDC00 + n % 0x400)

def renderText (s : String) : String := String.ofList ('"' :: s.toList.flatMap escapedChar ++ ['"'])

def renderReal : Binary64 → String
  | .nan => "NaN"
  | .infinite negative => if negative then "-Infinity" else "Infinity"
  | x => x.text

mutual
def render : Document → String
  | .null => "null"
  | .bool b => if b then "true" else "false"
  | .int n => toString n
  | .real x => renderReal x
  | .text s => renderText s
  | .list items => "[" ++ renderList items ++ "]"
  | .object members => "\x7b" ++ renderMembers members ++ "\x7d"

def renderList : List Document → String
  | [] => ""
  | [d] => render d
  | d :: rest => render d ++ "," ++ renderList rest

def renderMembers : Members → String
  | [] => ""
  | [(name, d)] => renderText name ++ ":" ++ render d
  | (name, d) :: rest => renderText name ++ ":" ++ render d ++ "," ++ renderMembers rest
end

mutual
-- Whether a document can be sent: all numbers in it are finite, and no text holds half of a pair.
def isStandard : Document → Bool
  | .real x => x.isFinite
  | .text s => !Text.Surrogate.hasHalf s
  | .list items => isStandardList items
  | .object members => isStandardMembers members
  | _ => true

def isStandardList : List Document → Bool
  | [] => true
  | d :: rest => isStandard d && isStandardList rest

def isStandardMembers : Members → Bool
  | [] => true
  | (name, d) :: rest => !Text.Surrogate.hasHalf name && isStandard d && isStandardMembers rest
end

end SubscriptionLedger.Document
