import SubscriptionLedger.Mail.Domain.Folding
import SubscriptionLedger.Mail.Domain.Letter
import SubscriptionLedger.Text.Letter

namespace SubscriptionLedger.Mail.Domain.Punycode

def digit (d : Nat) : Char := Char.ofNat (if d < 26 then 97 + d else 22 + d)

def digitValue? (c : Char) : Option Nat :=
  if 'a' ≤ c && c ≤ 'z' then some (c.toNat - 97) else if '0' ≤ c && c ≤ '9' then some (c.toNat - 22) else none

-- A digit below the threshold of its place ends a number.
def threshold (place bias : Nat) : Nat := min 26 (max 1 (36 * place - bias))

theorem threshold_pos (place bias : Nat) : 1 ≤ threshold place bias := by
  unfold threshold; omega

-- The places that large numbers fill, in steps of 36, and what is left of the number.
def narrow (steps delta : Nat) : Nat :=
  if 455 < delta then narrow (steps + 36) (delta / 35) else steps + 36 * delta / (delta + 38)
termination_by delta
decreasing_by omega

-- The bias of the number after `delta`, when `size` characters are placed; the first number is far
-- larger than those that follow.
def adapt (delta size : Nat) (first : Bool) : Nat :=
  let delta := if first then delta / 700 else delta / 2
  narrow 0 (delta + delta / size)

def firstCode : Nat := 0x80
def firstBias : Nat := 72

def digitsFrom (bias place n : Nat) : List Char :=
  if n < threshold place bias then [digit n]
  else
    let t := threshold place bias
    digit (t + (n - t) % (36 - t)) :: digitsFrom bias (place + 1) ((n - t) / (36 - t))
termination_by n
decreasing_by
  have positive := threshold_pos place bias
  exact Nat.lt_of_le_of_lt (Nat.div_le_self ..) (by omega)

-- Where the writing of a label stands: the next code point, the positions passed since the last number,
-- the bias of the next, how many characters are placed, and the numbers written.
structure Writing where
  code : Nat
  delta : Nat
  bias : Nat
  placed : Nat
  digits : List Char

def Writing.pass (plain : Nat) (w : Writing) (c : Char) : Writing :=
  if c.toNat < w.code then { w with delta := w.delta + 1 }
  else if c.toNat = w.code then
    { w with
      delta := 0
      bias := adapt w.delta (w.placed + 1) (w.placed = plain)
      placed := w.placed + 1
      digits := w.digits ++ digitsFrom w.bias 1 w.delta }
  else w

def Writing.place (plain : Nat) (label : List Char) (w : Writing) (code : Nat) : Writing :=
  let w := label.foldl (pass plain) { w with code, delta := w.delta + (code - w.code) * (w.placed + 1) }
  { w with code := code + 1, delta := w.delta + 1 }

def isPlain (c : Char) : Bool := c.toNat < firstCode

def encode (label : List Char) : List Char :=
  let plain := label.filter isPlain
  let codes := ((label.filter (!isPlain ·)).map Char.toNat).eraseDups.mergeSort
  let written := codes.foldl (Writing.place plain.length label) ⟨firstCode, 0, firstBias, plain.length, []⟩
  (if plain.isEmpty then [] else plain ++ ['-']) ++ written.digits

def number? (bias place weight : Nat) :
    (cs : List Char) → Option (Nat × { rest : List Char // rest.length < cs.length })
  | [] => none
  | c :: cs =>
    (digitValue? c).bind fun d =>
      let t := threshold place bias
      if d < t then some (d * weight, ⟨cs, by simp⟩)
      else (number? bias (place + 1) (weight * (36 - t)) cs).map fun (n, ⟨rest, shorter⟩) =>
        (d * weight + n, ⟨rest, by simp; omega⟩)

-- Puts the characters of the numbers `cs` into `label`, the first one from `position` on.
def insertFrom (code position bias : Nat) (first : Bool) (label cs : List Char) : Option (List Char) :=
  if cs.isEmpty then some label
  else match number? bias 1 1 cs with
    | none => none
    | some (delta, ⟨rest, _⟩) =>
      let size := label.length + 1
      let total := position + delta
      let code := code + total / size
      if code.isValidChar then
        insertFrom code (total % size + 1) (adapt delta size first) false
          (label.insertIdx (total % size) (Char.ofNat code)) rest
      else none
termination_by cs.length

def decode? (cs : List Char) : Option (List Char) :=
  let numbers := (cs.reverse.takeWhile (· != '-')).reverse
  let plain := (cs.take (cs.length - numbers.length)).dropLast
  insertFrom firstCode 0 firstBias true plain numbers

end SubscriptionLedger.Mail.Domain.Punycode

namespace SubscriptionLedger.Mail.Domain

inductive Direction where
  | left
  | right
  -- a digit, which both directions may hold
  | digit
  -- a digit of the Arabic script, which makes a label one from right to left
  | rightDigit
  -- a sign without a direction of its own
  | neutral
  -- a mark that takes the direction of the character it joins
  | attached
  deriving DecidableEq, Repr

def rightRanges : Array (Nat × Nat) := #[
  (0x5D0, 0x5EA), (0x5EF, 0x5F4), (0x620, 0x63F), (0x641, 0x64A), (0x66E, 0x66F), (0x671, 0x674),
  (0x679, 0x6D3), (0x6D5, 0x6D5), (0x6E5, 0x6E6), (0x6EE, 0x6EF), (0x6FA, 0x6FF), (0x710, 0x710),
  (0x712, 0x72F), (0x74D, 0x7A5), (0x7B1, 0x7B1), (0x7C0, 0x7EA), (0x7F4, 0x7F5), (0x800, 0x815),
  (0x81A, 0x81A), (0x824, 0x824), (0x828, 0x828), (0x840, 0x858), (0x860, 0x86A), (0x870, 0x887),
  (0x889, 0x88E), (0x8A0, 0x8C9), (0xFE73, 0xFE73), (0x10800, 0x10805), (0x10808, 0x10808),
  (0x1080A, 0x10835), (0x10837, 0x10838), (0x1083C, 0x1083C), (0x1083F, 0x10855), (0x10860, 0x10876),
  (0x10880, 0x1089E), (0x108E0, 0x108F2), (0x108F4, 0x108F5), (0x10900, 0x10915), (0x10920, 0x10939),
  (0x10980, 0x109B7), (0x109BE, 0x109BF), (0x10A00, 0x10A00), (0x10A10, 0x10A13), (0x10A15, 0x10A17),
  (0x10A19, 0x10A35), (0x10A60, 0x10A7C), (0x10A80, 0x10A9C), (0x10AC0, 0x10AC7), (0x10AC9, 0x10AE4),
  (0x10B00, 0x10B35), (0x10B40, 0x10B55), (0x10B60, 0x10B72), (0x10B80, 0x10B91), (0x10C00, 0x10C48),
  (0x10CC0, 0x10CF2), (0x10D00, 0x10D23), (0x10E80, 0x10EA9), (0x10EB0, 0x10EB1), (0x10F00, 0x10F1C),
  (0x10F27, 0x10F27), (0x10F30, 0x10F45), (0x10F70, 0x10F81), (0x10FB0, 0x10FC4), (0x10FE0, 0x10FF6),
  (0x1E800, 0x1E8C4), (0x1E922, 0x1E943), (0x1E94B, 0x1E94B), (0x1E950, 0x1E959)]

def neutralRanges : Array (Nat × Nat) := #[
  (0x2D, 0x2D), (0xB7, 0xB7), (0x2B9, 0x2BA), (0x2C6, 0x2CF), (0x2EC, 0x2EC), (0x375, 0x375),
  (0x2E2F, 0x2E2F), (0x30FB, 0x30FB), (0xA67F, 0xA67F), (0xA717, 0xA71F), (0xA788, 0xA788)]

def leftMarks : List Nat := [0xCBF, 0xCC6, 0x11A07, 0x11A08, 0x11C3F]

def isDigit (c : Char) : Bool := c.isDigit || (0x6F0 ≤ c.toNat && c.toNat ≤ 0x6F9)

def isRightDigit (c : Char) : Bool :=
  (0x660 ≤ c.toNat && c.toNat ≤ 0x669) || (0x10D30 ≤ c.toNat && c.toNat ≤ 0x10D39)

def direction (c : Char) : Direction :=
  if isDigit c then .digit
  else if isRightDigit c then .rightDigit
  else if Text.isInRanges rightRanges c then .right
  else if Text.isInRanges neutralRanges c then .neutral
  else if Text.isAttached c && !leftMarks.contains c.toNat then .attached
  else .left

def isRightward (label : List Char) : Bool :=
  label.any fun c => direction c = .right || direction c = .rightDigit

def lastDirection? (label : List Char) : Option Direction :=
  (label.map direction).reverse.find? (· ≠ .attached)

-- Whether a label keeps its look: it begins with a letter, has letters of one direction only and ends
-- with a letter or a digit; the digits of a label from right to left are of one kind.
def isSettled (label : List Char) : Bool :=
  let all := label.map direction
  match all.head? with
  | some .right =>
    !all.contains .left && !(all.contains .digit && all.contains .rightDigit) &&
      (lastDirection? label).any fun d => d = .right || d = .digit || d = .rightDigit
  | some .left =>
    !all.contains .right && !all.contains .rightDigit &&
      (lastDirection? label).any fun d => d = .left || d = .digit
  | _ => false

-- Where one label is written from right to left, every label must keep its look.
def areSettled (labels : List (List Char)) : Bool := !labels.any isRightward || labels.all isSettled

structure Label where
  shown : List Char
  sent : List Char
  deriving DecidableEq, Repr

def marker : List Char := "xn--".toList

-- A label is in normal form, has hyphens neither at its ends nor both third and fourth, does not begin
-- with a mark, and holds each of its characters where it may.
def isLabel (cs : List Char) : Bool :=
  !cs.isEmpty && Text.normal cs == cs && (cs.drop 2).take 2 != ['-', '-'] && cs.head? != some '-' &&
    cs.getLast? != some '-' && !cs.head?.any Text.isMark && allInPlace cs

def Label.ofShown? (cs : List Char) : Option Label :=
  if isLabel cs then
    some { shown := cs, sent := if cs.all Punycode.isPlain then cs else marker ++ Punycode.encode cs }
  else none

def Label.ofCode? (code : List Char) : Option Label :=
  if code.isEmpty || code.getLast? = some '-' then none
  else (Punycode.decode? code).bind fun shown =>
    if isLabel shown then some { shown, sent := marker ++ code } else none

def maxLabel : Nat := 63

def Label.read? (cs : List Char) : Option Label :=
  (if marker.isPrefixOf cs && cs.all Punycode.isPlain then ofCode? (cs.drop marker.length) else ofShown? cs).filter
    fun label => label.sent.length ≤ maxLabel

structure Name where
  labels : List Label
  deriving DecidableEq, Repr

def joined (labels : List (List Char)) : List Char := List.intercalate ['.'] labels

def Name.shown (name : Name) : List Char := joined (name.labels.map Label.shown)

def Name.sent (name : Name) : List Char := joined (name.labels.map Label.sent)

def isNameChar (c : Char) : Bool := c.isAlphanum || c = '-' || c = '.' || !Punycode.isPlain c

def isWritten (cs : List Char) : Bool :=
  (cs.all fun c => isNameChar c && Text.isVisible c) && !cs.head?.any Text.isMark

def specialDomains : List String := ["arpa", "invalid", "local", "localhost", "onion", "test"]

def maxName : Nat := 253

def Name.isReachable (name : Name) : Bool :=
  2 ≤ name.labels.length && name.sent.length ≤ maxName && (name.sent.getLast?.any Char.isAlpha) &&
    (name.labels.getLast?.all fun last => !specialDomains.contains (String.ofList last.sent)) &&
    areSettled (name.labels.map Label.shown)

def Name.read? (cs : List Char) : Option Name :=
  if isWritten cs then
    (fold? cs).bind fun folded =>
      if folded.all isNameChar then
        (((Text.splitOn '.' folded).mapM Label.read?).map Name.mk).filter Name.isReachable
      else none
  else none

end SubscriptionLedger.Mail.Domain
