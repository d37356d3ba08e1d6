import SubscriptionLedger.Text.Basic

namespace SubscriptionLedger.Text.Utf8

inductive Reason where
  | startByte
  | continuationByte
  | endOfData
deriving DecidableEq, Repr

-- The offending bytes are those from `start` up to `stop`; `byte` is the first of them.
structure Flaw where
  reason : Reason
  start : Nat
  stop : Nat
  byte : UInt8
deriving DecidableEq, Repr

def encode (cs : List Char) : List UInt8 := cs.flatMap String.utf8EncodeChar

def encodeText (s : String) : List UInt8 := encode s.toList

-- How many bytes follow a first byte, and the least and greatest second byte.
def follow? (b : UInt8) : Option (Nat × UInt8 × UInt8) :=
  if b < 0xC2 then none
  else if b < 0xE0 then some (1, 0x80, 0xBF)
  else if b = 0xE0 then some (2, 0xA0, 0xBF)
  else if b = 0xED then some (2, 0x80, 0x9F)
  else if b < 0xF0 then some (2, 0x80, 0xBF)
  else if b = 0xF0 then some (3, 0x90, 0xBF)
  else if b < 0xF4 then some (3, 0x80, 0xBF)
  else if b = 0xF4 then some (3, 0x80, 0x8F)
  else none

-- Reads `owed` further bytes into `value`; the next one must lie between `least` and `greatest`.
-- `none` in the error says that the input ended.
def tail (owed : Nat) (least greatest : UInt8) (value taken : Nat) :
    List UInt8 → Except (Option Nat) (Nat × List UInt8)
  | rest =>
    match owed with
    | 0 => .ok (value, rest)
    | owed + 1 =>
      match rest with
      | [] => .error none
      | b :: rest =>
        if least ≤ b && b ≤ greatest then
          tail owed 0x80 0xBF (value * 64 + (b.toNat - 0x80)) (taken + 1) rest
        else .error (some taken)

theorem tail_length {owed : Nat} {least greatest : UInt8} {value taken : Nat} {rest : List UInt8}
    {result : Nat × List UInt8} (h : tail owed least greatest value taken rest = .ok result) :
    result.2.length ≤ rest.length := by
  induction owed generalizing least greatest value taken rest with
  | zero => simp only [tail, Except.ok.injEq] at h; subst h; exact Nat.le_refl _
  | succ owed ih =>
    cases rest with
    | nil => simp [tail] at h
    | cons b rest =>
      rw [tail] at h
      split at h
      · exact Nat.le_trans (ih h) (by simp)
      · simp at h

def half? : List UInt8 → Option Nat
  | 0xED :: b :: c :: _ =>
    if 0xA0 ≤ b && b ≤ 0xBF && 0x80 ≤ c && c ≤ 0xBF then
      some (0xD000 + (b.toNat - 0x80) * 64 + (c.toNat - 0x80))
    else none
  | _ => none

def decodeFrom (loose : Bool) (place : Nat) : List UInt8 → Except Flaw (List Char)
  | [] => .ok []
  | b :: rest =>
    if b < 0x80 then (decodeFrom loose (place + 1) rest).map (Char.ofNat b.toNat :: ·)
    else match if loose then half? (b :: rest) else none with
    | some n => (decodeFrom loose (place + 3) (rest.drop 2)).map (Surrogate.ofCode n :: ·)
    | none =>
      match follow? b with
      | none => .error ⟨.startByte, place, place + 1, b⟩
      | some (owed, least, greatest) =>
        match h : tail owed least greatest (b.toNat % Nat.pow 2 (6 - owed)) 1 rest with
        | .error none => .error ⟨.endOfData, place, place + 1 + rest.length, b⟩
        | .error (some taken) => .error ⟨.continuationByte, place, place + taken, b⟩
        | .ok (value, rest') =>
          have : rest'.length ≤ rest.length := tail_length h
          (decodeFrom loose (place + 1 + owed) rest').map (Char.ofNat value :: ·)
termination_by bytes => bytes.length
decreasing_by
  · simp
  · simp only [List.length_cons, List.length_drop]; omega
  · simp only [List.length_cons]; omega

def decode (bytes : List UInt8) : Except Flaw (List Char) := decodeFrom false 0 bytes

def decodeLoose (bytes : List UInt8) : Except Flaw (List Char) := decodeFrom true 0 bytes

def decodeLossy (fuel : Nat) (bytes : List UInt8) : List Char :=
  match fuel with
  | 0 => []
  | fuel + 1 =>
    match decode bytes with
    | .ok cs => cs
    | .error flaw =>
      let good := match decode (bytes.take flaw.start) with
        | .ok cs => cs
        | .error _ => []
      good ++ Char.ofNat 0xFFFD :: decodeLossy fuel (bytes.drop flaw.stop)

def lossy (bytes : List UInt8) : String := String.ofList (decodeLossy (bytes.length + 1) bytes)

end SubscriptionLedger.Text.Utf8

namespace SubscriptionLedger.Text.Percent

def decodeBytes : List Char → List UInt8
  | '%' :: a :: b :: rest =>
    match Hex.value? a, Hex.value? b with
    | some high, some low => UInt8.ofNat (high * 16 + low) :: decodeBytes rest
    | _, _ => 0x25 :: decodeBytes (a :: b :: rest)
  | c :: rest => String.utf8EncodeChar c ++ decodeBytes rest
  | [] => []

def decode (s : String) : String := Utf8.lossy (decodeBytes s.toList)

def isUnreserved (c : Char) : Bool := c.isAlphanum || c = '_' || c = '.' || c = '-' || c = '~'

def upperHex (n : Nat) : Char := if n < 10 then Char.ofNat (48 + n) else Char.ofNat (55 + n)

def encode (safe : List Char) (s : String) : String :=
  String.ofList (s.toList.flatMap fun c =>
    if isUnreserved c || safe.contains c then [c]
    else (String.utf8EncodeChar c).flatMap fun b =>
      ['%', upperHex (b.toNat / 16), upperHex (b.toNat % 16)])

end SubscriptionLedger.Text.Percent

namespace SubscriptionLedger.Text.Base64Url

def sign (n : Nat) : Char :=
  if n < 26 then Char.ofNat (65 + n)
  else if n < 52 then Char.ofNat (71 + n)
  else if n < 62 then Char.ofNat (n - 4)
  else if n = 62 then '-' else '_'

def value? (c : Char) : Option Nat :=
  if 'A' ≤ c && c ≤ 'Z' then some (c.toNat - 65)
  else if 'a' ≤ c && c ≤ 'z' then some (c.toNat - 71)
  else if '0' ≤ c && c ≤ '9' then some (c.toNat + 4)
  else if c = '-' then some 62
  else if c = '_' then some 63
  else none

theorem value?_sign {n : Nat} (h : n < 64) : value? (sign n) = some n := by
  have all : ∀ m ∈ List.range 64, value? (sign m) = some m := by decide
  exact all n (List.mem_range.mpr h)

def encode : List UInt8 → List Char
  | [] => []
  | [a] => [sign (a.toNat / 4), sign (a.toNat % 4 * 16)]
  | [a, b] => [sign (a.toNat / 4), sign (a.toNat % 4 * 16 + b.toNat / 16), sign (b.toNat % 16 * 4)]
  | a :: b :: c :: rest =>
    sign (a.toNat / 4) :: sign (a.toNat % 4 * 16 + b.toNat / 16) ::
      sign (b.toNat % 16 * 4 + c.toNat / 64) :: sign (c.toNat % 64) :: encode rest

def bytes : List Nat → Option (List UInt8)
  | [] => some []
  | [_] => none
  | [a, b] => some [UInt8.ofNat (a * 4 + b / 16)]
  | [a, b, c] => some [UInt8.ofNat (a * 4 + b / 16), UInt8.ofNat (b % 16 * 16 + c / 4)]
  | a :: b :: c :: d :: rest =>
    (bytes rest).map fun tail =>
      UInt8.ofNat (a * 4 + b / 16) :: UInt8.ofNat (b % 16 * 16 + c / 4) ::
        UInt8.ofNat (c % 4 * 64 + d) :: tail

def decodeSigns (cs : List Char) : Option (List UInt8) := (cs.mapM value?).bind bytes

-- Padding is taken off only where it completes a group of four.
def unpad (cs : List Char) : List Char :=
  if cs.length % 4 = 0 then
    match cs.reverse with
    | '=' :: '=' :: front => front.reverse
    | '=' :: front => front.reverse
    | _ => cs
  else cs

def decode? (cs : List Char) : Option (List UInt8) :=
  let body := unpad cs
  (decodeSigns body).bind fun found => if encode found = body then some found else none

end SubscriptionLedger.Text.Base64Url
