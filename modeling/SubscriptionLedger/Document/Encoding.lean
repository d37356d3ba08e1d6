import SubscriptionLedger.Document.Reader
import SubscriptionLedger.Text.Encoding

namespace SubscriptionLedger.Document

inductive Encoding where
  | utf8
  | utf16 (bigEndian : Bool)
  | utf32 (bigEndian : Bool)
deriving DecidableEq, Repr

def Encoding.detect : List UInt8 → Encoding × Nat
  | 0x00 :: 0x00 :: 0xFE :: 0xFF :: _ => (.utf32 true, 4)
  | 0xFF :: 0xFE :: 0x00 :: 0x00 :: _ => (.utf32 false, 4)
  | 0xFE :: 0xFF :: _ => (.utf16 true, 2)
  | 0xFF :: 0xFE :: _ => (.utf16 false, 2)
  | 0xEF :: 0xBB :: 0xBF :: _ => (.utf8, 3)
  | a :: b :: c :: d :: _ =>
    if a = 0 then (if b = 0 then .utf32 true else .utf16 true, 0)
    else if b = 0 then (if c = 0 && d = 0 then .utf32 false else .utf16 false, 0)
    else (.utf8, 0)
  | [a, b] => (if a = 0 then .utf16 true else if b = 0 then .utf16 false else .utf8, 0)
  | _ => (.utf8, 0)

inductive WideReason where
  | truncated
  | outOfRange
deriving DecidableEq, Repr

-- The offending bytes are those from `start` up to `stop`; `byte` is the first of them.
structure WideFlaw where
  reason : WideReason
  start : Nat
  stop : Nat
  byte : UInt8
deriving DecidableEq, Repr

def joinUnits : List Nat → List Char
  | [] => []
  | [n] => [Text.Surrogate.ofCode n]
  | n :: m :: rest =>
    if Text.Surrogate.isHigh n && Text.Surrogate.isLow m then Text.Surrogate.join n m :: joinUnits rest
    else Text.Surrogate.ofCode n :: joinUnits (m :: rest)

def utf16Units (bigEndian : Bool) (place : Nat) : List UInt8 → Except WideFlaw (List Nat)
  | [] => .ok []
  | [b] => .error ⟨.truncated, place, place + 1, b⟩
  | a :: b :: rest =>
    (utf16Units bigEndian (place + 2) rest).map fun tail =>
      (if bigEndian then a.toNat * 256 + b.toNat else b.toNat * 256 + a.toNat) :: tail

def utf32Chars (bigEndian : Bool) (place : Nat) : List UInt8 → Except WideFlaw (List Char)
  | [] => .ok []
  | a :: b :: c :: d :: rest =>
    let n := if bigEndian then ((a.toNat * 256 + b.toNat) * 256 + c.toNat) * 256 + d.toNat
      else ((d.toNat * 256 + c.toNat) * 256 + b.toNat) * 256 + a.toNat
    if n < 0x110000 then (utf32Chars bigEndian (place + 4) rest).map (Text.Surrogate.ofCode n :: ·)
    else .error ⟨.outOfRange, place, place + 4, a⟩
  | a :: rest => .error ⟨.truncated, place, place + 1 + rest.length, a⟩

inductive BytesError where
  -- the bytes are no UTF-8 text
  | utf8 (flaw : Text.Utf8.Flaw)
  -- the bytes are no text in the wider encoding that they show
  | wide (codec : String) (flaw : WideFlaw)
  -- the text is no document
  | text (chars : List Char) (error : ReadError)
deriving Repr

def codecName (base : String) (bigEndian : Bool) : String := base ++ if bigEndian then "-be" else "-le"

-- The text of bytes in the encoding that they show; halves of surrogate pairs pass.
def charsOf (bytes : List UInt8) : Except BytesError (List Char) :=
  let (encoding, mark) := Encoding.detect bytes
  let body := bytes.drop mark
  match encoding with
  | .utf8 => (Text.Utf8.decodeLoose body).mapError .utf8
  | .utf16 bigEndian =>
    ((utf16Units bigEndian mark body).map joinUnits).mapError (.wide (codecName "utf-16" bigEndian))
  | .utf32 bigEndian => (utf32Chars bigEndian mark body).mapError (.wide (codecName "utf-32" bigEndian))

def readBytes (bytes : List UInt8) : Except BytesError Document :=
  (charsOf bytes).bind fun cs => (readUnmarked cs).mapError (.text cs)

def hexByte (b : UInt8) : String := Text.Hex.encode [b]

def codecMessage (codec : String) (start stop : Nat) (byte : UInt8) (reason : String) : String :=
  "'" ++ codec ++ "' codec can't decode " ++
    (if stop = start + 1 then "byte 0x" ++ hexByte byte ++ " in position " ++ toString start
      else "bytes in position " ++ toString start ++ "-" ++ toString (stop - 1)) ++
    ": " ++ reason

def utf8Reason : Text.Utf8.Reason → String
  | .startByte => "invalid start byte"
  | .continuationByte => "invalid continuation byte"
  | .endOfData => "unexpected end of data"

def WideReason.text : WideReason → String
  | truncated => "truncated data"
  | outOfRange => "code point not in range(0x110000)"

def BytesError.message : BytesError → String
  | .utf8 flaw => codecMessage "utf-8" flaw.start flaw.stop flaw.byte (utf8Reason flaw.reason)
  | .wide codec flaw => codecMessage codec flaw.start flaw.stop flaw.byte flaw.reason.text
  | .text chars e => e.describe chars

end SubscriptionLedger.Document
