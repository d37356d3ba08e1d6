namespace SubscriptionLedger.Text

-- Halving search among `table[lo] … table[lo + width - 1]`; `sideOf` says on which side of an entry the
-- sought one is.
def searchFrom {α : Type} (table : Array α) (sideOf : α → Ordering) (lo : Nat) : Nat → Option α
  | 0 => none
  | width + 1 =>
    let half := (width + 1) / 2
    match table[lo + half]? with
    | none => none
    | some entry =>
      match sideOf entry with
      | .lt => searchFrom table sideOf lo half
      | .eq => some entry
      | .gt => searchFrom table sideOf (lo + half + 1) (width - half)
termination_by width => width
decreasing_by all_goals omega

def search? {α : Type} (table : Array α) (sideOf : α → Ordering) : Option α :=
  searchFrom table sideOf 0 table.size

def side (n : Nat) (range : Nat × Nat) : Ordering :=
  if n < range.1 then .lt else if range.2 < n then .gt else .eq

def isInRanges (table : Array (Nat × Nat)) (c : Char) : Bool := (search? table (side c.toNat)).isSome

-- The property White_Space of the Unicode standard, all twenty-five members.
def isWhiteSpace (c : Char) : Bool :=
  let n := c.toNat
  (0x09 ≤ n && n ≤ 0x0D) || n == 0x20 || n == 0x85 || n == 0xA0 || n == 0x1680 ||
    (0x2000 ≤ n && n ≤ 0x200A) || n == 0x2028 || n == 0x2029 || n == 0x202F || n == 0x205F || n == 0x3000

-- What is ignored around an amount or an address: white space and the separators of files, groups,
-- records and units.
def isBlank (c : Char) : Bool :=
  isWhiteSpace c || (0x1C ≤ c.toNat && c.toNat ≤ 0x1F)

def isAsciiBlank (c : Char) : Bool := (0x09 ≤ c.toNat && c.toNat ≤ 0x0D) || c.toNat == 0x20

def trim (p : Char → Bool) (cs : List Char) : List Char :=
  ((cs.dropWhile p).reverse.dropWhile p).reverse

def strip (s : String) : String := String.ofList (trim isBlank s.toList)

def splitOn (sep : Char) : List Char → List (List Char)
  | [] => [[]]
  | c :: rest =>
    if c = sep then [] :: splitOn sep rest
    else match splitOn sep rest with
      | [] => [[c]]
      | piece :: pieces => (c :: piece) :: pieces

def zeros : List Nat := [
  0x30, 0x660, 0x6F0, 0x7C0, 0x966, 0x9E6, 0xA66, 0xAE6, 0xB66, 0xBE6, 0xC66, 0xCE6, 0xD66, 0xDE6,
  0xE50, 0xED0, 0xF20, 0x1040, 0x1090, 0x17E0, 0x1810, 0x1946, 0x19D0, 0x1A80, 0x1A90, 0x1B50, 0x1BB0,
  0x1C40, 0x1C50, 0xA620, 0xA8D0, 0xA900, 0xA9D0, 0xA9F0, 0xAA50, 0xABF0, 0xFF10, 0x104A0, 0x10D30,
  0x11066, 0x110F0, 0x11136, 0x111D0, 0x112F0, 0x11450, 0x114D0, 0x11650, 0x116C0, 0x11730, 0x118E0,
  0x11950, 0x11C50, 0x11D50, 0x11DA0, 0x16A60, 0x16AC0, 0x16B50, 0x1D7CE, 0x1D7D8, 0x1D7E2, 0x1D7EC,
  0x1D7F6, 0x1E140, 0x1E2F0, 0x1E950, 0x1FBF0]

def digitValue? (c : Char) : Option Nat :=
  (zeros.find? fun z => z ≤ c.toNat && c.toNat < z + 10).map (c.toNat - ·)

def valueOf (digits : List Nat) : Nat := digits.foldl (fun n d => 10 * n + d) 0

end SubscriptionLedger.Text

namespace SubscriptionLedger.Text.Hex

def digit (n : Nat) : Char := if n < 10 then Char.ofNat (48 + n) else Char.ofNat (87 + n)

def encode (bytes : List UInt8) : String :=
  String.ofList (bytes.flatMap fun b => [digit (b.toNat / 16), digit (b.toNat % 16)])

def value? (c : Char) : Option Nat :=
  if '0' ≤ c && c ≤ '9' then some (c.toNat - 48)
  else if 'a' ≤ c && c ≤ 'f' then some (c.toNat - 87)
  else if 'A' ≤ c && c ≤ 'F' then some (c.toNat - 55)
  else none

end SubscriptionLedger.Text.Hex

namespace SubscriptionLedger.Text.Surrogate

def isHigh (n : Nat) : Bool := 0xD800 ≤ n && n < 0xDC00
def isLow (n : Nat) : Bool := 0xDC00 ≤ n && n < 0xE000

-- No character belongs to half of a surrogate pair, so a half is held as the private character 0xF0000
-- above it; the 2048 private characters themselves are not told apart from halves.
def ofCode (n : Nat) : Char := Char.ofNat (if isHigh n || isLow n then 0xF0000 + n else n)

def join (high low : Nat) : Char := Char.ofNat (0x10000 + (high - 0xD800) * 0x400 + (low - 0xDC00))

def half? (c : Char) : Option Nat :=
  if 0xFD800 ≤ c.toNat && c.toNat < 0xFE000 then some (c.toNat - 0xF0000) else none

def hasHalf (s : String) : Bool := s.toList.any fun c => (half? c).isSome

end SubscriptionLedger.Text.Surrogate
