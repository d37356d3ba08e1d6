namespace SubscriptionLedger

inductive Binary64 where
  | finite (negative : Bool) (significand : Nat) (exponent : Int)
  | infinite (negative : Bool)
  | nan
deriving DecidableEq, Repr

namespace Binary64

def minExponent : Int := -1074
def maxExponent : Int := 971

-- The quotient rounded to the nearest whole number, a tie to the even one.
def roundDiv (num den : Nat) : Nat :=
  let q := num / den
  let twice := 2 * (num % den)
  if twice < den then q else if den < twice then q + 1 else if q % 2 = 0 then q else q + 1

-- num / den in units of 2^e, rounded.
def inUnits (num den : Nat) (e : Int) : Nat :=
  if 0 ≤ e then roundDiv num (den * Nat.pow 2 e.toNat) else roundDiv (num * Nat.pow 2 (-e).toNat) den

def ofRatio (negative : Bool) (num den : Nat) : Binary64 :=
  -- one of two neighbouring units gives a significand of 53 bits before rounding
  let guess : Int := max ((Nat.log2 num : Int) - Nat.log2 den - 53) minExponent
  let unit (e : Int) : Nat :=
    if 0 ≤ e then num / (den * Nat.pow 2 e.toNat) else num * Nat.pow 2 (-e).toNat / den
  let e := if unit guess < Nat.pow 2 53 then guess else guess + 1
  let m := inUnits num den e
  let (m, e) := if m = Nat.pow 2 53 then (Nat.pow 2 52, e + 1) else (m, e)
  if maxExponent < e then infinite negative else finite negative m e

def ofDecimal (negative : Bool) (digits : Nat) (exponent : Int) : Binary64 :=
  let size : Int := (Nat.toDigits 10 digits).length + exponent
  if digits = 0 || size < -330 then finite negative 0 minExponent
  else if 310 < size then infinite negative
  else if 0 ≤ exponent then ofRatio negative (digits * Nat.pow 10 exponent.toNat) 1
  else ofRatio negative digits (Nat.pow 10 (-exponent).toNat)

def zero : Binary64 := finite false 0 minExponent

def fraction (significand : Nat) (exponent : Int) : Nat × Nat :=
  if 0 ≤ exponent then (significand * Nat.pow 2 exponent.toNat, 1) else (significand, Nat.pow 2 (-exponent).toNat)

def signed (negative : Bool) (n : Nat) : Int := if negative then -(n : Int) else n

def ofInt (n : Int) : Binary64 := ofRatio (decide (n < 0)) n.natAbs 1

def truncate? : Binary64 → Option Int
  | finite negative m e => let (num, den) := fraction m e; some (signed negative (num / den))
  | _ => none

def whole? : Binary64 → Option Int
  | finite negative m e =>
    let (num, den) := fraction m e
    if num % den = 0 then some (signed negative (num / den)) else none
  | _ => none

-- The nearest whole number, a half away from zero.
def round? : Binary64 → Option Int
  | finite negative m e =>
    let (num, den) := fraction m e
    some (signed negative ((2 * num + den) / (2 * den)))
  | _ => none

def times (x : Binary64) (n : Nat) : Binary64 :=
  match x with
  | finite negative m e => let (num, den) := fraction m e; ofRatio negative (num * n) den
  | x => x

def isBelow (x : Binary64) (n : Int) : Bool :=
  match x with
  | finite negative m e => let (num, den) := fraction m e; signed negative num < n * den
  | _ => false

def isAbove (x : Binary64) (n : Int) : Bool :=
  match x with
  | finite negative m e => let (num, den) := fraction m e; n * den < signed negative num
  | _ => false

def minus (x : Binary64) (n : Int) : Binary64 :=
  match x with
  | finite negative m e =>
    let (num, den) := fraction m e
    let difference := signed negative num - n * den
    ofRatio (decide (difference < 0)) difference.natAbs den
  | x => x

def isZero : Binary64 → Bool
  | finite _ 0 _ => true
  | _ => false

def isFinite : Binary64 → Bool
  | finite .. => true
  | _ => false

def same : Binary64 → Binary64 → Bool
  | finite n m e, finite n' m' e' => (m == 0 && m' == 0) || (n == n' && m == m' && e == e')
  | infinite n, infinite n' => n == n'
  | _, _ => false

end Binary64
end SubscriptionLedger

namespace SubscriptionLedger.Binary64

-- The reals that round to a number, in quarters of its unit: from `low` to `high`, the ends
-- included iff the significand is even.
structure Around where
  value : Nat
  low : Nat
  high : Nat
  closed : Bool
deriving Repr

def around (significand : Nat) (exponent : Int) : Around :=
  -- below a power of two the neighbours are twice as dense
  let gap := if significand = Nat.pow 2 52 && minExponent < exponent then 1 else 2
  ⟨4 * significand, 4 * significand - gap, 4 * significand + 2, significand % 2 = 0⟩

-- Compares `candidate · 10^place` with `quarters · 2^(exponent - 2)` after clearing denominators.
def scaled (exponent place : Int) (quarters candidate : Nat) : Nat × Nat :=
  let e := exponent - 2
  let two (n : Int) : Nat := Nat.pow 2 n.toNat
  let ten (n : Int) : Nat := Nat.pow 10 n.toNat
  let left := quarters * (if 0 ≤ e then two e else 1) * (if place < 0 then ten (-place) else 1)
  let right := candidate * (if e < 0 then two (-e) else 1) * (if 0 ≤ place then ten place else 1)
  (left, right)

def Around.holds (a : Around) (exponent place : Int) (candidate : Nat) : Bool :=
  let (low, c) := scaled exponent place a.low candidate
  let (high, _) := scaled exponent place a.high candidate
  if a.closed then low ≤ c && c ≤ high else low < c && c < high

-- The grid of `10^place`: the neighbours of the value on it that read back, nearer one first.
def Around.onGrid (a : Around) (exponent place : Int) : Option Nat :=
  let (v, unit) := scaled exponent place a.value 1
  let below := v / unit
  let twice := 2 * (v % unit)
  let first := if twice < unit || (twice = unit && below % 2 = 0) then below else below + 1
  let second := if first = below then below + 1 else below
  if a.holds exponent place first then some first
  else if a.holds exponent place second then some second else none

-- Tries grids from coarse to fine; seventeen digits always suffice.
def Around.search (a : Around) (exponent place : Int) : Nat → Nat × Int
  | 0 => (0, 0)
  | fuel + 1 =>
    match a.onGrid exponent place with
    | some digits => if digits = 0 then a.search exponent (place - 1) fuel else (digits, place)
    | none => a.search exponent (place - 1) fuel

def shortest (significand : Nat) (exponent : Int) : Nat × Int :=
  let (num, den) := fraction significand exponent
  -- a power of ten at or above the value
  let top : Int := ((Nat.toDigits 10 (num / den)).length : Int) -
    (if num < den then ((Nat.toDigits 10 (den / num)).length : Int) else 0) + 1
  (around significand exponent).search exponent top 24

def dropZeros (fuel : Nat) (digits : Nat) (place : Int) : Nat × Int :=
  match fuel with
  | 0 => (digits, place)
  | fuel + 1 => if digits % 10 = 0 && digits ≠ 0 then dropZeros fuel (digits / 10) (place + 1) else (digits, place)

-- Positional from 10^-4 up to below 10^16, else with an exponent of at least two digits; a whole
-- number keeps one decimal.
def text : Binary64 → String
  | nan => "nan"
  | infinite negative => if negative then "-inf" else "inf"
  | finite negative 0 _ => if negative then "-0.0" else "0.0"
  | finite negative m e =>
    let (digits, place) := let (d, p) := shortest m e; dropZeros 20 d p
    let ds := Nat.toDigits 10 digits
    let point : Int := ds.length + place
    let body :=
      if -4 < point && point ≤ 16 then
        if point ≤ 0 then "0." ++ String.ofList (List.replicate (-point).toNat '0' ++ ds)
        else if place < 0 then
          String.ofList (ds.take point.toNat) ++ "." ++ String.ofList (ds.drop point.toNat)
        else String.ofList (ds ++ List.replicate place.toNat '0') ++ ".0"
      else
        let power := point - 1
        let shown := Nat.toDigits 10 power.natAbs
        String.ofList (ds.take 1) ++ (if ds.length = 1 then "" else "." ++ String.ofList (ds.drop 1)) ++
          (if power < 0 then "e-" else "e+") ++
          String.ofList (if shown.length < 2 then '0' :: shown else shown)
    (if negative then "-" else "") ++ body

end SubscriptionLedger.Binary64
