import SubscriptionLedger.Document.Number

namespace SubscriptionLedger

structure Date where
  year : Int
  month : Nat
  day : Nat
deriving DecidableEq, Repr

namespace Calendar

def isLeap (year : Int) : Bool := year % 4 == 0 && (year % 100 != 0 || year % 400 == 0)

def daysInMonth (year : Int) (month : Nat) : Nat :=
  if month = 2 then (if isLeap year then 29 else 28)
  else if month = 4 || month = 6 || month = 9 || month = 11 then 30 else 31

def Valid (d : Date) : Prop := 1 ≤ d.month ∧ d.month ≤ 12 ∧ 1 ≤ d.day ∧ d.day ≤ daysInMonth d.year d.month

instance (d : Date) : Decidable (Valid d) := by unfold Valid; infer_instance

-- Days before a month, counted from March; `m` is 0 for March and 11 for February.
def monthStart (m : Int) : Int := (153 * m + 2) / 5

def toDays (d : Date) : Int :=
  let y := if d.month ≤ 2 then d.year - 1 else d.year
  let m : Int := if d.month ≤ 2 then d.month + 9 else d.month - 3
  let era := y / 400
  let yearOfEra := y % 400
  let dayOfYear := monthStart m + d.day - 1
  era * 146097 + (yearOfEra * 365 + yearOfEra / 4 - yearOfEra / 100 + dayOfYear) - 719468

def ofDays (days : Int) : Date :=
  let z := days + 719468
  let era := z / 146097
  let dayOfEra := z % 146097
  let yearOfEra := (dayOfEra - dayOfEra / 1460 + dayOfEra / 36524 - dayOfEra / 146096) / 365
  let dayOfYear := dayOfEra - (365 * yearOfEra + yearOfEra / 4 - yearOfEra / 100)
  let m := (5 * dayOfYear + 2) / 153
  let day := dayOfYear - monthStart m + 1
  let month := if m < 10 then m + 3 else m - 9
  let year := yearOfEra + era * 400 + (if month ≤ 2 then 1 else 0)
  ⟨year, month.toNat, day.toNat⟩

end Calendar

-- Microseconds after 1 January 1970, midnight, in Greenwich.
structure Instant where
  micros : Int
deriving DecidableEq, Repr

structure Moment where
  -- microseconds after 1 January 1970, midnight, on the clock itself
  wall : Int
  -- microseconds that the clock is ahead of Greenwich; none if its place is unknown
  offset : Option Int
deriving DecidableEq, Repr

def perSecond : Int := 1000000
def perMinute : Int := 60 * perSecond
def perDay : Int := 86400 * perSecond

namespace Moment

def firstSecond : Int := -62135596800
def lastSecond : Int := 253402300799

-- The last seconds of either sign whose year a machine word of 32 bits can count.
def firstCountable : Int := -67768040609740800
def lastCountable : Int := 67768036191676799

def ofUnix (seconds : Int) : Except Misfit Moment :=
  if !fitsWord seconds then .error .tooLarge
  else if seconds < firstCountable ∨ lastCountable < seconds then .error .uncountable
  else if seconds < firstSecond ∨ lastSecond < seconds then .error .badValue
  else .ok ⟨seconds * perSecond, some 0⟩

def ofInstant (i : Instant) : Moment := ⟨i.micros, some 0⟩

def instant (m : Moment) : Instant := ⟨m.wall - m.offset.getD 0⟩

def date (m : Moment) : Date := Calendar.ofDays (m.wall / perDay)

def second (m : Moment) : Nat := (m.wall % perDay / perSecond).toNat

def micros (m : Moment) : Nat := (m.wall % perSecond).toNat

def padded (width n : Nat) : String :=
  let ds := Nat.toDigits 10 n
  String.ofList (List.replicate (width - ds.length) '0' ++ ds)

def clockText (m : Moment) : String :=
  let d := m.date
  let s := m.second
  padded 4 d.year.toNat ++ "-" ++ padded 2 d.month ++ "-" ++ padded 2 d.day ++ "T" ++
    padded 2 (s / 3600) ++ ":" ++ padded 2 (s / 60 % 60) ++ ":" ++ padded 2 (s % 60) ++
    (if m.micros = 0 then "" else "." ++ padded 6 m.micros)

-- The whole seconds of an offset, the nearest number of them.
def offsetSeconds (offset : Int) : Nat := (offset.natAbs + 500000) / 1000000

def offsetText (offset : Int) (seconds : Nat) : String :=
  (if offset < 0 then "-" else "+") ++ padded 2 (seconds / 3600) ++ ":" ++ padded 2 (seconds / 60 % 60)

-- Date and time of day, with the fraction only where there is one, and `Z` for Greenwich. An offset is
-- told in minutes.
def text (m : Moment) : String :=
  m.clockText ++ match m.offset with
    | none => ""
    | some offset =>
      if offsetSeconds offset = 0 then "Z" else offsetText offset (offsetSeconds offset)

-- The same with Greenwich written as an offset, and every offset in full, as a column of a table has it.
def columnText (m : Moment) : String :=
  m.clockText ++ match m.offset with
    | none => ""
    | some offset =>
      let seconds := offset.natAbs / 1000000
      let micros := offset.natAbs % 1000000
      offsetText offset seconds ++
        (if seconds % 60 = 0 && micros = 0 then "" else ":" ++ padded 2 (seconds % 60)) ++
        (if micros = 0 then "" else "." ++ padded 6 micros)

end Moment

def Instant.seconds (i : Instant) : Binary64 :=
  Binary64.ofRatio (decide (i.micros < 0)) i.micros.natAbs perSecond.natAbs

def Instant.columnText (i : Instant) : String := (Moment.ofInstant i).columnText

end SubscriptionLedger

namespace SubscriptionLedger.Moment

def fixed? (width : Nat) (cs : List Char) : Option (Nat × List Char) :=
  let ds := cs.take width
  if ds.length = width && ds.all Char.isDigit then
    some (Text.valueOf (ds.map fun c => c.toNat - 48), cs.drop width)
  else none

def expect? (c : Char) : List Char → Option (List Char)
  | d :: rest => if c = d then some rest else none
  | [] => none

def date? (cs : List Char) : Option (Date × List Char) := do
  let (year, cs) ← fixed? 4 cs
  let cs ← expect? '-' cs
  let (month, cs) ← fixed? 2 cs
  let cs ← expect? '-' cs
  let (day, cs) ← fixed? 2 cs
  let d : Date := ⟨year, month, day⟩
  if Calendar.Valid d ∧ 1 ≤ year then some (d, cs) else none

-- The microseconds of a fraction: six digits count, the rest are dropped.
def fractionMicros (ds : List Char) : Nat :=
  let kept := ds.take 6
  Text.valueOf (kept.map fun c => c.toNat - 48) * Nat.pow 10 (6 - kept.length)

def fraction? : List Char → Option (Nat × List Char)
  | c :: rest =>
    if c = '.' || c = ',' then
      let ds := rest.takeWhile Char.isDigit
      if ds.isEmpty then none else some (fractionMicros ds, rest.dropWhile Char.isDigit)
    else some (0, c :: rest)
  | [] => some (0, [])

def timeOfDay? (cs : List Char) : Option (Int × List Char) := do
  let (hour, cs) ← fixed? 2 cs
  let cs ← expect? ':' cs
  let (minute, cs) ← fixed? 2 cs
  let (second, micros, cs) ← match cs with
    | ':' :: rest => do
      let (second, rest) ← fixed? 2 rest
      let (micros, rest) ← fraction? rest
      pure (second, micros, rest)
    | _ => some (0, 0, cs)
  if hour < 24 && minute < 60 && second < 60 then
    some (((hour * 3600 + minute * 60 + second : Nat) : Int) * perSecond + micros, cs)
  else none

def offset? (cs : List Char) : Option (Option Int) :=
  match cs with
  | [] => some none
  | c :: rest =>
    if c = 'Z' || c = 'z' then if rest.isEmpty then some (some 0) else none
    else if c = '+' || c = '-' || c = '−' then do
      let (hour, rest) ← fixed? 2 rest
      let rest := match rest with
        | ':' :: r => r
        | r => r
      let (minute, rest) ← fixed? 2 rest
      if rest.isEmpty && minute < 60 && hour < 24 then
        let minutes : Int := (hour * 60 + minute : Nat)
        some (some ((if c = '+' then minutes else -minutes) * perMinute))
      else none
    else none

def ofIso? (cs : List Char) : Option Moment := do
  let (d, rest) ← date? cs
  let midnight := Calendar.toDays d * perDay
  match rest with
  | [] => some ⟨midnight, none⟩
  | c :: rest =>
    if c = 'T' || c = 't' || c = ' ' || c = '_' then
      let (time, rest) ← timeOfDay? rest
      let offset ← offset? rest
      some ⟨midnight + time, offset⟩
    else none

-- Above this magnitude a number counts milliseconds.
def watershed : Nat := 20000000000

def ofMicros? (micros : Int) : Option Moment :=
  let second := micros / perSecond
  if second < firstSecond ∨ lastSecond < second then none else some ⟨micros, some 0⟩

def ofNumber? (n : Int) : Option Moment :=
  ofMicros? (n * if n.natAbs ≤ watershed then perSecond else 1000)

-- A float counts from its floor; what is above the floor becomes whole microseconds, a half upwards.
def ofReal? : Binary64 → Option Moment
  | .finite negative m e =>
    let (num, den) := Binary64.fraction m e
    let exact := Binary64.signed negative num
    let scale : Nat := if num ≤ watershed * den then 1000000 else 1000
    let above := Binary64.ofRatio false (exact % den).toNat den
    ofMicros? (exact / den * scale + ((above.times scale).round?.getD 0))
  | _ => none

def digitValue (ds : List Char) : Nat := Text.valueOf (ds.map fun c => c.toNat - 48)

def exponent? : List Char → Option Int
  | [] => some 0
  | c :: rest =>
    let (negative, ds) := match rest with
      | '-' :: ds => (true, ds)
      | '+' :: ds => (false, ds)
      | ds => (false, ds)
    if (c = 'e' || c = 'E') && !ds.isEmpty && ds.all Char.isDigit then
      some (Binary64.signed negative (digitValue ds))
    else none

-- A numeral: an optional sign, digits, and perhaps a point with more digits; one of the two groups of
-- digits may be empty, and only a point after digits admits an exponent.
def ofNumeral? (cs : List Char) : Option Moment :=
  let (negative, body) := match cs with
    | '-' :: rest => (true, rest)
    | '+' :: rest => (false, rest)
    | _ => (false, cs)
  let ds := body.takeWhile Char.isDigit
  match body.dropWhile Char.isDigit with
  | [] => if ds.isEmpty then none else ofNumber? (Binary64.signed negative (digitValue ds))
  | '.' :: rest =>
    let fs := rest.takeWhile Char.isDigit
    let tail := rest.dropWhile Char.isDigit
    if ds.isEmpty && (fs.isEmpty || !tail.isEmpty) then none
    else (exponent? tail).bind fun e =>
      ofReal? (Binary64.ofDecimal negative (digitValue (ds ++ fs)) (e - fs.length))
  | _ => none

def ofText? (s : String) : Option Moment := (ofIso? s.toList).orElse fun _ => ofNumeral? s.toList

end SubscriptionLedger.Moment
