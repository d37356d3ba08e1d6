import Mathlib.Tactic.IntervalCases
import SubscriptionLedger.Moment

namespace SubscriptionLedger.Calendar

def yearOfEra (day : Int) : Int := (day - day / 1460 + day / 36524 - day / 146096) / 365

-- The days of an era before one of its years; the last year of an era ends with a leap day.
def yearStart (year : Int) : Int := 365 * year + year / 4 - year / 100 + year / 400

theorem yearOfEra_bounds (low : 0 ≤ day) (high : day < 146097) :
    0 ≤ yearOfEra day ∧ yearOfEra day < 400 := by
  unfold yearOfEra
  omega

theorem yearOfEra_within (low : 0 ≤ day) (high : day < 146097) :
    yearStart (yearOfEra day) ≤ day ∧ day < yearStart (yearOfEra day + 1) := by
  obtain rfl | inside : day = 146096 ∨ day < 146096 := by omega
  · decide
  obtain ⟨y, year⟩ : ∃ y, y = yearOfEra day := ⟨_, rfl⟩
  obtain ⟨from0, to400⟩ := yearOfEra_bounds low high
  rw [← year] at from0 to400 ⊢
  unfold yearOfEra at year
  unfold yearStart
  have flat : day / 146096 = 0 ∧ y / 400 = 0 := by omega
  rw [flat.1] at year
  rw [flat.2]
  -- The divisions interlock; with the century and its share fixed the rest is linear.
  obtain ⟨c, century⟩ : ∃ c, c = y / 100 := ⟨_, rfl⟩
  obtain ⟨f, share⟩ : ∃ f, f = day / 36524 := ⟨_, rfl⟩
  rw [← share] at year
  obtain ⟨c0, c3⟩ : 0 ≤ c ∧ c ≤ 3 := by omega
  obtain ⟨f0, f3⟩ : 0 ≤ f ∧ f ≤ 3 := by omega
  have turn : (y + 1) / 100 = c ∧ (y + 1) / 400 = 0 ∨ y = 100 * c + 99 := by omega
  have leap : (y + 1) / 4 = y / 4 ∨ (y + 1) / 4 = y / 4 + 1 ∧ y = 4 * (y / 4) + 3 := by omega
  interval_cases c <;> interval_cases f <;> rcases turn with same | last <;>
    rcases leap with plain | leap <;> omega

theorem ofDays_parts (days : Int) : ∃ era year dayOfYear m : Int,
    0 ≤ year ∧ year < 400 ∧ 0 ≤ dayOfYear ∧ dayOfYear < yearStart (year + 1) - yearStart year ∧
    0 ≤ m ∧ m ≤ 11 ∧ monthStart m ≤ dayOfYear ∧ dayOfYear < monthStart (m + 1) ∧
    days = era * 146097 + yearStart year + dayOfYear - 719468 ∧
    ofDays days = ⟨year + era * 400 + (if m < 10 then 0 else 1), (if m < 10 then m + 3 else m - 9).toNat,
      (dayOfYear - monthStart m + 1).toNat⟩ := by
  obtain ⟨z, hz⟩ : ∃ z, z = days + 719468 := ⟨_, rfl⟩
  have low : 0 ≤ z % 146097 := by omega
  have high : z % 146097 < 146097 := by omega
  obtain ⟨y0, y400⟩ := yearOfEra_bounds low high
  obtain ⟨after, before⟩ := yearOfEra_within low high
  obtain ⟨y, hy⟩ : ∃ y, y = yearOfEra (z % 146097) := ⟨_, rfl⟩
  rw [← hy] at y0 y400 after before
  obtain ⟨d, hd⟩ : ∃ d, d = z % 146097 - yearStart y := ⟨_, rfl⟩
  have split : d = z % 146097 - (365 * y + y / 4 - y / 100) := by rw [hd, yearStart]; omega
  have short : yearStart (y + 1) - yearStart y ≤ 366 := by unfold yearStart; omega
  refine ⟨z / 146097, y, d, (5 * d + 2) / 153, y0, y400, by omega, by omega, by omega, by omega,
    by unfold monthStart; omega, by unfold monthStart; omega, by omega, ?_⟩
  unfold ofDays
  simp only [← hz]
  rw [show (z % 146097 - z % 146097 / 1460 + z % 146097 / 36524 - z % 146097 / 146096) / 365 = y from hy.symm,
    ← split]
  have small : 0 ≤ (5 * d + 2) / 153 ∧ (5 * d + 2) / 153 ≤ 11 := by omega
  congr 1
  split <;> split <;> omega

theorem toDays_ofDays (days : Int) : toDays (ofDays days) = days := by
  obtain ⟨era, y, d, m, y0, y400, d0, short, m0, m11, after, before, same, date⟩ := ofDays_parts days
  rw [date, same]
  unfold monthStart at after before
  unfold yearStart at short
  simp only [toDays, monthStart, yearStart]
  by_cases spring : m < 10
  · have month : ¬ (m + 3).toNat ≤ 2 := by omega
    simp only [if_pos spring, if_neg month]
    omega
  · have month : (m - 9).toNat ≤ 2 := by omega
    simp only [if_neg spring, if_pos month]
    omega

theorem valid_ofDays (days : Int) : Valid (ofDays days) := by
  obtain ⟨era, y, d, m, y0, y400, d0, short, m0, m11, after, before, -, date⟩ := ofDays_parts days
  rw [date]
  unfold yearStart at short
  interval_cases m <;> simp only [monthStart] at after before <;> norm_num at after before <;>
    simp [Valid, daysInMonth, monthStart, isLeap] <;> omega

theorem year_ofDays (low : -719162 ≤ days) (high : days ≤ 2932896) :
    1 ≤ (ofDays days).year ∧ (ofDays days).year ≤ 9999 := by
  obtain ⟨era, y, d, m, y0, y400, d0, short, m0, m11, after, before, same, date⟩ := ofDays_parts days
  rw [date]
  unfold monthStart at after before
  unfold yearStart at short same
  dsimp only
  have eras : 0 ≤ era ∧ era ≤ 24 := by omega
  by_cases spring : m < 10
  · rw [if_pos spring]
    omega
  · rw [if_neg spring]
    -- Only the winter of an era's last year ends in a year of the next era.
    by_cases last : y = 399
    · subst last
      omega
    · omega

end SubscriptionLedger.Calendar

namespace SubscriptionLedger.Moment

variable {m : Moment}

structure Proper (m : Moment) : Prop where
  early : firstSecond * perSecond ≤ m.wall
  late : m.wall < (lastSecond + 1) * perSecond
  near : ∀ offset ∈ m.offset, -perDay < offset ∧ offset < perDay
  even : ∀ offset ∈ m.offset, offset % perMinute = 0

instance (m : Moment) : Decidable m.Proper :=
  decidable_of_iff (firstSecond * perSecond ≤ m.wall ∧ m.wall < (lastSecond + 1) * perSecond ∧
      (∀ offset ∈ m.offset, -perDay < offset ∧ offset < perDay) ∧ ∀ offset ∈ m.offset, offset % perMinute = 0)
    ⟨fun ⟨early, late, near, even⟩ => ⟨early, late, near, even⟩,
      fun ⟨early, late, near, even⟩ => ⟨early, late, near, even⟩⟩

theorem padded_eq (width n : Nat) : (padded width n).toList =
    List.replicate (width - (Nat.toDigits 10 n).length) '0' ++ Nat.toDigits 10 n := by
  simp [padded]

theorem length_padded (wide : 0 < width) (small : n < 10 ^ width) : (padded width n).toList.length = width := by
  have fits : (Nat.toDigits 10 n).length ≤ width := (Nat.length_toDigits_le_iff (by decide) wide).2 small
  rw [padded_eq]
  simp
  omega

theorem isDigit_padded (width n : Nat) : ∀ c ∈ (padded width n).toList, c.isDigit := by
  intro c member
  rw [padded_eq] at member
  rcases List.mem_append.1 member with zero | digit
  · rw [List.eq_of_mem_replicate zero]
    decide
  · exact Nat.isDigit_of_mem_toDigits (by decide) (by decide) digit

theorem valueOf_eq (ds : List Char) : Text.valueOf (ds.map fun c => c.toNat - 48) = Nat.ofDigitChars 10 ds 0 := by
  rw [Nat.ofDigitChars_eq_foldl, Text.valueOf, List.foldl_map]
  rfl

theorem valueOf_padded (width n : Nat) :
    Text.valueOf ((padded width n).toList.map fun c => c.toNat - 48) = n := by
  rw [valueOf_eq, padded_eq, Nat.ofDigitChars_append, Nat.ofDigitChars_replicate_zero, Nat.mul_zero,
    Nat.ofDigitChars_ten_toDigits]

theorem fixed?_padded (wide : 0 < width) (small : n < 10 ^ width) (rest : List Char) :
    fixed? width ((padded width n).toList ++ rest) = some (n, rest) := by
  have len := length_padded wide small
  have front : ((padded width n).toList ++ rest).take width = (padded width n).toList := by
    rw [List.take_append_of_le_length (by omega), List.take_of_length_le (by omega)]
  have back : ((padded width n).toList ++ rest).drop width = rest := by
    rw [List.drop_append_of_le_length (by omega), List.drop_of_length_le (by omega), List.nil_append]
  have digits : (padded width n).toList.all Char.isDigit := List.all_eq_true.2 (isDigit_padded width n)
  unfold fixed?
  simp only [front, back, len, digits, valueOf_padded]
  simp

-- What stands behind the seconds of a text cannot be taken for a part of them.
def Ends (cs : List Char) : Prop := ∀ c ∈ cs.head?, ¬ c.isDigit ∧ c ≠ '.' ∧ c ≠ ','

theorem takeWhile_padded (width n : Nat) (ends : Ends rest) :
    ((padded width n).toList ++ rest).takeWhile Char.isDigit = (padded width n).toList ∧
    ((padded width n).toList ++ rest).dropWhile Char.isDigit = rest := by
  have stop : rest.takeWhile Char.isDigit = [] ∧ rest.dropWhile Char.isDigit = rest := by
    cases rest with
    | nil => exact ⟨rfl, rfl⟩
    | cons c cs =>
      have other := (ends c rfl).1
      simp [List.takeWhile, List.dropWhile, other]
  rw [List.takeWhile_append_of_pos (isDigit_padded width n), List.dropWhile_append_of_pos (isDigit_padded width n),
    stop.1, stop.2, List.append_nil]
  exact ⟨rfl, rfl⟩

theorem fraction?_absent (ends : Ends rest) : fraction? rest = some (0, rest) := by
  cases rest with
  | nil => rfl
  | cons c cs =>
    obtain ⟨-, point, comma⟩ := ends c rfl
    simp [fraction?, point, comma]

theorem fraction?_padded (small : n < 10 ^ 6) (ends : Ends rest) :
    fraction? ('.' :: (padded 6 n).toList ++ rest) = some (n, rest) := by
  obtain ⟨front, back⟩ := takeWhile_padded 6 n ends
  have len := length_padded (by decide) small
  have full : ¬ (padded 6 n).toList = [] := by
    intro empty
    rw [empty] at len
    contradiction
  have kept : (padded 6 n).toList.take 6 = (padded 6 n).toList := List.take_of_length_le (by omega)
  have micros : fractionMicros (padded 6 n).toList = n := by
    unfold fractionMicros
    simp only [kept, valueOf_padded, len]
    simp
  rw [List.cons_append]
  simp only [fraction?, front, back, micros]
  simp [full]

theorem expect?_cons (c : Char) (rest : List Char) : expect? c (c :: rest) = some rest := by
  simp [expect?]

theorem date?_written (valid : Calendar.Valid d) (first : 1 ≤ d.year) (last : d.year ≤ 9999) (rest : List Char) :
    date? ((padded 4 d.year.toNat).toList ++ '-' :: ((padded 2 d.month).toList ++ '-' ::
      ((padded 2 d.day).toList ++ rest))) = some (d, rest) := by
  obtain ⟨year, month, day⟩ := d
  obtain ⟨month1, month12, day1, dayLast⟩ := id valid
  have days : day < 10 ^ 2 := by
    have most : Calendar.daysInMonth year month ≤ 31 := by
      unfold Calendar.daysInMonth
      split
      · split <;> omega
      · split <;> omega
    dsimp only at dayLast
    omega
  have years : year.toNat < 10 ^ 4 := by dsimp only at last; omega
  have back : (year.toNat : Int) = year := by dsimp only at first; omega
  unfold date?
  rw [fixed?_padded (by decide) years]
  dsimp only [Option.bind_eq_bind, Option.bind_some]
  rw [expect?_cons]
  dsimp only [Option.bind_some]
  rw [fixed?_padded (by decide) (by dsimp only at month12; omega)]
  dsimp only [Option.bind_some]
  rw [expect?_cons]
  dsimp only [Option.bind_some]
  rw [fixed?_padded (by decide) days]
  dsimp only [Option.bind_some]
  rw [back, if_pos ⟨valid, by dsimp only at first; omega⟩]

def fractionText (micros : Nat) : String := if micros = 0 then "" else "." ++ padded 6 micros

theorem timeOfDay?_written {s micros : Nat} (small : s < 86400) (fraction : micros < 10 ^ 6) (ends : Ends rest) :
    timeOfDay? ((padded 2 (s / 3600)).toList ++ ':' :: ((padded 2 (s / 60 % 60)).toList ++ ':' ::
      ((padded 2 (s % 60)).toList ++ ((fractionText micros).toList ++ rest)))) =
      some (s * perSecond + micros, rest) := by
  have back : fraction? ((fractionText micros).toList ++ rest) = some (micros, rest) := by
    unfold fractionText
    by_cases zero : micros = 0
    · rw [if_pos zero, zero]
      exact fraction?_absent ends
    · rw [if_neg zero, String.toList_append]
      exact fraction?_padded fraction ends
  unfold timeOfDay?
  rw [fixed?_padded (by decide) (by omega)]
  dsimp only [Option.bind_eq_bind, Option.bind_some]
  rw [expect?_cons]
  dsimp only [Option.bind_some]
  rw [fixed?_padded (by decide) (by omega)]
  dsimp only [Option.bind_some]
  split
  case h_2 other => exact absurd rfl (other _)
  case h_1 seconds same =>
    cases same
    rw [fixed?_padded (by decide) (by omega)]
    dsimp only [Option.bind_some]
    rw [back]
    dsimp only [Option.bind_some, pure]
    rw [if_pos (by simp; omega)]
    congr 4
    omega

theorem offset?_offsetText (offset : Int) {seconds : Nat} (short : seconds < 86400) : offset? (offsetText offset seconds).toList =
    some (some ((if offset < 0 then -1 else 1) * ((seconds / 60 : Nat) * perMinute))) := by
  obtain ⟨sign, signed⟩ : ∃ sign, sign = if offset < 0 then '-' else '+' := ⟨_, rfl⟩
  have text : (offsetText offset seconds).toList = sign :: ((padded 2 (seconds / 3600)).toList ++
      ':' :: ((padded 2 (seconds / 60 % 60)).toList ++ [])) := by
    unfold offsetText
    rw [signed]
    split <;> simp
  rw [text]
  have letter : ¬ (sign = 'Z' ∨ sign = 'z') ∧ (sign = '+' ∨ sign = '-') := by
    rw [signed]
    split <;> decide
  unfold offset?
  have hour : seconds / 3600 < 24 := by omega
  simp only [Bool.or_eq_true, decide_eq_true_eq, letter, if_false, if_true, true_or]
  rw [fixed?_padded (by decide) (by omega)]
  dsimp only [Option.bind_eq_bind, Option.bind_some]
  split
  case h_2 other => exact absurd rfl (other _)
  case h_1 minutes same =>
    cases same
    rw [fixed?_padded (by decide) (by omega)]
    dsimp only [Option.bind_some]
    rw [if_pos (by simp; omega), signed]
    congr 2
    unfold perMinute perSecond
    by_cases behind : offset < 0
    · simp only [if_pos behind]
      rw [if_neg (by decide)]
      omega
    · simp only [if_neg behind]
      rw [if_pos trivial]
      omega

theorem offset?_written {offset : Int} (near : -perDay < offset ∧ offset < perDay) (even : offset % perMinute = 0) :
    offset? (offsetText offset (offset.natAbs / 1000000)).toList = some (some offset) := by
  unfold perDay perMinute perSecond at *
  rw [offset?_offsetText offset (by omega)]
  unfold perMinute perSecond
  congr 2
  split <;> omega

theorem ends_offsetText (offset : Int) (seconds : Nat) (rest : List Char) :
    Ends ((offsetText offset seconds).toList ++ rest) := by
  intro c first
  unfold offsetText at first
  split at first <;>
  · simp at first
    subst first
    decide

theorem ofIso?_clockText (early : firstSecond * perSecond ≤ m.wall) (late : m.wall < (lastSecond + 1) * perSecond)
    (ends : Ends rest) (behind : offset? rest = some o) :
    ofIso? (m.clockText.toList ++ rest) = some ⟨m.wall, o⟩ := by
  unfold firstSecond lastSecond perSecond at *
  have written : m.clockText.toList ++ rest =
      (padded 4 m.date.year.toNat).toList ++ '-' :: ((padded 2 m.date.month).toList ++ '-' ::
        ((padded 2 m.date.day).toList ++ 'T' :: ((padded 2 (m.second / 3600)).toList ++ ':' ::
          ((padded 2 (m.second / 60 % 60)).toList ++ ':' :: ((padded 2 (m.second % 60)).toList ++
            ((fractionText m.micros).toList ++ rest)))))) := by
    unfold clockText fractionText
    simp [String.toList_append]
  have second : m.second < 86400 := by unfold Moment.second perDay perSecond; omega
  have micros : m.micros < 10 ^ 6 := by unfold Moment.micros perSecond; omega
  have years : 1 ≤ m.date.year ∧ m.date.year ≤ 9999 := by
    apply Calendar.year_ofDays
    all_goals
      unfold perDay perSecond
      omega
  have valid : Calendar.Valid m.date := Calendar.valid_ofDays _
  have total : Calendar.toDays m.date * perDay + (m.second * perSecond + m.micros) = m.wall := by
    rw [date, Calendar.toDays_ofDays]
    unfold Moment.second Moment.micros perDay perSecond
    omega
  rw [written]
  unfold ofIso?
  rw [date?_written valid years.1 years.2]
  dsimp only [Option.bind_eq_bind, Option.bind_some]
  rw [if_pos (by decide), timeOfDay?_written second micros ends]
  dsimp only [Option.bind_some]
  rw [behind]
  dsimp only [Option.bind_some]
  rw [total]

theorem ofText?_of_clockText (early : firstSecond * perSecond ≤ m.wall) (late : m.wall < (lastSecond + 1) * perSecond)
    (behind : String) (ends : Ends behind.toList) (offset : offset? behind.toList = some o) :
    ofText? (m.clockText ++ behind) = some ⟨m.wall, o⟩ := by
  unfold ofText?
  rw [String.toList_append, ofIso?_clockText early late ends offset]
  rfl

theorem ends_nil : Ends "".toList := by
  intro c first
  simp at first

theorem offset?_nil : offset? "".toList = some none := by
  simp [offset?]

theorem ends_Z : Ends "Z".toList := by
  intro c first
  simp at first
  subst first
  decide

theorem offset?_Z : offset? "Z".toList = some (some 0) := by
  simp [offset?]

theorem ends_offset (offset : Int) (seconds : Nat) : Ends (offsetText offset seconds).toList := by
  have ends := ends_offsetText offset seconds []
  rwa [List.append_nil] at ends

-- The offset that a text tells: the whole minutes of the nearest number of seconds.
def toldOffset (offset : Int) : Int := (if offset < 0 then -1 else 1) * ((offsetSeconds offset / 60 : Nat) * perMinute)

def told (m : Moment) : Moment := { m with offset := m.offset.map toldOffset }

structure Tellable (m : Moment) : Prop where
  early : firstSecond * perSecond ≤ m.wall
  late : m.wall < (lastSecond + 1) * perSecond
  short : ∀ offset ∈ m.offset, offsetSeconds offset < 86400

theorem ofText?_text_told (tellable : m.Tellable) : ofText? m.text = some m.told := by
  unfold text
  refine ofText?_of_clockText tellable.early tellable.late _ ?_ ?_
  · cases m.offset with
    | none => exact ends_nil
    | some offset =>
      dsimp only
      split
      · exact ends_Z
      · exact ends_offset offset _
  · cases known : m.offset with
    | none => exact offset?_nil
    | some offset =>
      dsimp only [Option.map]
      split
      · rename_i zero
        rw [offset?_Z]
        unfold toldOffset
        rw [zero, Nat.zero_div]
        simp
      · exact offset?_offsetText offset (tellable.short offset known)

theorem toldOffset_eq_iff (offset : Int) : toldOffset offset = offset ↔ offset % perMinute = 0 := by
  unfold toldOffset offsetSeconds perMinute perSecond
  split <;> omega

theorem instant_told : m.told.instant = m.instant ↔ ∀ offset ∈ m.offset, offset % perMinute = 0 := by
  unfold told instant
  cases m.offset with
  | none => simp
  | some offset =>
    simp only [Option.map_some, Option.getD_some, Instant.mk.injEq, Option.mem_some_iff, forall_eq']
    rw [← toldOffset_eq_iff]
    omega

theorem told_eq_iff : m.told = m ↔ ∀ offset ∈ m.offset, offset % perMinute = 0 := by
  obtain ⟨wall, offset⟩ := m
  unfold told
  cases offset with
  | none => simp
  | some offset => simp [toldOffset_eq_iff]

theorem Proper.tellable (proper : m.Proper) : m.Tellable where
  early := proper.early
  late := proper.late
  short offset known := by
    have near := proper.near offset known
    have even := proper.even offset known
    unfold perDay perSecond at near
    unfold perMinute perSecond at even
    unfold offsetSeconds
    omega

theorem Proper.told_eq (proper : m.Proper) : m.told = m := told_eq_iff.2 proper.even

theorem ofText?_columnText (proper : m.Proper) : ofText? m.columnText = some m := by
  unfold columnText
  apply ofText?_of_clockText proper.early proper.late
  all_goals cases known : m.offset with
    | none =>
      first
      | exact ends_nil
      | exact offset?_nil
    | some offset =>
      have even := proper.even offset known
      unfold perMinute perSecond at even
      have seconds : offset.natAbs / 1000000 % 60 = 0 := by omega
      have micros : offset.natAbs % 1000000 = 0 := by omega
      simp only [seconds, micros, decide_true, Bool.and_self, if_true, String.append_empty]
      first
      | exact ends_offset offset _
      | exact offset?_written (proper.near offset known) (proper.even offset known)

theorem proper_ofUnix (read : ofUnix seconds = .ok m) : m.Proper := by
  unfold ofUnix at read
  split at read
  · contradiction
  · split at read
    · contradiction
    · split at read
      · contradiction
      · cases read
        constructor
        · dsimp only
          unfold perSecond
          omega
        · dsimp only
          unfold perSecond
          omega
        · intro offset here
          cases here
          decide
        · intro offset here
          cases here
          decide

structure Clock (now : Moment) : Prop where
  here : now.Proper
  greenwich : (ofInstant now.instant).Proper

instance (now : Moment) : Decidable (Clock now) :=
  decidable_of_iff (now.Proper ∧ (ofInstant now.instant).Proper)
    ⟨fun ⟨here, greenwich⟩ => ⟨here, greenwich⟩, fun ⟨here, greenwich⟩ => ⟨here, greenwich⟩⟩

end SubscriptionLedger.Moment
