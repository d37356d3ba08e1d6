import Mathlib.Algebra.Order.Group.Int
import Mathlib.Data.Int.Init
import SubscriptionLedger.Proofs.Moment

namespace SubscriptionLedger

namespace Calendar

def next (d : Date) : Date :=
  if d.day < daysInMonth d.year d.month then { d with day := d.day + 1 }
  else if d.month < 12 then ⟨d.year, d.month + 1, 1⟩
  else ⟨d.year + 1, 1, 1⟩

def marchYear (d : Date) : Int := if d.month ≤ 2 then d.year - 1 else d.year
def marchMonth (d : Date) : Int := if d.month ≤ 2 then d.month + 9 else d.month - 3

variable {d d' : Date}

theorem toDays_eq (d : Date) : toDays d = yearStart (marchYear d) + (monthStart (marchMonth d) + d.day - 1) - 719468 := by
  unfold toDays marchYear marchMonth yearStart
  dsimp only
  split <;> omega

theorem yearStart_mono (earlier : y < y') : yearStart (y + 1) ≤ yearStart y' := by
  unfold yearStart
  omega

theorem monthStart_mono (earlier : m < m') : monthStart (m + 1) ≤ monthStart m' := by
  unfold monthStart
  omega

theorem day_within (valid : Valid d) : 0 ≤ marchMonth d ∧ marchMonth d ≤ 11 ∧
    (marchMonth d < 11 → monthStart (marchMonth d) + d.day ≤ monthStart (marchMonth d + 1)) ∧
    monthStart (marchMonth d) + d.day ≤ yearStart (marchYear d + 1) - yearStart (marchYear d) := by
  obtain ⟨year, month, day⟩ := d
  obtain ⟨month1, month12, day1, dayLast⟩ := valid
  dsimp only at *
  unfold daysInMonth isLeap at dayLast
  unfold marchMonth marchYear monthStart yearStart
  dsimp only
  interval_cases month <;> simp at dayLast ⊢ <;> (try split at dayLast) <;> omega

theorem toDays_injective (valid : Valid d) (valid' : Valid d') (same : toDays d = toDays d') : d = d' := by
  obtain ⟨m0, m11, month, year⟩ := day_within valid
  obtain ⟨m0', m11', month', year'⟩ := day_within valid'
  have first := valid.2.2.1
  have first' := valid'.2.2.1
  rw [toDays_eq, toDays_eq] at same
  have starts : ∀ m : Int, 0 ≤ m → 0 ≤ monthStart m := by
    intro m from0
    unfold monthStart
    omega
  have start := starts _ m0
  have start' := starts _ m0'
  have years : marchYear d = marchYear d' := by
    rcases lt_trichotomy (marchYear d) (marchYear d') with earlier | equal | later
    · have := yearStart_mono earlier
      omega
    · exact equal
    · have := yearStart_mono later
      omega
  rw [years] at same
  have months : marchMonth d = marchMonth d' := by
    rcases lt_trichotomy (marchMonth d) (marchMonth d') with earlier | equal | later
    · have := monthStart_mono earlier
      have := month (by omega)
      omega
    · exact equal
    · have := monthStart_mono later
      have := month' (by omega)
      omega
  rw [months] at same
  obtain ⟨y, m, n⟩ := d
  obtain ⟨y', m', n'⟩ := d'
  obtain ⟨m1, m12, -⟩ := valid
  obtain ⟨m1', m12', -⟩ := valid'
  unfold marchYear at years
  unfold marchMonth at months
  dsimp only at *
  have sameMonth : m = m' := by
    split at months <;> split at months <;> omega
  subst sameMonth
  congr 1
  · split at years <;> omega
  · omega

theorem ofDays_toDays (valid : Valid d) : ofDays (toDays d) = d :=
  toDays_injective (valid_ofDays _) valid (toDays_ofDays _)

theorem daysInMonth_pos (year : Int) (month : Nat) : 1 ≤ daysInMonth year month := by
  unfold daysInMonth
  split
  · split <;> decide
  · split <;> decide

theorem valid_next (valid : Valid d) : Valid (next d) := by
  obtain ⟨month1, month12, day1, dayLast⟩ := valid
  unfold next
  split
  · exact ⟨month1, month12, by dsimp only; omega, by dsimp only; omega⟩
  · split
    · exact ⟨by dsimp only; omega, by dsimp only; omega, le_rfl, daysInMonth_pos _ _⟩
    · exact ⟨le_rfl, by dsimp only; omega, le_rfl, daysInMonth_pos _ _⟩

theorem toDays_next (valid : Valid d) : toDays (next d) = toDays d + 1 := by
  obtain ⟨year, month, day⟩ := d
  obtain ⟨month1, month12, day1, dayLast⟩ := valid
  unfold next
  dsimp only at *
  split
  · rw [toDays_eq, toDays_eq]
    unfold marchYear marchMonth
    dsimp only
    omega
  · rename_i last
    unfold daysInMonth isLeap at last dayLast
    rw [toDays_eq]
    split
    · rw [toDays_eq]
      unfold marchYear marchMonth monthStart yearStart
      dsimp only
      interval_cases month <;> simp at last dayLast ⊢ <;> (try split at last) <;> (try split at dayLast) <;> omega
    · rw [toDays_eq]
      unfold marchYear marchMonth monthStart yearStart
      dsimp only
      have december : month = 12 := by omega
      subst december
      simp at last dayLast ⊢
      omega

theorem year_within_iff (valid : Valid d) : 1 ≤ d.year ∧ d.year ≤ 9999 ↔ -719162 ≤ toDays d ∧ toDays d ≤ 2932896 := by
  obtain ⟨m0, m11, -, last⟩ := day_within valid
  obtain ⟨month1, month12, day1, dayLast⟩ := valid
  have short : d.day ≤ 31 := by
    refine dayLast.trans ?_
    unfold daysInMonth
    split
    · split <;> decide
    · split <;> decide
  rw [toDays_eq]
  unfold marchMonth marchYear monthStart yearStart at *
  split <;> omega

end Calendar

structure Reading where
  date : Date
  hour : Nat
  minute : Nat
  second : Nat
deriving DecidableEq, Repr

namespace Reading

def tick (r : Reading) : Reading :=
  if r.second < 59 then { r with second := r.second + 1 }
  else if r.minute < 59 then { r with minute := r.minute + 1, second := 0 }
  else if r.hour < 23 then { r with hour := r.hour + 1, minute := 0, second := 0 }
  else ⟨Calendar.next r.date, 0, 0, 0⟩

structure Valid (r : Reading) : Prop where
  date : Calendar.Valid r.date
  hour : r.hour ≤ 23
  minute : r.minute ≤ 59
  second : r.second ≤ 59

def epoch : Reading := ⟨⟨1970, 1, 1⟩, 0, 0, 0⟩

-- What the clock shows some seconds after the beginning of 1970, or before it.
inductive At : Int → Reading → Prop where
  | epoch : At 0 epoch
  | later (here : At n r) : At (n + 1) r.tick
  | earlier (valid : r.Valid) (next : At (n + 1) r.tick) : At n r

def seconds (r : Reading) : Int := Calendar.toDays r.date * 86400 + (r.hour * 3600 + r.minute * 60 + r.second : Nat)

def ofSeconds (n : Int) : Reading :=
  ⟨Calendar.ofDays (n / 86400), (n % 86400 / 3600).toNat, (n % 86400 / 60 % 60).toNat, (n % 86400 % 60).toNat⟩

variable {r r' : Reading}

theorem valid_ofSeconds (n : Int) : (ofSeconds n).Valid where
  date := Calendar.valid_ofDays _
  hour := by unfold ofSeconds; dsimp only; omega
  minute := by unfold ofSeconds; dsimp only; omega
  second := by unfold ofSeconds; dsimp only; omega

theorem seconds_ofSeconds (n : Int) : (ofSeconds n).seconds = n := by
  unfold ofSeconds seconds
  dsimp only
  rw [Calendar.toDays_ofDays]
  omega

theorem ofSeconds_seconds (valid : r.Valid) : ofSeconds r.seconds = r := by
  obtain ⟨date, hour, minute, second⟩ := r
  obtain ⟨known, hours, minutes, seconds_⟩ := valid
  unfold ofSeconds seconds
  dsimp only at *
  congr 1
  · have day : (Calendar.toDays date * 86400 + (hour * 3600 + minute * 60 + second : Nat)) / 86400 = Calendar.toDays date := by omega
    rw [day, Calendar.ofDays_toDays known]
  · omega
  · omega
  · omega

theorem valid_tick (valid : r.Valid) : r.tick.Valid := by
  obtain ⟨known, hours, minutes, seconds_⟩ := valid
  unfold tick
  split
  · exact ⟨known, hours, minutes, by dsimp only; omega⟩
  · split
    · exact ⟨known, hours, by dsimp only; omega, Nat.zero_le _⟩
    · split
      · exact ⟨known, by dsimp only; omega, Nat.zero_le _, Nat.zero_le _⟩
      · exact ⟨Calendar.valid_next known, Nat.zero_le _, Nat.zero_le _, Nat.zero_le _⟩

theorem seconds_tick (valid : r.Valid) : r.tick.seconds = r.seconds + 1 := by
  obtain ⟨known, hours, minutes, seconds_⟩ := valid
  unfold tick seconds
  split
  · dsimp only
    omega
  · split
    · dsimp only
      omega
    · split
      · dsimp only
        omega
      · dsimp only
        rw [Calendar.toDays_next known]
        omega

theorem tick_ofSeconds (n : Int) : (ofSeconds n).tick = ofSeconds (n + 1) := by
  rw [← ofSeconds_seconds (valid_tick (valid_ofSeconds n)), seconds_tick (valid_ofSeconds n), seconds_ofSeconds]

theorem at_ofSeconds (n : Int) : At n (ofSeconds n) := by
  induction n using Int.induction_on with
  | zero => exact .epoch
  | succ n here =>
    rw [← tick_ofSeconds]
    exact .later here
  | pred n here =>
    refine .earlier (valid_ofSeconds _) ?_
    rw [tick_ofSeconds, sub_add_cancel]
    exact here

theorem at_iff : At n r ↔ r = ofSeconds n := by
  constructor
  · intro shown
    induction shown with
    | epoch => decide
    | later _ same => rw [same, tick_ofSeconds]
    | earlier valid _ same =>
      have after := seconds_tick valid
      rw [same, seconds_ofSeconds] at after
      rw [← ofSeconds_seconds valid]
      congr 1
      omega
  · rintro rfl
    exact at_ofSeconds n

end Reading

namespace Moment

def reading (m : Moment) : Reading := ⟨m.date, m.second / 3600, m.second / 60 % 60, m.second % 60⟩

theorem reading_seconds (n : Int) (offset : Option Int) : reading ⟨n * perSecond, offset⟩ = Reading.ofSeconds n := by
  unfold reading date second Reading.ofSeconds perDay perSecond
  dsimp only
  congr 1
  · congr 1
    omega
  · omega
  · omega
  · omega

theorem micros_seconds (n : Int) (offset : Option Int) : micros ⟨n * perSecond, offset⟩ = 0 := by
  unfold micros perSecond
  dsimp only
  omega

theorem year_ofSeconds_iff (n : Int) : 1 ≤ (Reading.ofSeconds n).date.year ∧ (Reading.ofSeconds n).date.year ≤ 9999 ↔
    firstSecond ≤ n ∧ n ≤ lastSecond := by
  have within := Calendar.year_within_iff (Calendar.valid_ofDays (n / 86400))
  rw [Calendar.toDays_ofDays] at within
  refine within.trans ?_
  unfold firstSecond lastSecond
  omega

end Moment
end SubscriptionLedger
