import Mathlib.Data.Rat.Cast.Order
import Mathlib.Tactic.Linarith
import Mathlib.Tactic.Positivity
import SubscriptionLedger.Moment

namespace SubscriptionLedger

namespace Binary64

def value? : Binary64 → Option ℚ
  | finite negative m e => some ((signed negative (fraction m e).1 : ℚ) / (fraction m e).2)
  | _ => none

theorem fraction_pos (m : Nat) (e : Int) : 0 < (fraction m e).2 := by
  unfold fraction
  split
  · exact Nat.one_pos
  · exact Nat.pow_pos (by decide)

theorem isBelow_iff {x : Binary64} {n : Int} : x.isBelow n ↔ ∃ r, x.value? = some r ∧ r < n := by
  cases x with
  | finite negative m e =>
    have den : (0 : ℚ) < (fraction m e).2 := by exact_mod_cast fraction_pos m e
    unfold isBelow value?
    dsimp only
    rw [decide_eq_true_iff]
    constructor
    · intro below
      refine ⟨_, rfl, (div_lt_iff₀ den).2 ?_⟩
      exact_mod_cast below
    · rintro ⟨_, ⟨⟩, below⟩
      have below := (div_lt_iff₀ den).1 below
      exact_mod_cast below
  | infinite | nan => simp [isBelow, value?]

theorem le_of_isBelow {x : Binary64} (value : x.value? = some r) (reached : x.isBelow n = false) : (n : ℚ) ≤ r := by
  refine le_of_not_gt fun early => ?_
  rw [isBelow_iff.2 ⟨r, value, early⟩] at reached
  cases reached

theorem roundDiv_near (num : Nat) {den : Nat} (positive : 0 < den) :
    2 * (den * roundDiv num den) ≤ 2 * num + den ∧ 2 * num ≤ 2 * (den * roundDiv num den) + den := by
  have parts := Nat.div_add_mod num den
  have rest := Nat.mod_lt num positive
  unfold roundDiv
  dsimp only
  split
  · omega
  · split
    · rw [Nat.mul_succ]
      omega
    · split
      · omega
      · rw [Nat.mul_succ]
        omega

theorem isBelow_finite (m k : Nat) (n : Int) : (finite false m (-(k + 1 : Nat))).isBelow n ↔ (m : Int) < n * (2 ^ (k + 1) : Nat) := by
  have negative : ¬ (0 : Int) ≤ -(k + 1 : Nat) := by omega
  unfold isBelow fraction
  dsimp only
  rw [if_neg negative]
  dsimp only
  rw [decide_eq_true_iff, Int.neg_neg, Int.toNat_natCast]
  exact Iff.rfl

end Binary64

open Binary64

-- The instants from 1970 to the year 2514.
def Instant.Early (i : Instant) : Prop := 0 ≤ i.micros ∧ i.micros < 2 ^ 34 * perSecond

theorem inUnits_small (num den k : Nat) : inUnits num den (-(k + 1 : Nat)) = roundDiv (num * 2 ^ (k + 1)) den := by
  unfold inUnits
  rw [if_neg (by omega), Int.neg_neg, Int.toNat_natCast]
  rfl

theorem ofRatio_early (early : num < 2 ^ 34 * 1000000) : ∃ k : Nat, 18 ≤ k ∧
    ofRatio false num 1000000 =
      if roundDiv (num * 2 ^ (k + 1)) 1000000 = 2 ^ 53 then finite false (2 ^ 52) (-k)
      else finite false (roundDiv (num * 2 ^ (k + 1)) 1000000) (-(k + 1 : Nat)) := by
  have bits : num.log2 ≤ 53 := by
    by_cases none : num = 0
    · subst none
      decide
    · exact Nat.lt_succ_iff.1 ((Nat.log2_lt none).2 (by omega))
  have scale : Nat.log2 1000000 = 19 := by decide
  obtain ⟨g, wide, guess⟩ : ∃ g : Nat, g + num.log2 = 71 ∧
      max ((num.log2 : Int) - (Nat.log2 1000000 : Nat) - 53) minExponent = -(g + 1 : Nat) := by
    refine ⟨71 - num.log2, by omega, ?_⟩
    rw [scale]
    unfold minExponent
    omega
  -- the first guess at the unit is fine unless the instant is late, and then there is room for the next one
  obtain ⟨k, chosen, small⟩ : ∃ k : Nat, (if num * 2 ^ (g + 1) / 1000000 < 2 ^ 53 then (-(g + 1 : Nat) : Int) else -(g + 1 : Nat) + 1) =
      -(k + 1 : Nat) ∧ 18 ≤ k := by
    split
    · exact ⟨g, rfl, by omega⟩
    · rename_i full
      have room : g ≠ 18 := by
        rintro rfl
        omega
      exact ⟨g - 1, by omega, by omega⟩
  have unit : (if (0 : Int) ≤ -(g + 1 : Nat) then num / (1000000 * 2 ^ (-(g + 1 : Nat) : Int).toNat)
      else num * 2 ^ (-(-(g + 1 : Nat) : Int)).toNat / 1000000) = num * 2 ^ (g + 1) / 1000000 := by
    rw [if_neg (by omega), Int.neg_neg, Int.toNat_natCast]
  refine ⟨k, small, ?_⟩
  unfold ofRatio
  simp only [guess, unit, Nat.pow_eq, chosen, inUnits_small]
  unfold maxExponent
  split
  · rw [if_neg (by omega)]
    congr 1
    change -(k + 1 : Nat) + 1 = (-k : Int)
    omega
  · rw [if_neg (by omega)]

theorem ofRatio_isBelow (num : Nat) (early : num < 2 ^ 34 * 1000000) : ∃ k : Nat, 19 ≤ k ∧
    ∀ n : Int, (ofRatio false num 1000000).isBelow n ↔ (roundDiv (num * 2 ^ k) 1000000 : Int) < n * (2 ^ k : Nat) := by
  obtain ⟨k, small, is⟩ := ofRatio_early early
  refine ⟨k + 1, by omega, fun n => ?_⟩
  rw [is]
  split
  · rename_i full
    obtain ⟨j, rfl⟩ : ∃ j, k = j + 1 := ⟨k - 1, by omega⟩
    rw [full, isBelow_finite]
    push_cast
    rw [pow_succ _ (j + 1)]
    constructor <;> intro below <;> nlinarith
  · exact isBelow_finite _ k n

theorem seconds_isBelow {i : Instant} (early : i.Early) (n : Int) : i.seconds.isBelow n ↔ i.micros < n * perSecond := by
  obtain ⟨past, future⟩ := early
  obtain ⟨num, is⟩ := Int.eq_ofNat_of_zero_le past
  unfold Instant.seconds
  rw [decide_eq_false (Int.not_lt.2 past), is]
  obtain ⟨k, small, below⟩ := ofRatio_isBelow num (by unfold perSecond at future; omega)
  refine (below n).trans ?_
  obtain ⟨upper, lower⟩ := roundDiv_near (num * 2 ^ k) (show 0 < 1000000 by decide)
  have unit : 2 ^ 19 ≤ 2 ^ k := Nat.pow_le_pow_right (by decide) small
  change _ ↔ (num : Int) < n * 1000000
  generalize roundDiv (num * 2 ^ k) 1000000 = rounded at upper lower ⊢
  generalize 2 ^ k = units at unit upper lower ⊢
  constructor
  · intro below
    by_contra late
    have scaled : n * units * 1000000 ≤ num * units := by nlinarith
    push_cast at *
    zify at *
    linarith
  · intro before
    have scaled : (num + 1) * units ≤ n * units * 1000000 := by nlinarith
    zify at *
    linarith

theorem within_of_isBelow {i : Instant} {first last : Int} (early : i.Early) (begun : i.seconds.isBelow first = false)
    (unexpired : i.seconds.isBelow last) : first * perSecond ≤ i.micros ∧ i.micros < last * perSecond := by
  refine ⟨Int.not_lt.1 fun late => ?_, (seconds_isBelow early last).1 unexpired⟩
  rw [(seconds_isBelow early first).2 late] at begun
  cases begun

end SubscriptionLedger
