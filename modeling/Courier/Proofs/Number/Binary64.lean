import Courier.Number.Binary64
import Mathlib.Algebra.Order.Field.Rat
import Mathlib.Data.Nat.Cast.Order.Field
import Mathlib.Data.Nat.Cast.Field
import Mathlib.Data.Rat.Cast.Order
import Mathlib.Tactic.FieldSimp
import Mathlib.Tactic.Positivity
import Mathlib.Tactic.Ring

/-!
What a binary64 number stands for, and when that is an integer.  Rounding an integer never leaves
a fraction: either the significand is scaled up without a rest, or the exponent is not negative.
-/

namespace Courier.Number.Binary64

variable {x : Binary64} {z : Int}

/-- The number that is meant. -/
def value (x : Binary64) : ℚ :=
  (if x.negative then -1 else 1) * (x.significand * (2 : ℚ) ^ x.exponent)

/-- The ratio is the absolute value. -/
lemma ratio_eq (x : Binary64) :
    0 < x.ratio.2 ∧ (x.ratio.1 : ℚ) / x.ratio.2 = x.significand * (2 : ℚ) ^ x.exponent := by
  unfold ratio
  split
  next h =>
    refine ⟨Nat.one_pos, ?_⟩
    have hexp : x.exponent = (x.exponent.toNat : Int) := by omega
    rw [hexp, zpow_natCast]
    show ((x.significand * 2 ^ x.exponent.toNat : Nat) : ℚ) / ((1 : Nat) : ℚ) = _
    push_cast
    rw [div_one]
  next h =>
    refine ⟨Nat.pow_pos (by decide), ?_⟩
    have hexp : x.exponent = -((-x.exponent).toNat : Int) := by omega
    rw [hexp, zpow_neg, zpow_natCast, neg_neg, Int.toNat_natCast]
    show (x.significand : ℚ) / ((2 ^ (-x.exponent).toNat : Nat) : ℚ) = _
    push_cast
    rw [div_eq_mul_inv]

/-- **A number without a fraction** gives the integer that it stands for, and no other does. -/
theorem toInt?_eq_some_iff : x.toInt? = some z ↔ x.value = z := by
  obtain ⟨hpos, hratio⟩ := x.ratio_eq
  have hne : (x.ratio.2 : ℚ) ≠ 0 := Nat.cast_ne_zero.mpr hpos.ne'
  have hvalue : x.value = (if x.negative then -1 else 1) * ((x.ratio.1 : ℚ) / x.ratio.2) := by
    rw [hratio]
    rfl
  unfold toInt?
  dsimp only
  rw [hvalue]
  split
  next hrest =>
    -- the denominator divides the numerator
    have hdiv : (x.ratio.1 : ℚ) / x.ratio.2 = ((x.ratio.1 / x.ratio.2 : Nat) : ℚ) :=
      (Nat.cast_div (Nat.dvd_of_mod_eq_zero hrest) hne).symm
    rw [hdiv, Option.some_inj]
    cases x.negative with
    | true =>
      simp only [if_true, neg_mul, one_mul]
      exact ⟨fun h => by rw [← h]; push_cast; rfl,
        fun h => Int.cast_injective (α := ℚ) (by rw [← h]; push_cast; rfl)⟩
    | false =>
      simp only [Bool.false_eq_true, if_false, one_mul]
      exact ⟨fun h => by rw [← h]; rfl,
        fun h => Int.cast_injective (α := ℚ) (by rw [← h]; rfl)⟩
  next hrest =>
    refine iff_of_false nofun fun h => hrest ?_
    have habs : (x.ratio.1 : ℚ) = (z.natAbs * x.ratio.2 : Nat) := by
      have hz : (x.ratio.1 : ℚ) / x.ratio.2 = |(z : ℚ)| := by
        have hnonneg : (0 : ℚ) ≤ (x.ratio.1 : ℚ) / x.ratio.2 := by positivity
        rw [← h]
        cases x.negative <;> simp [abs_of_nonneg hnonneg]
      rw [div_eq_iff hne] at hz
      rw [hz]
      push_cast
      rw [← Int.cast_abs, Int.abs_eq_natAbs]
      norm_cast
    rw [Nat.cast_inj.mp habs]
    exact Nat.mul_mod_left _ _

/-! ### Rounded integers -/

lemma divNearest_one (n : Nat) : divNearest n 1 = n := by
  unfold divNearest
  simp [Nat.mod_one]

lemma toInt?_of_nonneg (h : 0 ≤ x.exponent) : x.toInt?.isSome = true := by
  unfold toInt? ratio
  rw [if_pos h]
  simp [Nat.mod_one]

lemma toInt?_of_dvd (h : ¬0 ≤ x.exponent) (hd : Nat.pow 2 (-x.exponent).toNat ∣ x.significand) :
    x.toInt?.isSome = true := by
  unfold toInt? ratio
  rw [if_neg h]
  dsimp only
  rw [if_pos (Nat.mod_eq_zero_of_dvd hd)]
  rfl

lemma toInt?_zero (negative : Bool) : (zero negative).toInt?.isSome = true :=
  toInt?_of_dvd (show ¬(0 : Int) ≤ -1074 by decide) (Nat.dvd_zero _)

/-- An integer that is rounded stays an integer. -/
lemma toInt?_of_ofRatio? {negative : Bool} {n : Nat} (h : ofRatio? negative n 1 = some x) :
    x.toInt?.isSome = true := by
  unfold ofRatio? at h
  split at h
  next =>
    obtain rfl := Option.some.inj h
    exact toInt?_zero negative
  next =>
    dsimp only at h
    by_cases he : 0 ≤ exponentFor n 1
    · rw [show scaleDown n 1 (exponentFor n 1) = (n, 1 * Nat.pow 2 (exponentFor n 1).toNat) from
        if_pos he] at h
      split at h <;> split at h
      · cases h
      · obtain rfl := Option.some.inj h
        exact toInt?_of_nonneg (Int.add_nonneg he (by decide))
      · cases h
      · obtain rfl := Option.some.inj h
        exact toInt?_of_nonneg he
    · rw [show scaleDown n 1 (exponentFor n 1) = (n * Nat.pow 2 (-exponentFor n 1).toNat, 1) from
        if_neg he] at h
      dsimp only at h
      rw [divNearest_one] at h
      split at h
      next hfull =>
        split at h
        · cases h
        · obtain rfl := Option.some.inj h
          by_cases he' : 0 ≤ exponentFor n 1 + 1
          · exact toInt?_of_nonneg he'
          · refine toInt?_of_dvd he' ?_
            -- the significand was cut in half, and so is the denominator
            obtain ⟨k, hk⟩ : ∃ k, (-exponentFor n 1).toNat = k + 1 :=
              ⟨(-exponentFor n 1).toNat - 1, by omega⟩
            have hk' : (-(exponentFor n 1 + 1)).toNat = k := by omega
            have hhalf : Nat.pow 2 precision = 2 * Nat.pow 2 (precision - 1) := rfl
            have hdouble : Nat.pow 2 (k + 1) = Nat.pow 2 k * 2 := rfl
            rw [hk, hhalf, hdouble, ← Nat.mul_assoc, Nat.mul_comm 2] at hfull
            rw [hk']
            exact ⟨n, by rw [Nat.mul_comm, Nat.eq_of_mul_eq_mul_right (by decide) hfull]⟩
      next =>
        split at h
        · cases h
        · obtain rfl := Option.some.inj h
          exact toInt?_of_dvd he (Nat.dvd_mul_left _ _)

/-- The number nearest to an integer is an integer. -/
theorem toInt?_ofInt (i : Int) : (ofInt i).toInt?.isSome = true := by
  unfold ofInt
  cases h : ofRatio? (decide (i < 0)) i.natAbs 1 with
  | none => exact toInt?_zero false
  | some x => exact toInt?_of_ofRatio? h

/-! ### Integers with more digits than a significand -/

lemma le_divNearest (num den : Nat) : num / den ≤ divNearest num den := by
  unfold divNearest
  dsimp only
  split
  · exact Nat.le_succ _
  · exact Nat.le_refl _

section Long

variable {n j : Nat} (hlow : 2 ^ (j + 53) ≤ n) (hhigh : n < 2 ^ (j + 54))
include hlow hhigh

/-- The exponent counts the digits that a significand has no room for. -/
lemma exponentFor_of_long : exponentFor n 1 = j + 1 := by
  have hlog : n.log2 = j + 53 :=
    (Nat.log2_eq_iff (Nat.ne_of_gt (Nat.lt_of_lt_of_le (by positivity) hlow))).mpr ⟨hlow, hhigh⟩
  have hguess : (n.log2 : Int) - (Nat.log2 1 : Nat) - (precision : Nat) = j := by
    rw [hlog, show Nat.log2 1 = 0 from rfl, show precision = 53 from rfl]
    omega
  have hscale : scaleDown n 1 j = (n, 2 ^ j) := by
    unfold scaleDown
    rw [if_pos (Int.natCast_nonneg j), Nat.one_mul, Int.toNat_natCast]
    rfl
  have hfull : ¬n / 2 ^ j < Nat.pow 2 precision := by
    have hle : 2 ^ 53 ≤ n / 2 ^ j := by
      rw [Nat.le_div_iff_mul_le (by positivity), ← Nat.pow_add, Nat.add_comm]
      exact hlow
    exact Nat.not_lt.mpr hle
  unfold exponentFor
  dsimp only
  rw [hguess, hscale]
  dsimp only
  rw [if_neg hfull]
  exact max_eq_right (by unfold minExponent; omega)

/-- **Rounding keeps the length** of an integer: the power of two that begins it is a bound. -/
theorem ofRatio?_of_long {negative : Bool} (hj : j ≤ 969) :
    ∃ x, ofRatio? negative n 1 = some x ∧ x.negative = negative ∧ 0 ≤ x.exponent ∧
      2 ^ (j + 53) ≤ x.significand * 2 ^ x.exponent.toNat := by
  have hne : n ≠ 0 := Nat.ne_of_gt (Nat.lt_of_lt_of_le (by positivity) hlow)
  have hscale : scaleDown n 1 (j + 1) = (n, 2 ^ (j + 1)) := by
    unfold scaleDown
    rw [if_pos (by omega), Nat.one_mul]
    rfl
  have hlong : 2 ^ 52 ≤ divNearest n (2 ^ (j + 1)) := by
    refine Nat.le_trans ?_ (le_divNearest _ _)
    rw [Nat.le_div_iff_mul_le (by positivity), ← Nat.pow_add]
    exact Nat.le_trans (Nat.pow_le_pow_right (by decide) (by omega)) hlow
  unfold ofRatio?
  rw [if_neg hne, exponentFor_of_long hlow hhigh]
  dsimp only
  rw [hscale]
  dsimp only
  split
  next hfull =>
    refine ⟨⟨negative, 2 ^ 52, j + 2⟩, ?_, rfl, by simp only; omega, ?_⟩
    · exact if_neg (by unfold maxExponent; omega)
    · show 2 ^ (j + 53) ≤ 2 ^ 52 * 2 ^ (j + 2)
      rw [← Nat.pow_add]
      exact Nat.pow_le_pow_right (by decide) (by omega)
  next hfits =>
    refine ⟨⟨negative, divNearest n (2 ^ (j + 1)), j + 1⟩, ?_, rfl, by simp only; omega, ?_⟩
    · exact if_neg (by unfold maxExponent; omega)
    · show 2 ^ (j + 53) ≤ divNearest n (2 ^ (j + 1)) * 2 ^ (j + 1)
      rw [show j + 53 = 52 + (j + 1) by omega, Nat.pow_add]
      exact Nat.mul_le_mul_right _ hlong

end Long

lemma toInt?_eq_of_nonneg (h : 0 ≤ x.exponent) (hsign : x.negative = false) :
    x.toInt? = some (x.significand * 2 ^ x.exponent.toNat : Nat) := by
  unfold toInt? ratio
  rw [if_pos h, hsign]
  simp [Nat.mod_one]

/-- An integer of 64 digits is not made less by rounding than the least of them. -/
theorem toInt?_ofInt_of_long {i : Int} (hlow : 9223372036854775808 ≤ i)
    (hhigh : i ≤ 18446744073709551615) :
    ∃ z, (ofInt i).toInt? = some z ∧ 9223372036854775808 ≤ z := by
  have hnonneg : decide (i < 0) = false := decide_eq_false (by omega)
  obtain ⟨x, hx, hsign, hexp, hle⟩ : ∃ x, ofRatio? false i.natAbs 1 = some x ∧
      x.negative = false ∧ 0 ≤ x.exponent ∧ 2 ^ (10 + 53) ≤ x.significand * 2 ^ x.exponent.toNat :=
    ofRatio?_of_long (by omega) (by omega) (by decide)
  refine ⟨(x.significand * 2 ^ x.exponent.toNat : Nat), ?_, by omega⟩
  unfold ofInt
  rw [hnonneg, hx]
  exact toInt?_eq_of_nonneg hexp hsign

end Courier.Number.Binary64
