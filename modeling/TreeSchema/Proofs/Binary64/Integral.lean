/-
Integers among the doubles.

Whether a double has a fractional part can be seen from its place on the line of doubles
(`isIntegral_eq_of_sameRank`).  And to round an integer of sixty-four bits never gives one
(`isIntegral_ofInt`).  Up to fifty-three bits the integer is kept as it is, with a significand that
is the integer followed by zeros.  Any longer one becomes a double so large that its last digit
stands for a whole number.
-/
import Mathlib.Tactic.Lemma
import Mathlib.Tactic.NormNum
import TreeSchema.Binary64.Basic

namespace TreeSchema

namespace Binary64

variable {x y : Binary64}

/-! ### Places -/

lemma rank_of_isNaN (h : x.isNaN = true) : x.rank = infinityMagnitude + 1 := by
  simp [rank, h]

lemma rank_le_of_not_isNaN (h : x.isNaN = false) :
    x.rank ≤ infinityMagnitude ∧ x.magnitude = x.rank.natAbs := by
  have hle : x.magnitude ≤ infinityMagnitude := by simpa [isNaN] using h
  unfold rank
  split_ifs <;> simp_all

/-- What shares a place with a NaN is one, and all else that shares a place has one magnitude. -/
lemma isNaN_or_magnitude_eq_of_sameRank (h : x.sameRank y = true) :
    (x.isNaN = true ∧ y.isNaN = true) ∨ x.magnitude = y.magnitude := by
  have hrank : x.rank = y.rank := by simpa [sameRank] using h
  cases hx : x.isNaN <;> cases hy : y.isNaN
  · have := rank_le_of_not_isNaN hx
    have := rank_le_of_not_isNaN hy
    right; omega
  · have := rank_le_of_not_isNaN hx
    have := rank_of_isNaN hy
    omega
  · have := rank_of_isNaN hx
    have := rank_le_of_not_isNaN hy
    omega
  · simp

lemma isIntegral_of_magnitude_eq (h : x.magnitude = y.magnitude) : x.isIntegral = y.isIntegral := by
  unfold isIntegral isFinite significand denominator exponent exponentField fraction
  rw [h]

lemma isIntegral_of_isNaN (h : x.isNaN = true) : x.isIntegral = false := by
  have hlt : infinityMagnitude < x.magnitude := by simpa [isNaN] using h
  have hfinite : x.isFinite = false := by simpa [isFinite] using hlt.le
  simp [isIntegral, hfinite]

/-- Doubles that share a place both have a fractional part, or neither has. -/
theorem isIntegral_eq_of_sameRank (h : x.sameRank y = true) : x.isIntegral = y.isIntegral := by
  rcases isNaN_or_magnitude_eq_of_sameRank h with ⟨hx, hy⟩ | hmagnitude
  · rw [isIntegral_of_isNaN hx, isIntegral_of_isNaN hy]
  · exact isIntegral_of_magnitude_eq hmagnitude

/-! ### Doubles without fractional part -/

lemma isIntegral_of_dvd (hfinite : x.isFinite = true) (h : x.denominator ∣ x.significand) :
    x.isIntegral = true := by
  simp [isIntegral, hfinite, Nat.mod_eq_zero_of_dvd h]

/-- From `2 ^ 52` on no finite double has a fractional part. -/
lemma isIntegral_of_le_magnitude (hfinite : x.isFinite = true)
    (h : 1075 * 2 ^ 52 ≤ x.magnitude) : x.isIntegral = true := by
  refine isIntegral_of_dvd hfinite ?_
  have hfield : 1075 ≤ x.exponentField := (Nat.le_div_iff_mul_le (by decide)).mpr h
  have hexponent : x.exponent = (x.exponentField : Int) - 1075 := if_neg (by omega)
  have hdenominator : x.denominator = 1 := by
    rw [denominator, hexponent, Int.toNat_of_nonpos (by omega)]
  rw [hdenominator]
  exact Nat.one_dvd _

/-- A double `m * 2 ^ (k - 52)` is whole if only zeros of `m` stand behind the point. -/
lemma isIntegral_of_magnitude {k m : Nat} (hk : k ≤ 52) (hlow : 2 ^ 52 ≤ m) (hhigh : m < 2 ^ 53)
    (hmagnitude : x.magnitude = (k + 1022) * 2 ^ 52 + m) (hdvd : 2 ^ (52 - k) ∣ m) :
    x.isIntegral = true := by
  have hfield : x.exponentField = k + 1023 := by
    rw [exponentField, hmagnitude, Nat.pow_eq]
    omega
  have hfraction : x.fraction = m - 2 ^ 52 := by
    rw [fraction, hmagnitude, Nat.pow_eq]
    omega
  have hfinite : x.isFinite = true := by
    simp only [isFinite, infinityMagnitude, Nat.pow_eq, hmagnitude, decide_eq_true_eq]
    omega
  refine isIntegral_of_dvd hfinite ?_
  have hsignificand : x.significand = m := by
    rw [significand, if_neg (by omega), hfraction, Nat.pow_eq]
    omega
  have hexponent : x.exponent = -((52 - k : Nat) : Int) := by
    rw [exponent, if_neg (by omega), hfield]
    omega
  rw [hsignificand, denominator, hexponent, neg_neg, Int.toNat_natCast]
  exact hdvd

/-! ### Rounding integers -/

lemma magnitude_ofMagnitude (negative : Bool) {magnitude : Nat} (h : magnitude < 2 ^ 63) :
    (ofMagnitude negative magnitude).magnitude = magnitude := by
  unfold ofMagnitude Binary64.magnitude
  simp only [Nat.pow_eq, UInt64.toNat_ofNat']
  cases negative <;> simp <;> omega

lemma roundingExponent_one {n : Nat} (hn : n ≠ 0) : roundingExponent n 1 = (n.log2 : Int) - 52 := by
  have hlow : 2 ^ n.log2 ≤ n := Nat.log2_self_le hn
  obtain ⟨guess, hguess⟩ : ∃ guess : Int, guess = (n.log2 : Int) - 53 := ⟨_, rfl⟩
  have hfits : ¬ upscaled n guess < downscaled 1 guess * Nat.pow 2 53 := by
    rw [Nat.not_lt, upscaled, downscaled, Nat.one_mul]
    calc Nat.pow 2 guess.toNat * Nat.pow 2 53 = 2 ^ (guess.toNat + 53) := (Nat.pow_add ..).symm
      _ = 2 ^ (n.log2 + (-guess).toNat) := by congr 1; omega
      _ = 2 ^ n.log2 * 2 ^ (-guess).toNat := Nat.pow_add ..
      _ ≤ n * Nat.pow 2 (-guess).toNat := Nat.mul_le_mul_right _ hlow
  have hone : Nat.log2 1 = 0 := by decide
  simp only [roundingExponent, hone, Nat.cast_zero, sub_zero, ← hguess, hfits]
  simp
  omega

lemma roundQuotient_one (num : Nat) : roundQuotient num 1 = num := by
  simp [roundQuotient, Nat.mod_one]

lemma roundQuotient_bounds (num den : Nat) :
    num / den ≤ roundQuotient num den ∧ roundQuotient num den ≤ num / den + 1 := by
  unfold roundQuotient
  dsimp only
  split_ifs <;> omega

/-- Up to fifty-three bits the significand is the number itself, shifted. -/
lemma roundedMagnitude_one_of_le {n : Nat} (hn : n ≠ 0) (hbits : n.log2 ≤ 52) :
    roundedMagnitude n 1 = (n.log2 + 1022) * 2 ^ 52 + n * 2 ^ (52 - n.log2) ∧
      2 ^ 52 ≤ n * 2 ^ (52 - n.log2) ∧ n * 2 ^ (52 - n.log2) < 2 ^ 53 := by
  have hlow : 2 ^ 52 ≤ n * 2 ^ (52 - n.log2) :=
    calc 2 ^ 52 = 2 ^ n.log2 * 2 ^ (52 - n.log2) := by rw [← Nat.pow_add]; congr 1; omega
      _ ≤ n * 2 ^ (52 - n.log2) := Nat.mul_le_mul_right _ (Nat.log2_self_le hn)
  have hhigh : n * 2 ^ (52 - n.log2) < 2 ^ 53 :=
    calc n * 2 ^ (52 - n.log2) < 2 ^ (n.log2 + 1) * 2 ^ (52 - n.log2) :=
          Nat.mul_lt_mul_of_pos_right Nat.lt_log2_self (Nat.two_pow_pos _)
      _ = 2 ^ 53 := by rw [← Nat.pow_add]; congr 1; omega
  have hup : upscaled n ((n.log2 : Int) - 52) = n * 2 ^ (52 - n.log2) := by
    rw [upscaled, Nat.pow_eq]
    congr 2
    omega
  have hdown : downscaled 1 ((n.log2 : Int) - 52) = 1 := by
    rw [downscaled, Int.toNat_of_nonpos (by omega)]
  have hshift : ((n.log2 : Int) - 52 + 1074).toNat = n.log2 + 1022 := by omega
  refine ⟨?_, hlow, hhigh⟩
  simp only [roundedMagnitude, if_neg hn, roundingExponent_one hn, hup, hdown, hshift,
    roundQuotient_one, infinityMagnitude, Nat.pow_eq]
  omega

/-- Beyond fifty-three bits the significand is the number of its first fifty-three bits, rounded. -/
lemma roundedMagnitude_one_eq {n : Nat} (hbits : 52 < n.log2) (h : n < 2 ^ 64) :
    roundedMagnitude n 1 = (n.log2 + 1022) * 2 ^ 52 + roundQuotient n (2 ^ (n.log2 - 52)) ∧
      2 ^ 52 ≤ roundQuotient n (2 ^ (n.log2 - 52)) ∧
      roundQuotient n (2 ^ (n.log2 - 52)) ≤ 2 ^ 53 := by
  have hn : n ≠ 0 := by rintro rfl; simp at hbits
  have hlog : n.log2 < 64 := (Nat.log2_lt hn).mpr h
  have hup : upscaled n ((n.log2 : Int) - 52) = n := by
    rw [upscaled, Int.toNat_of_nonpos (by omega)]
    exact Nat.mul_one n
  have hdown : downscaled 1 ((n.log2 : Int) - 52) = 2 ^ (n.log2 - 52) := by
    rw [downscaled, Nat.one_mul, Nat.pow_eq]
    congr 1
    omega
  have hshift : ((n.log2 : Int) - 52 + 1074).toNat = n.log2 + 1022 := by omega
  have hlow : 2 ^ 52 ≤ n / 2 ^ (n.log2 - 52) := by
    rw [Nat.le_div_iff_mul_le (Nat.two_pow_pos _), ← Nat.pow_add]
    exact Nat.le_trans (Nat.le_of_eq (by congr 1; omega)) (Nat.log2_self_le hn)
  have hhigh : n / 2 ^ (n.log2 - 52) < 2 ^ 53 := by
    rw [Nat.div_lt_iff_lt_mul (Nat.two_pow_pos _), ← Nat.pow_add]
    exact Nat.lt_of_lt_of_eq Nat.lt_log2_self (by congr 1; omega)
  obtain ⟨hround, hround'⟩ := roundQuotient_bounds n (2 ^ (n.log2 - 52))
  refine ⟨?_, by omega, by omega⟩
  simp only [roundedMagnitude, if_neg hn, roundingExponent_one hn, hup, hdown, hshift,
    infinityMagnitude, Nat.pow_eq]
  omega

/-- Beyond fifty-three bits the magnitude is one of those without fractional part. -/
lemma roundedMagnitude_one_of_lt {n : Nat} (hbits : 52 < n.log2) (h : n < 2 ^ 64) :
    1075 * 2 ^ 52 ≤ roundedMagnitude n 1 ∧ roundedMagnitude n 1 < infinityMagnitude := by
  have hn : n ≠ 0 := by rintro rfl; simp at hbits
  have hlog : n.log2 < 64 := (Nat.log2_lt hn).mpr h
  obtain ⟨hmagnitude, hlow, hhigh⟩ := roundedMagnitude_one_eq hbits h
  rw [hmagnitude, infinityMagnitude, Nat.pow_eq]
  omega

/-- The double nearest to an integer of sixty-four bits has no fractional part. -/
lemma isIntegral_roundRatio_one (negative : Bool) {n : Nat} (h : n < 2 ^ 64) :
    (roundRatio negative n 1).isIntegral = true := by
  by_cases hn : n = 0
  · subst hn
    have hmagnitude : (roundRatio negative 0 1).magnitude = 0 :=
      magnitude_ofMagnitude negative (by decide)
    refine isIntegral_of_dvd (by simp [isFinite, hmagnitude, infinityMagnitude]) ?_
    simp [significand, exponentField, fraction, hmagnitude]
  by_cases hbits : n.log2 ≤ 52
  · obtain ⟨hmagnitude, hlow, hhigh⟩ := roundedMagnitude_one_of_le hn hbits
    refine isIntegral_of_magnitude hbits hlow hhigh ?_ (Nat.dvd_mul_left _ _)
    rw [roundRatio, magnitude_ofMagnitude negative (by omega), hmagnitude]
  · obtain ⟨hlarge, hfinite⟩ := roundedMagnitude_one_of_lt (Nat.lt_of_not_le hbits) h
    have hmagnitude : (roundRatio negative n 1).magnitude = roundedMagnitude n 1 := by
      refine magnitude_ofMagnitude negative (Nat.lt_trans hfinite ?_)
      decide
    refine isIntegral_of_le_magnitude ?_ (hmagnitude ▸ hlarge)
    simpa [isFinite, hmagnitude] using hfinite

/-- **Integers of sixty-four bits, signed or not, are rounded to integers.** -/
theorem isIntegral_ofInt {i : Int} (hlow : -(2 ^ 63) ≤ i) (hhigh : i < 2 ^ 64) :
    (ofInt i).isIntegral = true := by
  cases i with
  | ofNat n => exact isIntegral_roundRatio_one false (by simpa using hhigh)
  | negSucc n => exact isIntegral_roundRatio_one true (by omega)

end Binary64

end TreeSchema
