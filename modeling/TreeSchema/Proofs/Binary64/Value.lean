/-
What doubles stand for.

A finite double stands for a rational number (`Binary64.value`).  All these numbers are multiples of
the least positive one, `2 ^ -1074`, so a double has a whole number of such units, and the units of
a magnitude grow with the magnitude.  Hence doubles lie on the line of all doubles as their values
lie among the numbers (`value_lt_value_iff`).

An integer of sixty-four bits is rounded to a double that no other double is nearer to
(`nearest_ofInt`).  Two things follow.  Rounding does not carry an integer past a double
(`value_ofInt_le`, `le_value_ofInt`), and it leaves just those integers alone that have no more than
fifty-three significant bits (`value_ofInt_eq_iff`).
-/
import Mathlib.Algebra.Order.Field.Basic
import Mathlib.Tactic.Linarith
import Mathlib.Tactic.Ring
import TreeSchema.Proofs.Binary64.Integral

namespace TreeSchema

namespace Binary64

variable {x y : Binary64} {n : Nat} {i : Int}

/-- The number that a finite double stands for. -/
def value (x : Binary64) : ℚ := (if x.isNegative then -1 else 1) * x.significand * 2 ^ x.exponent

/-! ### Units -/

/-- How far behind the point the last binary digit of a double may stand.  The power of two of that
number is not one to be written out, hence it is not unfolded. -/
@[irreducible]
def lastPlace : Nat := 1074

/-- How many units of `2 ^ -1074` make up one. -/
def unitsOfOne : Nat := 2 ^ lastPlace

/-- How many units a magnitude has. -/
def unitsOf (magnitude : Nat) : Nat :=
  if magnitude / 2 ^ 52 = 0 then magnitude % 2 ^ 52
  else (2 ^ 52 + magnitude % 2 ^ 52) * 2 ^ (magnitude / 2 ^ 52 - 1)

/-- How many units a double has. -/
def units (x : Binary64) : Int :=
  if x.isNegative then -(unitsOf x.magnitude : Int) else unitsOf x.magnitude

lemma lastPlace_eq : lastPlace = 1074 := by unfold lastPlace; rfl

lemma unitsOfOne_pos : 0 < unitsOfOne := Nat.two_pow_pos _

lemma two_pow_add_lastPlace (e : Nat) : 2 ^ (e + lastPlace) = 2 ^ e * unitsOfOne := Nat.pow_add ..

lemma value_eq_units (x : Binary64) : x.value = x.units / unitsOfOne := by
  have hone : (unitsOfOne : ℚ) = 2 ^ (1074 : Int) := by
    rw [unitsOfOne, Nat.cast_pow, ← zpow_natCast, lastPlace_eq, Nat.cast_ofNat, Nat.cast_ofNat]
  have hsize : (x.significand : ℚ) * 2 ^ x.exponent = unitsOf x.magnitude / unitsOfOne := by
    by_cases hfield : x.magnitude / 2 ^ 52 = 0
    · have hexponent : x.exponent = -1074 := if_pos hfield
      have hsignificand : x.significand = x.magnitude % 2 ^ 52 := if_pos hfield
      rw [unitsOf, if_pos hfield, hexponent, hsignificand, zpow_neg, hone, div_eq_mul_inv]
    · have hexponent : x.exponent = ((x.magnitude / 2 ^ 52 - 1 : Nat) : Int) - 1074 := by
        have hnormal : x.exponent = ((x.magnitude / 2 ^ 52 : Nat) : Int) - 1075 := if_neg hfield
        omega
      have hsignificand : x.significand = 2 ^ 52 + x.magnitude % 2 ^ 52 := if_neg hfield
      rw [unitsOf, if_neg hfield, hexponent, hsignificand, zpow_sub₀ two_ne_zero, zpow_natCast,
        ← hone, mul_div_assoc', Nat.cast_mul, Nat.cast_pow, Nat.cast_ofNat]
  rw [value, units, mul_assoc, hsize]
  split_ifs
  · rw [Int.cast_neg, Int.cast_natCast, neg_one_mul, neg_div]
  · rw [Int.cast_natCast, one_mul]

lemma unitsOf_zero : unitsOf 0 = 0 := rfl

/-- From one magnitude to the next there is a power of two. -/
lemma unitsOf_succ (m : Nat) : unitsOf (m + 1) = unitsOf m + 2 ^ (m / 2 ^ 52 - 1) := by
  by_cases hcarry : m % 2 ^ 52 + 1 = 2 ^ 52
  · -- the fraction is used up, and the exponent field grows
    have hfield : (m + 1) / 2 ^ 52 = m / 2 ^ 52 + 1 := by omega
    have hfraction : (m + 1) % 2 ^ 52 = 0 := by omega
    rw [unitsOf, unitsOf, hfield, hfraction, if_neg (Nat.succ_ne_zero _), Nat.add_sub_cancel]
    by_cases hzero : m / 2 ^ 52 = 0
    · rw [if_pos hzero, hzero]
      omega
    · have hpow : 2 ^ (m / 2 ^ 52) = 2 * 2 ^ (m / 2 ^ 52 - 1) := by
        rw [← Nat.pow_succ']
        congr 1
        omega
      have hlast : 2 ^ 52 + m % 2 ^ 52 = 2 ^ 53 - 1 := by omega
      rw [if_neg hzero, hlast, hpow]
      omega
  · have hfield : (m + 1) / 2 ^ 52 = m / 2 ^ 52 := by omega
    have hfraction : (m + 1) % 2 ^ 52 = m % 2 ^ 52 + 1 := by omega
    rw [unitsOf, unitsOf, hfield, hfraction]
    split_ifs with hzero
    · rw [hzero]
      rfl
    · ring

lemma strictMono_unitsOf : StrictMono unitsOf :=
  strictMono_nat_of_lt_succ fun m => by
    rw [unitsOf_succ]
    exact Nat.lt_add_of_pos_right (Nat.two_pow_pos _)

lemma unitsOf_pos_iff {m : Nat} : 0 < unitsOf m ↔ 0 < m := strictMono_unitsOf.lt_iff_lt (a := 0)

/-- The significand may also be the power of two behind the greatest one. -/
lemma unitsOf_add {e m : Nat} (hlow : 2 ^ 52 ≤ m) (hhigh : m ≤ 2 ^ 53) :
    unitsOf (e * 2 ^ 52 + m) = m * 2 ^ e := by
  rcases hhigh.eq_or_lt with heq | hlt
  · have hfield : (e * 2 ^ 52 + m) / 2 ^ 52 = e + 2 := by omega
    have hfraction : (e * 2 ^ 52 + m) % 2 ^ 52 = 0 := by omega
    have hexponent : e + 2 - 1 = e + 1 := rfl
    rw [unitsOf, hfield, hfraction, if_neg (Nat.succ_ne_zero _), hexponent, Nat.pow_succ', heq]
    omega
  · have hfield : (e * 2 ^ 52 + m) / 2 ^ 52 = e + 1 := by omega
    have hfraction : (e * 2 ^ 52 + m) % 2 ^ 52 = m - 2 ^ 52 := by omega
    rw [unitsOf, hfield, hfraction, if_neg (Nat.succ_ne_zero _), Nat.add_sub_cancel,
      Nat.add_sub_cancel' hlow]

/-- A magnitude is a multiple of a power of two, unless it is below fifty-two bits of it. -/
lemma dvd_or_unitsOf_lt (e m : Nat) : 2 ^ e ∣ unitsOf m ∨ unitsOf m < 2 ^ 52 * 2 ^ e := by
  unfold unitsOf
  split_ifs with hzero
  · right
    calc m % 2 ^ 52 < 2 ^ 52 := Nat.mod_lt _ (Nat.two_pow_pos _)
      _ ≤ 2 ^ 52 * 2 ^ e := Nat.le_mul_of_pos_right _ (Nat.two_pow_pos e)
  · rcases Nat.lt_or_ge (m / 2 ^ 52 - 1) e with hlt | hge
    · right
      calc (2 ^ 52 + m % 2 ^ 52) * 2 ^ (m / 2 ^ 52 - 1)
          < 2 ^ 53 * 2 ^ (m / 2 ^ 52 - 1) :=
            Nat.mul_lt_mul_of_pos_right (by omega) (Nat.two_pow_pos _)
        _ = 2 ^ 52 * 2 ^ (m / 2 ^ 52 - 1 + 1) := by
            rw [← Nat.pow_add, ← Nat.pow_add]
            congr 1
            omega
        _ ≤ 2 ^ 52 * 2 ^ e := Nat.mul_le_mul_left _ (Nat.pow_le_pow_right Nat.two_pos hlt)
    · left
      exact (Nat.pow_dvd_pow 2 hge).mul_left _

/-! ### Order -/

lemma not_isNaN_of_isFinite (h : x.isFinite = true) : x.isNaN = false := by
  simp only [isFinite, isNaN, decide_eq_true_eq, decide_eq_false_iff_not] at h ⊢
  omega

lemma units_lt_units_iff (hx : x.isNaN = false) (hy : y.isNaN = false) :
    x.units < y.units ↔ x.rank < y.rank := by
  have hlt := strictMono_unitsOf.lt_iff_lt (a := x.magnitude) (b := y.magnitude)
  have hgt := strictMono_unitsOf.lt_iff_lt (a := y.magnitude) (b := x.magnitude)
  have hxpos := unitsOf_pos_iff (m := x.magnitude)
  have hypos := unitsOf_pos_iff (m := y.magnitude)
  simp only [units, rank, hx, hy, Bool.false_eq_true, if_false]
  split_ifs <;> omega

/-- **Doubles are ordered as their values.** -/
theorem value_lt_value_iff (hx : x.isFinite = true) (hy : y.isFinite = true) :
    x.value < y.value ↔ x.rank < y.rank := by
  have hone : (0 : ℚ) < unitsOfOne := Nat.cast_pos.mpr unitsOfOne_pos
  rw [← units_lt_units_iff (not_isNaN_of_isFinite hx) (not_isNaN_of_isFinite hy), value_eq_units,
    value_eq_units, div_lt_div_iff_of_pos_right hone, Int.cast_lt]

lemma value_le_value_iff (hx : x.isFinite = true) (hy : y.isFinite = true) :
    x.value ≤ y.value ↔ x.rank ≤ y.rank := by
  rw [← not_lt, ← not_lt, value_lt_value_iff hy hx]

lemma value_eq_value_iff (hx : x.isFinite = true) (hy : y.isFinite = true) :
    x.value = y.value ↔ x.rank = y.rank := by
  rw [le_antisymm_iff, le_antisymm_iff, value_le_value_iff hx hy, value_le_value_iff hy hx]

lemma precedes_eq_false_iff (hx : x.isFinite = true) (hy : y.isFinite = true) :
    x.precedes y = false ↔ y.value ≤ x.value := by
  rw [precedes, decide_eq_false_iff_not, not_lt, value_le_value_iff hy hx]

lemma sameRank_iff (hx : x.isFinite = true) (hy : y.isFinite = true) :
    x.sameRank y = true ↔ x.value = y.value := by
  rw [sameRank, beq_iff_eq, value_eq_value_iff hx hy]

/-! ### Rounding goes to the nearest double -/

/-- No multiple of the denominator is nearer to the numerator than the rounded one. -/
lemma roundQuotient_nearest (num : Nat) {den : Nat} (hden : 0 < den) (t : Nat) :
    ((num : Int) - roundQuotient num den * den).natAbs ≤ ((num : Int) - t * den).natAbs := by
  have hnum : num / den * den + num % den = num := Nat.div_add_mod' num den
  have hrest : num % den < den := Nat.mod_lt _ hden
  have hup : (num / den + 1) * den = num / den * den + den := Nat.succ_mul _ _
  have hround : roundQuotient num den * den = num / den * den ∧ 2 * (num % den) ≤ den ∨
      roundQuotient num den * den = num / den * den + den ∧ den ≤ 2 * (num % den) := by
    unfold roundQuotient
    dsimp only
    split_ifs with hlow hhigh
    · exact .inl ⟨rfl, hlow.le⟩
    · exact .inr ⟨hup, hhigh.le⟩
    · rcases Nat.mod_two_eq_zero_or_one (num / den) with heven | hodd
      · rw [heven, Nat.add_zero]
        exact .inl ⟨rfl, by omega⟩
      · rw [hodd]
        exact .inr ⟨hup, by omega⟩
  -- a multiple lies at the quotient or below, or behind it
  have ht : t * den ≤ num / den * den ∨ num / den * den + den ≤ t * den := by
    rcases Nat.lt_or_ge (num / den) t with hlt | hge
    · exact .inr (hup ▸ Nat.mul_le_mul_right den hlt)
    · exact .inl (Nat.mul_le_mul_right den hge)
  have hcast : ∀ k : Nat, (k : Int) * den = (k * den : Nat) := fun k => (Nat.cast_mul k den).symm
  rw [hcast, hcast]
  omega

lemma roundQuotient_of_dvd {num den : Nat} (h : den ∣ num) :
    roundQuotient num den = num / den := by
  unfold roundQuotient
  dsimp only
  rw [Nat.mod_eq_zero_of_dvd h]
  split_ifs with hlow hhigh
  · rfl
  · exact absurd hhigh (Nat.not_lt_zero den)
  · have hzero : den = 0 := by omega
    rw [hzero, Nat.div_zero]

lemma roundedMagnitude_zero (den : Nat) : roundedMagnitude 0 den = 0 := if_pos rfl

/-- The distance between an integer and a magnitude, in units. -/
def distance (n m : Nat) : Nat := ((n * unitsOfOne : Nat) - (unitsOf m : Int)).natAbs

/-- An integer of no more than fifty-three bits is not changed. -/
lemma unitsOf_rounded_of_le (hn : n ≠ 0) (hbits : n.log2 ≤ 52) :
    unitsOf (roundedMagnitude n 1) = n * unitsOfOne := by
  obtain ⟨hmagnitude, hlow, hhigh⟩ := roundedMagnitude_one_of_le hn hbits
  rw [hmagnitude, unitsOf_add hlow hhigh.le, Nat.mul_assoc, ← Nat.pow_add]
  have hexponent : 52 - n.log2 + (n.log2 + 1022) = lastPlace := by
    rw [lastPlace_eq]
    omega
  rw [hexponent, unitsOfOne]

/-- A longer integer becomes the nearest multiple of the power of two that its last bits fill. -/
lemma unitsOf_rounded_of_lt (hbits : 52 < n.log2) (h : n < 2 ^ 64) :
    unitsOf (roundedMagnitude n 1) =
      roundQuotient n (2 ^ (n.log2 - 52)) * 2 ^ (n.log2 - 52) * unitsOfOne := by
  obtain ⟨hmagnitude, hlow, hhigh⟩ := roundedMagnitude_one_eq hbits h
  have hexponent : n.log2 + 1022 = n.log2 - 52 + lastPlace := by
    rw [lastPlace_eq]
    omega
  rw [hmagnitude, unitsOf_add hlow hhigh, Nat.mul_assoc, ← two_pow_add_lastPlace, hexponent]

/-- No magnitude is nearer to a natural number than the one it is rounded to. -/
lemma distance_rounded_le (h : n < 2 ^ 64) (m : Nat) :
    distance n (roundedMagnitude n 1) ≤ distance n m := by
  by_cases hn : n = 0
  · have hself : distance n (roundedMagnitude n 1) = 0 := by
      rw [hn, roundedMagnitude_zero, distance, Nat.zero_mul, unitsOf_zero]
      rfl
    rw [hself]
    exact Nat.zero_le _
  rcases Nat.lt_or_ge 52 n.log2 with hbits | hbits
  · have hscale : ∀ t : Nat, ((n * unitsOfOne : Nat) -
        ((t * 2 ^ (n.log2 - 52) * unitsOfOne : Nat) : Int)).natAbs =
          ((n : Int) - t * (2 ^ (n.log2 - 52) : Nat)).natAbs * unitsOfOne := by
      intro t
      rw [← Int.natAbs_natCast unitsOfOne, ← Int.natAbs_mul, Int.natAbs_natCast, Int.sub_mul]
      push_cast
      rfl
    have hnearest := fun t => Nat.mul_le_mul_right unitsOfOne
      (roundQuotient_nearest n (Nat.two_pow_pos (n.log2 - 52)) t)
    rw [distance, unitsOf_rounded_of_lt hbits h, hscale]
    rcases dvd_or_unitsOf_lt (n.log2 - 52 + lastPlace) m with ⟨t, ht⟩ | hlt
    · -- the magnitude is a multiple of the power of two that the number is rounded to
      have hmultiple : unitsOf m = t * 2 ^ (n.log2 - 52) * unitsOfOne := by
        rw [ht, two_pow_add_lastPlace]
        ring
      rw [distance, hmultiple, hscale]
      exact hnearest t
    · -- the magnitude lies in front of the leading bit, which is such a multiple
      have hlead : 2 ^ 52 * 2 ^ (n.log2 - 52) ≤ n := by
        rw [← Nat.pow_add]
        exact Nat.le_trans (Nat.le_of_eq (by congr 1; omega)) (Nat.log2_self_le hn)
      refine Nat.le_trans (hnearest (2 ^ 52)) ?_
      rw [← hscale]
      rw [two_pow_add_lastPlace, ← Nat.mul_assoc] at hlt
      have hle := Nat.mul_le_mul_right unitsOfOne hlead
      unfold distance
      omega
  · rw [distance, unitsOf_rounded_of_le hn hbits, Int.sub_self]
    exact Nat.zero_le _

/-! ### Integers -/

lemma isNegative_ofMagnitude (negative : Bool) (magnitude : Nat) :
    (ofMagnitude negative magnitude).isNegative = negative := by
  unfold ofMagnitude isNegative
  simp only [Nat.pow_eq, UInt64.toNat_ofNat']
  cases negative <;> simp <;> omega

lemma roundedMagnitude_lt (num den : Nat) : roundedMagnitude num den < 2 ^ 63 := by
  unfold roundedMagnitude
  split_ifs
  · exact Nat.two_pow_pos 63
  · exact Nat.lt_of_le_of_lt (Nat.min_le_right _ _) (by decide)

lemma units_roundRatio (negative : Bool) (num den : Nat) :
    (roundRatio negative num den).units =
      if negative then -(unitsOf (roundedMagnitude num den) : Int)
      else unitsOf (roundedMagnitude num den) := by
  rw [units, roundRatio, isNegative_ofMagnitude,
    magnitude_ofMagnitude negative (roundedMagnitude_lt num den)]

/-- Rounding keeps the sign. -/
lemma units_ofInt (i : Int) :
    (ofInt i).units = i.sign * unitsOf (roundedMagnitude i.natAbs 1) := by
  cases i with
  | ofNat n =>
    rw [ofInt, ofNat, units_roundRatio, if_neg Bool.false_ne_true, Int.ofNat_eq_natCast,
      Int.natAbs_natCast]
    rcases Nat.eq_zero_or_pos n with rfl | hn
    · rw [roundedMagnitude_zero, unitsOf_zero, Nat.cast_zero, mul_zero]
    · rw [Int.sign_natCast_of_ne_zero hn.ne', one_mul]
  | negSucc n =>
    rw [ofInt, units_roundRatio, if_pos rfl, Int.sign_negSucc, neg_one_mul, Int.natAbs_negSucc]

lemma mul_unitsOfOne (i : Int) : i * unitsOfOne = i.sign * (i.natAbs * unitsOfOne : Nat) := by
  rw [Nat.cast_mul, ← mul_assoc, Int.sign_mul_natAbs]

/-- The distance to the rounded magnitude is also that to the rounded integer. -/
lemma distance_ofInt (i : Int) :
    (i * unitsOfOne - (ofInt i).units).natAbs =
      distance i.natAbs (roundedMagnitude i.natAbs 1) := by
  rw [units_ofInt, mul_unitsOfOne, distance, ← mul_sub, Int.natAbs_mul]
  rcases eq_or_ne i 0 with rfl | hi
  · rw [Int.natAbs_zero, roundedMagnitude_zero, unitsOf_zero, Nat.zero_mul, sub_self,
      Int.natAbs_zero, mul_zero]
  · rw [Int.natAbs_sign_of_ne_zero hi, one_mul]

/-- A double of the other sign is no nearer than its magnitude is. -/
lemma distance_le (i : Int) (y : Binary64) :
    distance i.natAbs y.magnitude ≤ (i * unitsOfOne - y.units).natAbs := by
  rw [units, mul_unitsOfOne, distance]
  rcases lt_trichotomy i 0 with hi | rfl | hi
  · rw [Int.sign_eq_neg_one_of_neg hi]
    split_ifs <;> omega
  · rw [Int.natAbs_zero, Nat.zero_mul]
    split_ifs <;> omega
  · rw [Int.sign_eq_one_of_pos hi]
    split_ifs <;> omega

lemma sub_value_eq (i : Int) (x : Binary64) :
    |(i : ℚ) - x.value| = ((i * unitsOfOne - x.units).natAbs : ℚ) / unitsOfOne := by
  have hone : (0 : ℚ) < unitsOfOne := Nat.cast_pos.mpr unitsOfOne_pos
  rw [value_eq_units, Nat.cast_natAbs, sub_div' hone.ne', abs_div, abs_of_pos hone]
  push_cast
  rfl

/-- **No double is nearer to an integer of sixty-four bits than the one it is rounded to.** -/
theorem nearest_ofInt (hlow : -(2 ^ 63) ≤ i) (hhigh : i < 2 ^ 64) (y : Binary64) :
    |(i : ℚ) - (ofInt i).value| ≤ |(i : ℚ) - y.value| := by
  have hdistance : (i * unitsOfOne - (ofInt i).units).natAbs ≤
      (i * unitsOfOne - y.units).natAbs := by
    rw [distance_ofInt]
    exact (distance_rounded_le (by omega) _).trans (distance_le i y)
  rw [sub_value_eq, sub_value_eq]
  gcongr

lemma value_ofInt_le (hlow : -(2 ^ 63) ≤ i) (hhigh : i < 2 ^ 64) (h : i ≤ y.value) :
    (ofInt i).value ≤ y.value := by
  have hnearest := nearest_ofInt hlow hhigh y
  rw [abs_of_nonpos (sub_nonpos.mpr h), neg_sub] at hnearest
  linarith [neg_le_of_abs_le hnearest]

lemma le_value_ofInt (hlow : -(2 ^ 63) ≤ i) (hhigh : i < 2 ^ 64) (h : y.value ≤ i) :
    y.value ≤ (ofInt i).value := by
  have hnearest := nearest_ofInt hlow hhigh y
  rw [abs_of_nonneg (sub_nonneg.mpr h)] at hnearest
  linarith [le_of_abs_le hnearest]

/-! ### Integers that rounding leaves alone -/

/-- An integer with no more than fifty-three significant bits. -/
def IsShort (i : Int) : Prop :=
  ∃ significand place, significand < 2 ^ 53 ∧ i.natAbs = significand * 2 ^ place

lemma isShort_of_natAbs_lt (h : i.natAbs < 2 ^ 53) : IsShort i :=
  ⟨i.natAbs, 0, h, (Nat.mul_one _).symm⟩

/-- The magnitude of a double has fifty-three significant bits. -/
lemma exists_unitsOf_eq (m : Nat) : ∃ s k, s < 2 ^ 53 ∧ unitsOf m = s * 2 ^ k := by
  unfold unitsOf
  split_ifs
  · exact ⟨m % 2 ^ 52, 0, by omega, (Nat.mul_one _).symm⟩
  · exact ⟨2 ^ 52 + m % 2 ^ 52, _, by omega, rfl⟩

lemma isShort_of_unitsOf_eq {m : Nat} (h : unitsOf m = i.natAbs * unitsOfOne) : IsShort i := by
  obtain ⟨s, k, hs, hm⟩ := exists_unitsOf_eq m
  rcases Nat.le_total lastPlace k with hle | hle
  · -- the integer ends in zeros
    refine ⟨s, k - lastPlace, hs, Nat.eq_of_mul_eq_mul_right unitsOfOne_pos ?_⟩
    rw [← h, hm, Nat.mul_assoc, ← two_pow_add_lastPlace, Nat.sub_add_cancel hle]
  · -- the integer is no longer than the significand
    have hproduct : s * 2 ^ k = i.natAbs * 2 ^ (lastPlace - k) * 2 ^ k := by
      rw [← hm, h, Nat.mul_assoc, ← Nat.pow_add, Nat.sub_add_cancel hle, unitsOfOne]
    have hs' : s = i.natAbs * 2 ^ (lastPlace - k) :=
      Nat.eq_of_mul_eq_mul_right (Nat.two_pow_pos k) hproduct
    refine isShort_of_natAbs_lt (Nat.lt_of_le_of_lt ?_ hs)
    rw [hs']
    exact Nat.le_mul_of_pos_right _ (Nat.two_pow_pos _)

/-- An integer with few enough significant bits keeps its units. -/
lemma unitsOf_rounded_of_isShort (h : IsShort i) (hbits : i.natAbs < 2 ^ 64) :
    unitsOf (roundedMagnitude i.natAbs 1) = i.natAbs * unitsOfOne := by
  by_cases hn : i.natAbs = 0
  · rw [hn, roundedMagnitude_zero, unitsOf_zero, Nat.zero_mul]
  rcases Nat.lt_or_ge 52 i.natAbs.log2 with hlong | hshort
  · -- the bits that are rounded are zeros
    obtain ⟨s, e, hs, hi⟩ := h
    have hplace : i.natAbs.log2 - 52 ≤ e := by
      have hlog : i.natAbs.log2 < 53 + e := by
        rw [Nat.log2_lt hn, hi, Nat.pow_add]
        exact Nat.mul_lt_mul_of_pos_right hs (Nat.two_pow_pos e)
      omega
    have hdvd : 2 ^ (i.natAbs.log2 - 52) ∣ i.natAbs :=
      Dvd.dvd.trans (Nat.pow_dvd_pow 2 hplace) ⟨s, hi.trans (Nat.mul_comm _ _)⟩
    rw [unitsOf_rounded_of_lt hlong hbits, roundQuotient_of_dvd hdvd, Nat.div_mul_cancel hdvd]
  · exact unitsOf_rounded_of_le hn hshort

/-- **Rounding leaves just those integers alone that have fifty-three significant bits.** -/
theorem value_ofInt_eq_iff (hlow : -(2 ^ 63) ≤ i) (hhigh : i < 2 ^ 64) :
    (ofInt i).value = i ↔ IsShort i := by
  have hone : (unitsOfOne : ℚ) ≠ 0 := Nat.cast_ne_zero.mpr unitsOfOne_pos.ne'
  have hunits : (ofInt i).value = i ↔ (ofInt i).units = i * unitsOfOne := by
    rw [value_eq_units, div_eq_iff hone]
    norm_cast
  rw [hunits, units_ofInt, mul_unitsOfOne]
  constructor
  · intro h
    rcases eq_or_ne i 0 with rfl | hi
    · exact isShort_of_natAbs_lt (by decide)
    · exact isShort_of_unitsOf_eq
        (Int.ofNat.inj (mul_left_cancel₀ (mt Int.sign_eq_zero_iff_zero.mp hi) h))
  · intro h
    rw [unitsOf_rounded_of_isShort h (by omega)]

lemma value_ofInt_of_small (h : i.natAbs < 2 ^ 53) : (ofInt i).value = i :=
  (value_ofInt_eq_iff (by omega) (by omega)).mpr (isShort_of_natAbs_lt h)

/-- Rounding does not carry an integer to a double below `2 ^ 53` in size, unless it is that small
itself, and then it is not changed. -/
lemma value_ofInt_of_lt (hlow : -(2 ^ 63) ≤ i) (hhigh : i < 2 ^ 64)
    (h : |(ofInt i).value| < 2 ^ 53) : (ofInt i).value = i := by
  obtain ⟨hbelow, habove⟩ := abs_lt.mp h
  have hbig : (ofInt (2 ^ 53)).value = 2 ^ 53 := by
    rw [(value_ofInt_eq_iff (by decide) (by decide)).mpr ⟨1, 53, by decide, by decide⟩]
    norm_num
  have hbig' : (ofInt (-(2 ^ 53))).value = -(2 ^ 53) := by
    rw [(value_ofInt_eq_iff (by decide) (by decide)).mpr ⟨1, 53, by decide, by decide⟩]
    norm_num
  have hlt : i < 2 ^ 53 := by
    by_contra hge
    have hle : (ofInt (2 ^ 53)).value ≤ (ofInt i).value :=
      le_value_ofInt hlow hhigh (hbig ▸ by exact_mod_cast not_lt.mp hge)
    exact absurd habove (not_lt.mpr (hbig ▸ hle))
  have hgt : -(2 ^ 53) < i := by
    by_contra hle
    have hle : (ofInt i).value ≤ (ofInt (-(2 ^ 53))).value :=
      value_ofInt_le hlow hhigh (hbig' ▸ by exact_mod_cast not_lt.mp hle)
    exact absurd hbelow (not_lt.mpr (hbig' ▸ hle))
  exact (value_ofInt_eq_iff hlow hhigh).mpr (isShort_of_natAbs_lt (by omega))

end Binary64

end TreeSchema
