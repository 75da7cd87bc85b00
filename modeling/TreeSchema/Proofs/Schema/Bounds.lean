/-
The numbers within bounds.

Bounds are doubles, and a number is rounded before it is compared with them.  So what lies within
the bounds is the nearest double of a number (`Constraint.admits_number_iff`).  Rounding does not
carry a number over a bound, but it may carry it onto one: a number within the bounds is admitted,
and one beyond a bound may be, if it is longer than fifty-three bits and the bound is not small
(`Constraint.admits_range`).
-/
import TreeSchema.Proofs.Json.Numbers
import TreeSchema.Proofs.Schema.Constraint

namespace TreeSchema

namespace Constraint

variable {c : Constraint} {v : Json} {n : Number}

/-- The constraint has bounds, at least one and finite ones, and asks for nothing else. -/
structure IsRange (c : Constraint) : Prop where
  kind : c.kind = none
  pattern : c.pattern = none
  choices : c.choices = none
  bounded : c.minimum ≠ none ∨ c.maximum ≠ none
  finite : ∀ bound, c.minimum = some bound ∨ c.maximum = some bound → bound.isFinite = true

/-- A number lies between the bounds there are, or is one of them. -/
def Spans (c : Constraint) (q : ℚ) : Prop :=
  (∀ bound, c.minimum = some bound → bound.value ≤ q) ∧
    ∀ bound, c.maximum = some bound → q ≤ bound.value

/-- All bounds there are have less than `2 ^ 53` in size. -/
def IsSmall (c : Constraint) : Prop :=
  ∀ bound, c.minimum = some bound ∨ c.maximum = some bound → |bound.value| < 2 ^ 53

lemma IsRange.admits_iff (hc : c.IsRange) :
    c.admits v = true ↔ MinimumHolds c.minimum v ∧ MaximumHolds c.maximum v := by
  rw [Constraint.admits_iff, hc.kind, hc.pattern, hc.choices]
  simp [PatternHolds, ChoicesHold]

/-- Only numbers are within bounds. -/
lemma IsRange.exists_number (hc : c.IsRange) (h : c.admits v = true) : ∃ n, v = .number n := by
  obtain ⟨hminimum, hmaximum⟩ := hc.admits_iff.mp h
  rcases hc.bounded with hne | hne
  · obtain ⟨bound, hbound⟩ := Option.ne_none_iff_exists'.mp hne
    obtain ⟨n, hn, -⟩ := hminimum bound hbound
    exact ⟨n, hn⟩
  · obtain ⟨bound, hbound⟩ := Option.ne_none_iff_exists'.mp hne
    obtain ⟨n, hn, -⟩ := hmaximum bound hbound
    exact ⟨n, hn⟩

/-- What lies within the bounds is the nearest double of a number. -/
lemma IsRange.admits_number_iff (hc : c.IsRange) (hn : n.IsHeld) :
    c.admits (.number n) = true ↔ c.Spans n.toBinary64.value := by
  have hrounded := Number.isFinite_toBinary64 hn
  rw [hc.admits_iff]
  refine and_congr (forall₂_congr fun bound hbound => ?_) (forall₂_congr fun bound hbound => ?_)
  · have hfinite := hc.finite bound (.inl hbound)
    simp [Binary64.precedes_eq_false_iff hrounded hfinite]
  · have hfinite := hc.finite bound (.inr hbound)
    simp [Binary64.precedes_eq_false_iff hfinite hrounded]

/-- Rounding leaves a number between the bounds. -/
lemma Spans.toBinary64 (hn : n.IsHeld) (h : c.Spans n.value) : c.Spans n.toBinary64.value :=
  ⟨fun bound hbound => Number.le_toBinary64 hn (h.1 bound hbound),
    fun bound hbound => Number.toBinary64_le hn (h.2 bound hbound)⟩

lemma spans_toBinary64_iff (hn : n.IsHeld) (h : n.IsExact ∨ c.IsSmall) :
    c.Spans n.toBinary64.value ↔ c.Spans n.value := by
  have hbound : ∀ bound, c.minimum = some bound ∨ c.maximum = some bound →
      n.IsExact ∨ |bound.value| < 2 ^ 53 := fun bound hbound => h.imp_right fun h => h bound hbound
  refine and_congr (forall₂_congr fun bound h => ?_) (forall₂_congr fun bound h => ?_)
  · exact Number.le_toBinary64_iff hn (hbound bound (.inl h))
  · exact Number.toBinary64_le_iff hn (hbound bound (.inr h))

/-- **Bounds are inclusive, and exact as far as rounding is.**  Nothing but numbers is within
bounds.  A number is if its nearest double is, so all numbers between the bounds are; and no
others, if the number has no more than fifty-three significant bits or the bounds are small. -/
theorem admits_range (hc : c.IsRange) :
    (∀ v : Json, v.form ≠ .number → c.admits v = false) ∧
      ∀ n : Number, n.IsHeld →
        (c.admits (.number n) = true ↔ c.Spans n.toBinary64.value) ∧
        (c.Spans n.value → c.admits (.number n) = true) ∧
        (n.IsExact ∨ c.IsSmall → (c.admits (.number n) = true ↔ c.Spans n.value)) := by
  constructor
  · intro v hform
    by_contra hadmits
    obtain ⟨n, rfl⟩ := hc.exists_number (Bool.eq_true_of_not_eq_false hadmits)
    exact hform rfl
  · intro n hn
    refine ⟨hc.admits_number_iff hn, fun h => ?_, fun h => ?_⟩
    · exact (hc.admits_number_iff hn).mpr (h.toBinary64 hn)
    · rw [hc.admits_number_iff hn, spans_toBinary64_iff hn h]

/-- The columns from `1` to `80`. -/
def columns : Constraint := { minimum := some (.ofInt 1), maximum := some (.ofInt 80) }

theorem columns_admits_eighty :
    columns.admits (.number (.integer 80)) = true ∧ columns.admits (.number (.integer 81)) = false ∧
      columns.admits (.string "80") = false := by
  have hheld : ∀ i : Int, i.natAbs < 100 → (Number.integer i).IsHeld := fun i hi =>
    Number.isHeld_integer (by omega) (by omega)
  have hrange : columns.IsRange :=
    ⟨rfl, rfl, rfl, .inl (by decide), by
      rintro bound (h | h) <;> obtain rfl := Option.some.inj h
      · exact Number.isFinite_toBinary64 (hheld 1 (by decide))
      · exact Number.isFinite_toBinary64 (hheld 80 (by decide))⟩
  have hspans : ∀ q, columns.Spans q ↔ 1 ≤ q ∧ q ≤ 80 := fun q => by
    simp [columns, Spans, Binary64.value_ofInt_of_small]
  obtain ⟨hother, hnumbers⟩ := admits_range hrange
  have hadmits : ∀ i : Int, i.natAbs < 100 →
      (columns.admits (.number (.integer i)) = true ↔ columns.Spans i) := fun i hi =>
    (hnumbers (.integer i) (hheld i hi)).2.2 (.inl (Binary64.isShort_of_natAbs_lt (by omega)))
  refine ⟨?_, ?_, hother _ (by decide)⟩
  · rw [hadmits 80 (by decide), hspans]
    norm_num
  · rw [← Bool.not_eq_true, hadmits 81 (by decide), hspans]
    norm_num

/-- The numbers up to `2 ^ 53`. -/
def longest : Constraint := { maximum := some (.ofInt 9007199254740992) }

/-- The integer behind `2 ^ 53` is rounded to it. -/
theorem longest_admits_beyond :
    longest.IsRange ∧ (Number.integer 9007199254740993).IsHeld ∧
      ¬ longest.Spans (Number.integer 9007199254740993).value ∧
      longest.admits (.number (.integer 9007199254740993)) = true := by
  have hvalue : (Binary64.ofInt 9007199254740992).value = 9007199254740992 := by
    rw [(Binary64.value_ofInt_eq_iff (by decide) (by decide)).mpr ⟨1, 53, by decide, by decide⟩]
    norm_num
  refine ⟨⟨rfl, rfl, rfl, .inr (by decide), ?_⟩,
    Number.isHeld_integer (by decide) (by decide), ?_, by decide⟩
  · rintro bound (h | h)
    · cases h
    · obtain rfl := Option.some.inj h
      exact Number.isFinite_toBinary64 (n := .integer 9007199254740992)
        (Number.isHeld_integer (by decide) (by decide))
  · rintro ⟨-, hmaximum⟩
    have hle := hmaximum _ rfl
    rw [hvalue] at hle
    norm_num [Number.value] at hle

end Constraint

end TreeSchema
