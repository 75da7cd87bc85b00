/-
What a constraint asks for.

A constraint is an intersection of conditions, and a condition that is absent asks nothing.  The
pattern also asks for a text and the bounds also ask for a number.
-/
import Mathlib.Tactic.Lemma
import TreeSchema.Schema.Basic

namespace TreeSchema

/-- A kind asks for nothing but the form of a value and whether a number is integral. -/
lemma Kind.admits_eq_of_form_eq {v w : Json} (hform : v.form = w.form)
    (hintegral : v.isIntegral = w.isIntegral) (kind : Kind) : kind.admits v = kind.admits w := by
  cases kind <;> simp [admits, hform, hintegral]

namespace Constraint

variable {c : Constraint} {v : Json}

/-- The pattern there is matches. -/
def PatternHolds (pattern : Option Pattern) (v : Json) : Prop :=
  ∀ p, pattern = some p → ∃ text, v = .string text ∧ p.admits text = true

/-- Some literal of the enumeration there is equals the value. -/
def ChoicesHold (choices : Option (List Json)) (v : Json) : Prop :=
  ∀ literals, choices = some literals → ∃ literal ∈ literals, v.equalsLiteral literal = true

/-- The value is a number that does not lie before the lower bound there is. -/
def MinimumHolds (minimum : Option Binary64) (v : Json) : Prop :=
  ∀ bound, minimum = some bound → ∃ n, v = .number n ∧ n.toBinary64.precedes bound = false

/-- The value is a number that does not lie behind the upper bound there is. -/
def MaximumHolds (maximum : Option Binary64) (v : Json) : Prop :=
  ∀ bound, maximum = some bound → ∃ n, v = .number n ∧ bound.precedes n.toBinary64 = false

/-- **A constraint is the intersection of its conditions.** -/
theorem admits_iff :
    c.admits v = true ↔ (∀ kind, c.kind = some kind → kind.admits v = true) ∧
      PatternHolds c.pattern v ∧ ChoicesHold c.choices v ∧ MinimumHolds c.minimum v ∧
        MaximumHolds c.maximum v := by
  obtain ⟨kind, pattern, choices, minimum, maximum⟩ := c
  simp only [admits, Bool.and_eq_true, and_assoc]
  refine and_congr ?_ (and_congr ?_ (and_congr ?_ ?_))
  · cases kind <;> simp
  · cases pattern with
    | none => simp [PatternHolds]
    | some p => cases v <;> simp [PatternHolds, Json.string?]
  · cases choices <;> simp [ChoicesHold]
  · -- without a bound nothing is asked, not even for a number
    cases minimum <;> cases maximum <;> cases v <;>
      simp [MinimumHolds, MaximumHolds, Json.double?, inBounds]

end Constraint

end TreeSchema
