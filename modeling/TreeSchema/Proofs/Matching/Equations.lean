/-
What one step of matching asks for.

Matching is defined by one recursion over values, opened names and schemas together.  This
file takes that recursion apart: for each form of schema there is one lemma that says what
it takes for a value to match, so nothing after it has to look into the recursion again.

Fields and elements are one level further down and begin with no opened name.  What is asked
of them is always the same, `Registry.acceptsBelow`.
-/
import Mathlib.Tactic.Lemma
import TreeSchema.Matching

namespace TreeSchema

namespace Registry

/-- Whether a value matches a schema one level further down. -/
def acceptsBelow (r : Registry) (depth : Nat) (s : Schema) (v : Json) : Bool :=
  below depth fun depth => r.accepts depth s v

variable (r : Registry) (depth : Nat) (opened : List String) (s : Schema) (v : Json)

@[simp] lemma acceptsBelow_zero : r.acceptsBelow 0 s v = false := rfl

@[simp] lemma acceptsBelow_succ : r.acceptsBelow (depth + 1) s v = r.accepts depth s v := rfl

/-! ### Matching with opened names -/

@[simp] lemma matchesWithin_any : r.matchesWithin depth opened .any v = true := by
  rw [matchesWithin]

lemma matchesWithin_ref (name : String) :
    r.matchesWithin depth opened (.ref name) v = true ↔
      name ∉ opened ∧ ∃ entry, r.resolve name = .ok entry ∧
        r.matchesWithin depth (name :: opened) entry.schema v = true := by
  rw [matchesWithin]
  by_cases hnew : name ∈ opened
  · simp [hnew]
  · rw [dif_neg hnew]
    split <;> simp_all

@[simp] lemma matchesWithin_leaf (c : Constraint) :
    r.matchesWithin depth opened (.leaf c) v = c.admits v := by
  rw [matchesWithin]

lemma matchesWithin_object (properties : List (String × Schema)) (required : List String) :
    r.matchesWithin depth opened (.object properties required) v = true ↔
      v.form = .object ∧ (∀ name ∈ required, (v.field? name).isSome) ∧
        ∀ name sub child, (name, sub) ∈ properties → v.field? name = some child →
          r.acceptsBelow depth sub child = true := by
  rw [matchesWithin]
  simp only [Bool.and_eq_true, beq_iff_eq, List.all_eq_true, and_assoc]
  refine and_congr_right fun _ => and_congr_right fun _ => ?_
  constructor
  · intro h name sub child hmem hfield
    have hentry := h (name, sub) hmem
    simp only at hentry
    split at hentry
    · simp_all
    · next child' hfield' =>
      obtain rfl := Option.some.inj (hfield.symm.trans hfield')
      exact hentry
  · rintro h ⟨name, sub⟩ hmem
    dsimp only
    split
    · rfl
    · next child hfield => exact h name sub child hmem hfield

lemma matchesWithin_array (items : Option Schema) (least most : Option Nat) :
    r.matchesWithin depth opened (.array items least most) v = true ↔
      v.form = .array ∧ Schema.admitsLength least most v.elements.length = true ∧
        ∀ item, items = some item → ∀ child ∈ v.elements,
          r.acceptsBelow depth item child = true := by
  cases items with
  | none =>
    rw [matchesWithin]
    simp
  | some item =>
    rw [matchesWithin]
    simp [acceptsBelow, accepts, and_assoc]

@[simp] lemma matchesWithin_allOf (parts : List Schema) :
    r.matchesWithin depth opened (.allOf parts) v = true ↔
      ∀ part ∈ parts, r.matchesWithin depth opened part v = true := by
  rw [matchesWithin]
  simp

@[simp] lemma matchesWithin_anyOf (parts : List Schema) :
    r.matchesWithin depth opened (.anyOf parts) v = true ↔
      ∃ part ∈ parts, r.matchesWithin depth opened part v = true := by
  rw [matchesWithin]
  simp

end Registry

end TreeSchema
