/-
The height of JSON values.

The height of a value is the length of the longest way down from it through fields and
elements.  A leaf has height zero, and so do the empty array and the empty object.
-/
import Mathlib.Tactic.Lemma
import TreeSchema.Json.Basic

namespace TreeSchema

namespace Json

mutual

/-- How many levels there are below a value. -/
def height : Json → Nat
  | .array elements => elementsHeight elements
  | .object fields => fieldsHeight fields
  | _ => 0

/-- How many levels there are below an array of these elements. -/
def elementsHeight : List Json → Nat
  | [] => 0
  | v :: rest => max (v.height + 1) (elementsHeight rest)

/-- How many levels there are below an object of these fields. -/
def fieldsHeight : List (String × Json) → Nat
  | [] => 0
  | (_, v) :: rest => max (v.height + 1) (fieldsHeight rest)

end

lemma height_lt_elementsHeight {elements : List Json} {child : Json} (h : child ∈ elements) :
    child.height < elementsHeight elements := by
  induction elements with
  | nil => cases h
  | cons v rest ih =>
    rw [elementsHeight]
    rcases List.mem_cons.mp h with rfl | hrest
    · omega
    · have := ih hrest
      omega

lemma height_lt_fieldsHeight {fields : List (String × Json)} {name : String} {child : Json}
    (h : (name, child) ∈ fields) : child.height < fieldsHeight fields := by
  induction fields with
  | nil => cases h
  | cons field rest ih =>
    obtain ⟨key, v⟩ := field
    rw [fieldsHeight]
    rcases List.mem_cons.mp h with heq | hrest
    · cases heq
      omega
    · have := ih hrest
      omega

lemma height_element_lt {v child : Json} (h : child ∈ v.elements) : child.height < v.height := by
  cases v with
  | array elements =>
    rw [height]
    exact height_lt_elementsHeight h
  | _ => simp [elements] at h

lemma height_field_lt {v child : Json} {name : String} (h : v.field? name = some child) :
    child.height < v.height := by
  cases v with
  | object fields =>
    rw [height]
    exact height_lt_fieldsHeight (Entries.get?_mem h)
  | _ => simp [field?, fields, Entries.get?] at h

end Json

end TreeSchema
