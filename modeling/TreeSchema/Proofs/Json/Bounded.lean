/-
Values whose integers fit into sixty-four bits.

The integers of a value are whole numbers of any size, and a program holds them in sixty-four
bits.  In a bounded value all of them fit, signed or not.  The values that texts are read as are
bounded, because a longer integer is read as a double (`bounded_of_ofTextBeginning`).
-/
import Mathlib.Algebra.Group.Int.Defs
import TreeSchema.Proofs.Json.Reading

namespace TreeSchema

namespace Number

/-- An integer fits into sixty-four bits, signed or not. -/
def Fits : Number → Prop
  | .integer i => -(2 ^ 63) ≤ i ∧ i < 2 ^ 64
  | .double _ => True

end Number

namespace Json

/-- All integers in the value fit into sixty-four bits. -/
inductive Bounded : Json → Prop where
  | null : Bounded .null
  | bool (value : Bool) : Bounded (.bool value)
  | number {value : Number} (hfits : value.Fits) : Bounded (.number value)
  | string (value : String) : Bounded (.string value)
  | array {elements : List Json} (helements : ∀ v ∈ elements, Bounded v) : Bounded (.array elements)
  | object {fields : List (String × Json)} (hfields : ∀ field ∈ fields, Bounded field.2) :
      Bounded (.object fields)

lemma NumberText.fits_of_integer? {n : NumberText} {i : Int} (h : n.integer? = some i) :
    (Number.integer i).Fits := by
  unfold integer? at h
  dsimp only at h
  split_ifs at h with hwhole hnegative hsize hsize
  · obtain rfl := Option.some.inj h
    have hle : digitsValue n.whole ≤ 2 ^ 63 := hsize.2
    exact ⟨by omega, by omega⟩
  · obtain rfl := Option.some.inj h
    have hlt : digitsValue n.whole < 2 ^ 64 := hsize
    exact ⟨by omega, by omega⟩

lemma NumberText.fits_of_value? {n : NumberText} {number : Number} (h : n.value? = some number) :
    number.Fits := by
  unfold value? at h
  split at h
  · next i hinteger =>
    obtain rfl := Option.some.inj h
    exact fits_of_integer? hinteger
  · obtain ⟨x, -, rfl⟩ := Option.map_eq_some_iff.mp h
    trivial

lemma fits_of_readNumber {c : Cursor} {r : Reading c.size Number} (h : readNumber c = .ok r) :
    r.value.Fits := by
  unfold readNumber at h
  split at h
  · cases h
  · split at h
    · cases h
    · next hvalue =>
      cases h
      exact NumberText.fits_of_value? hvalue

lemma inherited_bounded : Inherited Bounded where
  null := .null
  bool value := .bool value
  number _ _ h := .number (fits_of_readNumber h)
  string value := .string value
  array _ helements := .array helements
  object _ _ hfields := .object hfields

/-- **Texts are read as bounded values.** -/
theorem bounded_of_ofTextBeginning {text : String} {v : Json} (h : ofTextBeginning text = .ok v) :
    v.Bounded :=
  inherited_bounded.of_ofTextBeginning h

end Json

end TreeSchema
