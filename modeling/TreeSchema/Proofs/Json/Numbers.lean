/-
How far an enumeration compares numbers by value.

Numbers are rounded before they are compared, and rounding keeps them on the same side of every
double (`Number.toBinary64_le`, `Number.le_toBinary64`).  So numbers of the same value are equal
for an enumeration, and the converse holds as long as rounding does not lose the difference:
if neither number is changed by it, or if one of the two is less than `2 ^ 53` in size
(`Number.equalsLiteral_iff_value_eq`).

An enumeration that admits a value compares all numbers in it with those in the same places of the
literal, and what holds of two numbers holds in each of these places
(`equalsLiteral_by_value`).
-/
import Mathlib.Data.Option.Basic
import TreeSchema.Json.Pointer
import TreeSchema.Proofs.Binary64.Value
import TreeSchema.Proofs.Json.Alike

namespace TreeSchema

namespace Number

variable {a b n : Number} {bound : Binary64}

/-- The number that is meant. -/
def value : Number → ℚ
  | .integer i => i
  | .double x => x.value

def IsFinite : Number → Prop
  | .integer _ => True
  | .double x => x.isFinite = true

/-- The number is what a document can have: an integer of sixty-four bits or a finite double. -/
structure IsHeld (n : Number) : Prop where
  fits : n.Fits
  finite : n.IsFinite

/-- Rounding does not change the number. -/
def IsExact : Number → Prop
  | .integer i => Binary64.IsShort i
  | .double _ => True

/-- Rounding does not make the two numbers equal: it changes neither of them, or one of them is so
small that no other number becomes equal to it. -/
def Distinguishable (a b : Number) : Prop :=
  a.IsExact ∧ b.IsExact ∨ |a.value| < 2 ^ 53 ∨ |b.value| < 2 ^ 53

lemma isHeld_integer {i : Int} (hlow : -(2 ^ 63) ≤ i) (hhigh : i < 2 ^ 64) : (integer i).IsHeld :=
  ⟨⟨hlow, hhigh⟩, trivial⟩

lemma isFinite_toBinary64 (h : n.IsHeld) : n.toBinary64.isFinite = true := by
  cases n with
  | integer i =>
    have hintegral := Binary64.isIntegral_ofInt h.fits.1 h.fits.2
    rw [Binary64.isIntegral, Bool.and_eq_true] at hintegral
    exact hintegral.1
  | double x => exact h.finite

lemma value_toBinary64_eq_iff (h : n.IsHeld) : n.toBinary64.value = n.value ↔ n.IsExact := by
  cases n with
  | integer i => exact Binary64.value_ofInt_eq_iff h.fits.1 h.fits.2
  | double x => exact iff_of_true rfl trivial

/-! ### Rounding and order -/

lemma toBinary64_le (h : n.IsHeld) (hle : n.value ≤ bound.value) :
    n.toBinary64.value ≤ bound.value := by
  cases n with
  | integer i => exact Binary64.value_ofInt_le h.fits.1 h.fits.2 hle
  | double x => exact hle

lemma le_toBinary64 (h : n.IsHeld) (hle : bound.value ≤ n.value) :
    bound.value ≤ n.toBinary64.value := by
  cases n with
  | integer i => exact Binary64.le_value_ofInt h.fits.1 h.fits.2 hle
  | double x => exact hle

lemma value_toBinary64_of_rounded_lt (h : n.IsHeld) (hlt : |n.toBinary64.value| < 2 ^ 53) :
    n.toBinary64.value = n.value := by
  cases n with
  | integer i => exact Binary64.value_ofInt_of_lt h.fits.1 h.fits.2 hlt
  | double x => rfl

lemma isExact_of_lt (hlt : |n.value| < 2 ^ 53) : n.IsExact := by
  cases n with
  | integer i =>
    have hlt' : |i| < 2 ^ 53 := by
      rw [value, ← Int.cast_abs] at hlt
      exact_mod_cast hlt
    rw [Int.abs_eq_natAbs] at hlt'
    exact Binary64.isShort_of_natAbs_lt (by omega)
  | double x => trivial

/-- A number that rounding carries to a small double is this double. -/
lemma value_eq_of_rounded (h : n.IsHeld) (hbound : n.IsExact ∨ |bound.value| < 2 ^ 53)
    (heq : n.toBinary64.value = bound.value) : n.value = bound.value := by
  rcases hbound with hexact | hlt
  · rw [← (value_toBinary64_eq_iff h).mpr hexact, heq]
  · rw [← heq] at hlt ⊢
    exact (value_toBinary64_of_rounded_lt h hlt).symm

/-- Rounding does not carry a number over a small double, nor onto it. -/
lemma toBinary64_le_iff (h : n.IsHeld) (hbound : n.IsExact ∨ |bound.value| < 2 ^ 53) :
    n.toBinary64.value ≤ bound.value ↔ n.value ≤ bound.value := by
  refine ⟨fun hle => ?_, toBinary64_le h⟩
  by_contra hlt
  have hge := le_toBinary64 h (not_le.mp hlt).le
  exact hlt (value_eq_of_rounded h hbound (le_antisymm hle hge)).le

lemma le_toBinary64_iff (h : n.IsHeld) (hbound : n.IsExact ∨ |bound.value| < 2 ^ 53) :
    bound.value ≤ n.toBinary64.value ↔ bound.value ≤ n.value := by
  refine ⟨fun hge => ?_, le_toBinary64 h⟩
  by_contra hlt
  have hle := toBinary64_le h (not_le.mp hlt).le
  exact hlt (value_eq_of_rounded h hbound (le_antisymm hle hge)).ge

/-! ### Comparing two numbers -/

lemma equalsLiteral_iff (ha : a.IsHeld) (hb : b.IsHeld) :
    a.equalsLiteral b = true ↔ a.toBinary64.value = b.toBinary64.value :=
  Binary64.sameRank_iff (isFinite_toBinary64 ha) (isFinite_toBinary64 hb)

/-- Numbers of the same value are rounded to doubles of the same value. -/
lemma value_toBinary64_eq (ha : a.IsHeld) (hb : b.IsHeld) (h : a.value = b.value) :
    a.toBinary64.value = b.toBinary64.value := by
  cases b with
  | double y => exact le_antisymm (toBinary64_le ha h.le) (le_toBinary64 ha h.ge)
  | integer j =>
    cases a with
    | double x => exact le_antisymm (le_toBinary64 hb h.le) (toBinary64_le hb h.ge)
    | integer i =>
      obtain rfl : i = j := Int.cast_injective h
      rfl

/-- Numbers that rounding does not make equal are only equal if their values are. -/
lemma value_eq_of_toBinary64 (ha : a.IsHeld) (hb : b.IsHeld) (hab : a.Distinguishable b)
    (h : a.toBinary64.value = b.toBinary64.value) : a.value = b.value := by
  rcases hab with ⟨hexact, hexact'⟩ | hlt | hlt
  · rwa [← (value_toBinary64_eq_iff ha).mpr hexact, ← (value_toBinary64_eq_iff hb).mpr hexact']
  · have ha' := (value_toBinary64_eq_iff ha).mpr (isExact_of_lt hlt)
    rw [← ha', h] at hlt ⊢
    exact value_toBinary64_of_rounded_lt hb hlt
  · have hb' := (value_toBinary64_eq_iff hb).mpr (isExact_of_lt hlt)
    rw [← hb', ← h] at hlt ⊢
    exact (value_toBinary64_of_rounded_lt ha hlt).symm

/-- **The comparison of an enumeration is one of values, as far as rounding keeps them apart.** -/
theorem equalsLiteral_iff_value_eq (ha : a.IsHeld) (hb : b.IsHeld) (hab : a.Distinguishable b) :
    a.equalsLiteral b = true ↔ a.value = b.value := by
  rw [equalsLiteral_iff ha hb]
  exact ⟨value_eq_of_toBinary64 ha hb hab, value_toBinary64_eq ha hb⟩

end Number

namespace Json

variable {v w : Json}

/-! ### Numbers inside a value -/

/-- What is one step below a value. -/
def down? (v : Json) : Step → Option Json
  | .field name => v.field? name
  | .element index => v.elements[index]?

def number? : Json → Option Number
  | .number n => some n
  | _ => none

/-- The number at some steps below a value, if it is one. -/
def numberAt? (v : Json) : List Step → Option Number
  | [] => v.number?
  | step :: steps => (v.down? step).bind fun child => child.numberAt? steps

/-- All numbers in the value are held. -/
inductive IsHeld : Json → Prop where
  | null : IsHeld .null
  | bool (value : Bool) : IsHeld (.bool value)
  | number {value : Number} (hvalue : value.IsHeld) : IsHeld (.number value)
  | string (value : String) : IsHeld (.string value)
  | array {elements : List Json} (helements : ∀ v ∈ elements, IsHeld v) : IsHeld (.array elements)
  | object {fields : List (String × Json)} (hfields : ∀ field ∈ fields, IsHeld field.2) :
      IsHeld (.object fields)

lemma IsHeld.bounded (h : v.IsHeld) : v.Bounded := by
  induction h with
  | null => exact .null
  | bool value => exact .bool value
  | number hvalue => exact .number hvalue.fits
  | string value => exact .string value
  | array _ ih => exact .array ih
  | object _ ih => exact .object ih

lemma IsHeld.down {child : Json} {step : Step} (hv : v.IsHeld) (h : v.down? step = some child) :
    child.IsHeld := by
  cases step with
  | field name =>
    have hmem := Entries.get?_mem h
    cases hv with
    | object hfields => exact hfields _ hmem
    | _ => cases hmem
  | element index =>
    have hmem := List.mem_of_getElem? h
    cases hv with
    | array helements => exact helements _ hmem
    | _ => cases hmem

lemma IsHeld.numberAt {n : Number} {steps : List Step} (hv : v.IsHeld)
    (h : v.numberAt? steps = some n) : n.IsHeld := by
  induction steps generalizing v with
  | nil =>
    cases hv with
    | number hvalue =>
      obtain rfl := Option.some.inj h
      exact hvalue
    | _ => cases h
  | cons step steps ih =>
    obtain ⟨child, hchild, hn⟩ := Option.bind_eq_some_iff.mp h
    exact ih (hv.down hchild) hn

lemma rel_of_isSome_eq {α : Type} {R : α → α → Prop} {x y : Option α} (hsome : x.isSome = y.isSome)
    (h : ∀ a b, x = some a → y = some b → R a b) : Option.Rel R x y := by
  cases x with
  | none =>
    cases y with
    | none => exact .none
    | some b => cases hsome
  | some a =>
    cases y with
    | none => cases hsome
    | some b => exact .some (h a b rfl rfl)

/-- What is one step below alike values is alike. -/
lemma Alike.down (h : Alike v w) (step : Step) :
    Option.Rel Alike (v.down? step) (w.down? step) := by
  cases step with
  | field name =>
    refine rel_of_isSome_eq (h.isSome_field?_eq name) fun a b ha hb => ?_
    obtain ⟨a', ha', halike⟩ := h.field hb
    obtain rfl : a' = a := Option.some.inj (ha'.symm.trans ha)
    exact halike
  | element index =>
    cases h with
    | array hlength helements =>
      refine rel_of_isSome_eq ?_ (helements index)
      rw [Bool.eq_iff_iff]
      simp [down?, elements, hlength]
    | _ => exact .none

lemma Alike.numberAt (h : Alike v w) (steps : List Step) :
    Option.Rel (fun a b => a.equalsLiteral b = true) (v.numberAt? steps) (w.numberAt? steps) := by
  induction steps generalizing v w with
  | nil =>
    cases h with
    | number hsize _ =>
      refine .some ?_
      rw [Number.equalsLiteral, Binary64.sameRank, hsize, beq_self_eq_true]
    | _ => exact .none
  | cons step steps ih =>
    rw [numberAt?, numberAt?]
    have hdown := h.down step
    generalize v.down? step = child, w.down? step = child' at hdown
    cases hdown with
    | none => exact .none
    | some hchild => exact ih hchild

/-- **An enumeration compares by value, as far as rounding keeps values apart.**  Numbers of the
same value are always equal, and numbers that rounding keeps apart only then; in general the
comparison is one of the nearest doubles.  It is so for the numbers in corresponding places of two
values. -/
theorem equalsLiteral_by_value {a b : Number} (ha : a.IsHeld) (hb : b.IsHeld) {v w : Json}
    (hv : v.IsHeld) (hw : w.IsHeld) (hkeyed : w.Keyed) :
    ((equalsLiteral (.number a) (.number b) = true ↔ a.toBinary64.value = b.toBinary64.value) ∧
      (a.value = b.value → equalsLiteral (.number a) (.number b) = true) ∧
      (a.Distinguishable b →
        (equalsLiteral (.number a) (.number b) = true ↔ a.value = b.value))) ∧
    (v.equalsLiteral w = true → ∀ steps,
      Option.Rel (fun m n => m.toBinary64.value = n.toBinary64.value ∧
        (m.Distinguishable n → m.value = n.value)) (v.numberAt? steps) (w.numberAt? steps)) := by
  constructor
  · have hequals : equalsLiteral (.number a) (.number b) = a.equalsLiteral b := by
      rw [equalsLiteral, literalAdmits]
    rw [hequals]
    refine ⟨Number.equalsLiteral_iff ha hb, fun h => ?_, Number.equalsLiteral_iff_value_eq ha hb⟩
    exact (Number.equalsLiteral_iff ha hb).mpr (Number.value_toBinary64_eq ha hb h)
  · intro hequals steps
    have halike := (alike_of_equalsLiteral hkeyed hv.bounded hw.bounded hequals).numberAt steps
    have hheld : ∀ n, v.numberAt? steps = some n → n.IsHeld := fun _ h => hv.numberAt h
    have hheld' : ∀ n, w.numberAt? steps = some n → n.IsHeld := fun _ h => hw.numberAt h
    generalize v.numberAt? steps = m, w.numberAt? steps = n at halike hheld hheld'
    cases halike with
    | none => exact .none
    | @some m n hmn =>
      have hrounded := (Number.equalsLiteral_iff (hheld m rfl) (hheld' n rfl)).mp hmn
      exact .some ⟨hrounded, fun hapart =>
        Number.value_eq_of_toBinary64 (hheld m rfl) (hheld' n rfl) hapart hrounded⟩

/-- A ratio of two integers. -/
def ratio : Json := .object [("of", .array [.number (.integer 1), .number (.integer 2)])]

/-- The same ratio in doubles. -/
def doubleRatio : Json :=
  .object [("of", .array [.number (.double (.ofInt 1)), .number (.double (.ofInt 2))])]

/-- The second terms of the two ratios are equal for an enumeration, and so are the ratios, hence
these have terms of the same value. -/
theorem ratio_equals_doubleRatio :
    equalsLiteral (.number (.integer 2)) (.number (.double (.ofInt 2))) = true ∧
      Option.Rel (fun a b : Number => a.value = b.value)
        (ratio.numberAt? [.field "of", .element 1])
        (doubleRatio.numberAt? [.field "of", .element 1]) := by
  have hone : (Number.integer 1).IsHeld := Number.isHeld_integer (by decide) (by decide)
  have htwo : (Number.integer 2).IsHeld := Number.isHeld_integer (by decide) (by decide)
  have hdouble : ∀ i, (Number.integer i).IsHeld → (Number.double (.ofInt i)).IsHeld := fun _ h =>
    ⟨trivial, Number.isFinite_toBinary64 h⟩
  have hratio : ratio.IsHeld := .object (by
    simpa using IsHeld.array (by simpa using ⟨.number hone, .number htwo⟩))
  have hdoubleRatio : doubleRatio.IsHeld := .object (by
    simpa using IsHeld.array (by simpa using ⟨.number (hdouble 1 hone), .number (hdouble 2 htwo)⟩))
  have hkeyed : doubleRatio.Keyed := .object (by decide) (by
    simpa using Keyed.array (by simpa using ⟨.number _, .number _⟩))
  have hapart : Number.Distinguishable (.integer 2) (.double (.ofInt 2)) :=
    .inr (.inl (by norm_num [Number.value]))
  obtain ⟨⟨-, -, hnumbers⟩, hvalues⟩ :=
    equalsLiteral_by_value htwo (hdouble 2 htwo) hratio hdoubleRatio hkeyed
  constructor
  · exact (hnumbers hapart).mpr (Binary64.value_ofInt_of_small (by decide)).symm
  · cases hvalues (by decide) [.field "of", .element 1] with
    | some h => exact .some (h.2 hapart)

/-- Two integers of sixty-four bits that differ in size, and are equal for an enumeration. -/
theorem equalsLiteral_rounds :
    (Number.integer 9007199254740993).IsHeld ∧ (Number.integer 9007199254740992).IsHeld ∧
      (Number.integer 9007199254740993).value ≠ (Number.integer 9007199254740992).value ∧
      equalsLiteral (.number (.integer 9007199254740993)) (.number (.integer 9007199254740992)) =
        true := by
  refine ⟨Number.isHeld_integer (by decide) (by decide),
    Number.isHeld_integer (by decide) (by decide), ?_, by decide⟩
  norm_num [Number.value]

end Json

end TreeSchema
