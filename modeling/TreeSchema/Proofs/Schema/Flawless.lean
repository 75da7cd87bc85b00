/-
Schemas without flaws.

A schema has no flaw if it has none itself and its parts have none.  The search for the first
flaw finds one if there is any, so the order in which it searches does not matter here.
Compositions of flawless schemas are flawless, except that a union needs a part.
-/
import Mathlib.Tactic.Lemma
import TreeSchema.Schema.Composition
import TreeSchema.Schema.Flaw

namespace TreeSchema

namespace Schema

/-- Nothing is wrong with a schema. -/
def Flawless (s : Schema) : Prop := s.firstFlaw? = none

/-- Flawless schemas are the ones that are not refused. -/
theorem validate_eq_ok_iff {s : Schema} : s.validate = .ok () ↔ s.Flawless := by
  unfold validate Flawless
  split <;> simp_all

/-! ### Flaws of the parts -/

section Parts

attribute [local simp] firstFlaw?

@[simp] lemma flawless_any : Flawless .any := by simp [Flawless]

@[simp] lemma flawless_ref (name : String) : Flawless (.ref name) := by simp [Flawless]

@[simp] lemma flawless_leaf_iff {c : Constraint} : Flawless (.leaf c) ↔ c.flaw? = none := by
  simp [Flawless]

@[simp] lemma flawless_object_iff {properties : List (String × Schema)} {required : List String} :
    Flawless (.object properties required) ↔ ∀ property ∈ properties, property.2.Flawless := by
  rw [Flawless, firstFlaw?]
  induction properties with
  | nil => simp [propertyFlaw?]
  | cons property rest ih =>
    obtain ⟨name, sub⟩ := property
    simp [propertyFlaw?, ih, Flawless]

@[simp] lemma flawless_array_iff {items : Option Schema} {least most : Option Nat} :
    Flawless (.array items least most) ↔
      lengthFlaw? least most = none ∧ ∀ item, items = some item → item.Flawless := by
  cases items <;> simp [Flawless]

lemma listFlaw?_eq_none_iff {step : Nat → Step} {index : Nat} {parts : List Schema} :
    listFlaw? step index parts = none ↔ ∀ part ∈ parts, part.Flawless := by
  induction parts generalizing index with
  | nil => simp [listFlaw?]
  | cons part rest ih => simp [listFlaw?, ih, Flawless]

@[simp] lemma emptyFlaw?_eq_none_iff {keyword : ListKeyword} {parts : List Schema} :
    emptyFlaw? keyword parts = none ↔ parts ≠ [] := by
  cases parts <;> simp [emptyFlaw?]

@[simp] lemma flawless_allOf_iff {parts : List Schema} :
    Flawless (.allOf parts) ↔ parts ≠ [] ∧ ∀ part ∈ parts, part.Flawless := by
  simp [Flawless, listFlaw?_eq_none_iff]

@[simp] lemma flawless_anyOf_iff {parts : List Schema} :
    Flawless (.anyOf parts) ↔ parts ≠ [] ∧ ∀ part ∈ parts, part.Flawless := by
  simp [Flawless, listFlaw?_eq_none_iff]

end Parts

/-! ### Compositions -/

variable {parts : List Schema}

lemma Flawless.conjuncts {s part : Schema} (h : s.Flawless) (hmem : part ∈ s.conjuncts) :
    part.Flawless := by
  cases s with
  | any => cases hmem
  | allOf parts => exact (flawless_allOf_iff.mp h).2 part hmem
  | _ => rwa [List.mem_singleton.mp hmem]

lemma Flawless.disjuncts {s part : Schema} (h : s.Flawless) (hmem : part ∈ s.disjuncts) :
    part.Flawless := by
  cases s with
  | anyOf parts => exact (flawless_anyOf_iff.mp h).2 part hmem
  | _ => rwa [List.mem_singleton.mp hmem]

lemma Flawless.disjuncts_ne_nil {s : Schema} (h : s.Flawless) : s.disjuncts ≠ [] := by
  cases s with
  | anyOf parts => exact (flawless_anyOf_iff.mp h).1
  | _ => exact List.cons_ne_nil _ _

lemma Flawless.intersection (h : ∀ part ∈ parts, part.Flawless) :
    (Schema.intersection parts).Flawless := by
  have hflat : ∀ s ∈ parts.flatMap Schema.conjuncts, s.Flawless :=
    List.forall_mem_flatMap.mpr fun part hpart s hs => (h part hpart).conjuncts hs
  unfold Schema.intersection
  split
  · simp
  · next s hone => exact hflat s (by simp [hone])
  · next hnil _ => exact flawless_allOf_iff.mpr ⟨hnil, hflat⟩

lemma Flawless.union (hne : parts ≠ []) (h : ∀ part ∈ parts, part.Flawless) :
    (Schema.union parts).Flawless := by
  have hflat : ∀ s ∈ parts.flatMap Schema.disjuncts, s.Flawless :=
    List.forall_mem_flatMap.mpr fun part hpart s hs => (h part hpart).disjuncts hs
  unfold Schema.union
  split
  · simp
  · split
    · next s hone => exact hflat s (by simp [hone])
    · refine flawless_anyOf_iff.mpr ⟨fun hnil => ?_, hflat⟩
      obtain ⟨part, hpart⟩ := List.exists_mem_of_ne_nil parts hne
      exact (h part hpart).disjuncts_ne_nil (List.flatMap_eq_nil_iff.mp hnil part hpart)

end Schema

end TreeSchema
