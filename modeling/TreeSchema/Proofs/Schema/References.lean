/-
What a schema refers to.

A schema that is no reference refers to what its children refer to, one after the other, and the
children are what it is made of (`Schema.children`).  For each form of schema that has parts there
is one lemma that takes a name from the part to the schema.
-/
import Mathlib.Tactic.Lemma
import TreeSchema.Schema.Basic

namespace TreeSchema

namespace Schema

/-- The schemas of fields, the one for elements or the parts of a composition, in their order. -/
def children : Schema → List Schema
  | .any => []
  | .ref _ => []
  | .leaf _ => []
  | .object properties _ => properties.map Prod.snd
  | .array items _ _ => items.toList
  | .allOf parts => parts
  | .anyOf parts => parts

variable {s child : Schema} {name : String}

lemma sizeOf_lt_of_mem_children (h : child ∈ s.children) : sizeOf child < sizeOf s := by
  cases s with
  | any => cases h
  | ref name => cases h
  | leaf c => cases h
  | object properties required =>
    obtain ⟨⟨field, s⟩, hmem, rfl⟩ := List.mem_map.mp h
    have hlt := List.sizeOf_lt_of_mem hmem
    simp only [Prod.mk.sizeOf_spec, object.sizeOf_spec] at hlt ⊢
    omega
  | array items least most =>
    obtain rfl := Option.mem_toList.mp h
    simp only [array.sizeOf_spec, Option.some.sizeOf_spec]
    omega
  | allOf parts =>
    have hmem : child ∈ parts := h
    have hlt := List.sizeOf_lt_of_mem hmem
    simp only [allOf.sizeOf_spec]
    omega
  | anyOf parts =>
    have hmem : child ∈ parts := h
    have hlt := List.sizeOf_lt_of_mem hmem
    simp only [anyOf.sizeOf_spec]
    omega

lemma propertyReferences_eq (properties : List (String × Schema)) :
    propertyReferences properties = properties.flatMap fun property => property.2.references := by
  induction properties with
  | nil => rfl
  | cons property rest ih => rw [propertyReferences, ih, List.flatMap_cons]

lemma partReferences_eq (parts : List Schema) :
    partReferences parts = parts.flatMap references := by
  induction parts with
  | nil => rfl
  | cons part rest ih => rw [partReferences, ih, List.flatMap_cons]

lemma mem_propertyReferences_iff {properties : List (String × Schema)} :
    name ∈ propertyReferences properties ↔
      ∃ property ∈ properties, name ∈ property.2.references := by
  rw [propertyReferences_eq, List.mem_flatMap]

lemma mem_partReferences_iff {parts : List Schema} :
    name ∈ partReferences parts ↔ ∃ part ∈ parts, name ∈ part.references := by
  rw [partReferences_eq, List.mem_flatMap]

/-- A schema that is no reference refers to what its children refer to. -/
lemma references_eq_flatMap (h : s.alias? = none) :
    s.references = s.children.flatMap references := by
  cases s with
  | any => rfl
  | ref name => cases h
  | leaf c => rfl
  | object properties required =>
    rw [references, propertyReferences_eq, children, List.flatMap_map]
  | array items least most => cases items <;> simp [references, children]
  | allOf parts => rw [references, partReferences_eq, children]
  | anyOf parts => rw [references, partReferences_eq, children]

lemma mem_references_of_mem_children (hchild : child ∈ s.children)
    (hname : name ∈ child.references) : name ∈ s.references := by
  have halias : s.alias? = none := by
    cases s with
    | ref => cases hchild
    | _ => rfl
  rw [references_eq_flatMap halias]
  exact List.mem_flatMap.mpr ⟨child, hchild, hname⟩

lemma mem_references_object {properties : List (String × Schema)} {required : List String}
    {field : String} {sub : Schema} (hmem : (field, sub) ∈ properties)
    (hname : name ∈ sub.references) : name ∈ (object properties required).references :=
  mem_references_of_mem_children (List.mem_map.mpr ⟨(field, sub), hmem, rfl⟩) hname

lemma mem_references_array {item : Schema} {least most : Option Nat}
    (hname : name ∈ item.references) : name ∈ (array (some item) least most).references :=
  mem_references_of_mem_children (Option.mem_toList.mpr rfl) hname

lemma mem_references_allOf {parts : List Schema} {part : Schema} (hmem : part ∈ parts)
    (hname : name ∈ part.references) : name ∈ (allOf parts).references :=
  mem_references_of_mem_children hmem hname

lemma mem_references_anyOf {parts : List Schema} {part : Schema} (hmem : part ∈ parts)
    (hname : name ∈ part.references) : name ∈ (anyOf parts).references :=
  mem_references_of_mem_children hmem hname

end Schema

end TreeSchema
