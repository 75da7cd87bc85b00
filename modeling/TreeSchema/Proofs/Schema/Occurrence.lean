/-
What occurs in a schema.

A schema occurs in itself and in every schema that one of its parts occurs in: the schemas of
fields and elements and the parts of compositions.  Some conditions on a schema are about all
schemas that occur in it (`Schema.Everywhere`), and a condition on matching against a
registry is often about those that occur in the stored schemas as well (`Registry.Throughout`).

For each form of schema there is one lemma that reduces such a condition to the same condition on
the parts.  Together they decide it for any schema that is written out.
-/
import TreeSchema.Proofs.Registry.Reach

namespace TreeSchema

namespace Schema

/-- The first schema stands somewhere in the second one, or is the second one. -/
inductive OccursIn (part : Schema) : Schema → Prop where
  | here : OccursIn part part
  | property {properties : List (String × Schema)} {required : List String} {name : String}
      {sub : Schema} (hmem : (name, sub) ∈ properties) (hsub : OccursIn part sub) :
      OccursIn part (.object properties required)
  | item {item : Schema} {least most : Option Nat} (hitem : OccursIn part item) :
      OccursIn part (.array (some item) least most)
  | allOf {parts : List Schema} {s : Schema} (hmem : s ∈ parts) (hs : OccursIn part s) :
      OccursIn part (.allOf parts)
  | anyOf {parts : List Schema} {s : Schema} (hmem : s ∈ parts) (hs : OccursIn part s) :
      OccursIn part (.anyOf parts)

/-- All schemas that occur in a schema have a property. -/
def Everywhere (P : Schema → Prop) (s : Schema) : Prop := ∀ part, part.OccursIn s → P part

variable {P : Schema → Prop}

lemma Everywhere.here {s : Schema} (h : s.Everywhere P) : P s := h s .here

@[simp] lemma everywhere_any_iff : Everywhere P .any ↔ P .any :=
  ⟨Everywhere.here, fun h _ hpart => by cases hpart; exact h⟩

@[simp] lemma everywhere_ref_iff {name : String} : Everywhere P (.ref name) ↔ P (.ref name) :=
  ⟨Everywhere.here, fun h _ hpart => by cases hpart; exact h⟩

@[simp] lemma everywhere_leaf_iff {c : Constraint} : Everywhere P (.leaf c) ↔ P (.leaf c) :=
  ⟨Everywhere.here, fun h _ hpart => by cases hpart; exact h⟩

@[simp] lemma everywhere_object_iff {properties : List (String × Schema)}
    {required : List String} :
    Everywhere P (.object properties required) ↔
      P (.object properties required) ∧ ∀ property ∈ properties, property.2.Everywhere P := by
  constructor
  · intro h
    exact ⟨h.here, fun property hmem part hpart => h part (.property hmem hpart)⟩
  · rintro ⟨hself, hproperties⟩ part hpart
    cases hpart with
    | here => exact hself
    | property hmem hsub => exact hproperties _ hmem part hsub

@[simp] lemma everywhere_array_iff {items : Option Schema} {least most : Option Nat} :
    Everywhere P (.array items least most) ↔
      P (.array items least most) ∧ ∀ item, items = some item → item.Everywhere P := by
  constructor
  · intro h
    refine ⟨h.here, ?_⟩
    rintro item rfl part hpart
    exact h part (.item hpart)
  · rintro ⟨hself, hitems⟩ part hpart
    cases hpart with
    | here => exact hself
    | item hitem => exact hitems _ rfl part hitem

@[simp] lemma everywhere_allOf_iff {parts : List Schema} :
    Everywhere P (.allOf parts) ↔ P (.allOf parts) ∧ ∀ part ∈ parts, part.Everywhere P := by
  constructor
  · intro h
    exact ⟨h.here, fun s hmem part hpart => h part (.allOf hmem hpart)⟩
  · rintro ⟨hself, hparts⟩ part hpart
    cases hpart with
    | here => exact hself
    | allOf hmem hs => exact hparts _ hmem part hs

@[simp] lemma everywhere_anyOf_iff {parts : List Schema} :
    Everywhere P (.anyOf parts) ↔ P (.anyOf parts) ∧ ∀ part ∈ parts, part.Everywhere P := by
  constructor
  · intro h
    exact ⟨h.here, fun s hmem part hpart => h part (.anyOf hmem hpart)⟩
  · rintro ⟨hself, hparts⟩ part hpart
    cases hpart with
    | here => exact hself
    | anyOf hmem hs => exact hparts _ hmem part hs

end Schema

namespace Registry

/-- All schemas that occur in a schema, or in a schema that is stored, have a property. -/
def Throughout (r : Registry) (P : Schema → Prop) (s : Schema) : Prop :=
  s.Everywhere P ∧ ∀ name found, r.schema? name = some found → found.Everywhere P

lemma Throughout.and {r : Registry} {P Q : Schema → Prop} {s : Schema} (hP : r.Throughout P s)
    (hQ : r.Throughout Q s) : r.Throughout (fun part => P part ∧ Q part) s := by
  refine ⟨fun part hpart => ?_, fun name found hfound part hpart => ?_⟩
  · exact ⟨hP.1 part hpart, hQ.1 part hpart⟩
  · exact ⟨hP.2 name found hfound part hpart, hQ.2 name found hfound part hpart⟩

end Registry

end TreeSchema
