/-
Definitions read one by one.

A list of definitions is read element by element, and definitions under names are read field by
field.  What comes first and what follows have nothing to do with how a definition is read; they
only decide which fault is told when there are several.  So a list is read if and only if each of
its elements could be read by itself.
-/
import TreeSchema.Definition.OfJson
import TreeSchema.Proofs.Results

namespace TreeSchema

namespace Definition

open Json (within)

/-- Values and the definitions that they are read as. -/
abbrev ReadsAs (v : Json) (d : Definition) : Prop := ofJson v = .ok d

/-- A named value and the definition that it is read as, under the same name. -/
def ReadsNamed (field : String × Json) (definition : String × Definition) : Prop :=
  field.1 = definition.1 ∧ ReadsAs field.2 definition.2

lemma entriesOfJson_eq_ok_iff {fields : List (String × Json)}
    {definitions : List (String × Definition)} :
    entriesOfJson fields = .ok definitions ↔ List.Forall₂ ReadsNamed fields definitions := by
  induction fields generalizing definitions with
  | nil => simp [entriesOfJson, eq_comm]
  | cons field rest ih =>
    obtain ⟨name, v⟩ := field
    rw [entriesOfJson]
    constructor
    · intro h
      split at h
      · cases h
      · next d hd =>
        obtain ⟨definitions, hrest, rfl⟩ := map_eq_ok_iff.mp h
        exact .cons ⟨rfl, mapError_eq_ok_iff.mp hd⟩ (ih.mp hrest)
    · rintro (_ | @⟨_, definition, _, definitions, ⟨hname, hd⟩, hrest⟩)
      have hd : within (.key name) (valueOfJson v .items) = .ok definition.2 :=
        mapError_eq_ok_iff.mpr hd
      rw [hd, ih.mpr hrest, show name = definition.1 from hname]
      rfl

lemma listOfJson_eq_ok_iff {index : Nat} {elements : List Json} {ds : List Definition} :
    listOfJson index elements = .ok ds ↔ List.Forall₂ ReadsAs elements ds := by
  induction elements generalizing index ds with
  | nil => simp [listOfJson, eq_comm]
  | cons v rest ih =>
    rw [listOfJson]
    constructor
    · intro h
      split at h
      · cases h
      · next d hd =>
        obtain ⟨ds, hrest, rfl⟩ := map_eq_ok_iff.mp h
        exact .cons (mapError_eq_ok_iff.mp hd) (ih.mp hrest)
    · rintro (_ | @⟨_, d, _, ds, hd, hrest⟩)
      have hd : within (.index index) (valueOfJson v .items) = .ok d := mapError_eq_ok_iff.mpr hd
      rw [hd, ih.mpr hrest]
      rfl

/-- Of an object the fields are read. -/
lemma catalogOfJson_eq {v : Json} (hform : v.form = .object) :
    catalogOfJson v = entriesOfJson v.fields := by
  cases v with
  | object fields =>
    rw [catalogOfJson, valueOfJson]
    rfl
  | _ => cases hform

end Definition

end TreeSchema
