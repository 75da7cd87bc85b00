/-
Importing catalogs.

There are two ways to register many definitions.  They can be registered one after another, each
being read and made into a schema by itself.  Or they can be imported as a catalog, which is read as
a whole, then made into schemas, and only then registered.  The two ways come to the same
(`importCatalog_all_or_nothing`):

* A catalog can be imported if and only if each of its definitions can be registered, and the
  registry is then the one that registering them in order leads to.
* If one of them cannot be registered, then nothing of the catalog is, not even what stands in front
  of that definition.  Where all definitions could be read, the error tells the first one of which
  no schema could be made, and why.

What makes this work is that the entries of a catalog are those that its fields define one by one
(`Catalog.ofJson_eq_ok_iff`).
-/
import TreeSchema.Proofs.Catalog
import TreeSchema.Registry.Registration

namespace TreeSchema

namespace Catalog

open Definition (entryOfJson ReadsNamed)

variable {fields : List (String × Json)} {definitions : List (String × Definition)} {v : Json}

/-! ### Catalogs that fail -/

/-- A catalog is good if and only if it is an object and each of its fields defines an entry. -/
lemma isOk_ofJson_iff :
    (ofJson v).isOk ↔ v.form = .object ∧ ∀ field ∈ v.fields, (entryOfJson field.2).isOk := by
  have hdefines : ∀ field, (∃ entry, DefinesEntry field entry) ↔ (entryOfJson field.2).isOk := by
    intro field
    rw [isOk_iff]
    constructor
    · rintro ⟨entry, -, hentry⟩
      exact ⟨entry.2, hentry⟩
    · rintro ⟨entry, hentry⟩
      exact ⟨(field.1, entry), rfl, hentry⟩
  rw [isOk_iff]
  simp only [ofJson_eq_ok_iff, exists_and_left, exists_forall₂_iff, hdefines]

/-- Once the definitions of a catalog have been read, it fails at the first one that defines
nothing. -/
lemma entriesOf_eq_error (hread : List.Forall₂ ReadsNamed fields definitions) {why : CatalogError}
    (h : entriesOf definitions = .error why) :
    ∃ before name v after reason, fields = before ++ (name, v) :: after ∧
      (∀ field ∈ before, (entryOfJson field.2).isOk) ∧
      entryOfJson v = .error reason ∧ why = .entry name reason := by
  induction hread with
  | nil => cases h
  | @cons field definition fields definitions hfirst _ ih =>
    obtain ⟨name, v⟩ := field
    obtain ⟨_, d⟩ := definition
    obtain ⟨rfl, hd⟩ := hfirst
    have hentry : entryOfJson v = d.entry := Definition.entryOfJson_of_readsAs hd
    rw [entriesOf] at h
    split at h
    · next reason hreason =>
      cases h
      exact ⟨[], name, v, fields, reason, rfl, by simp, hentry.trans hreason, rfl⟩
    · next entry hdefines =>
      -- this field is none of those that fail, so the first of them is among the others
      have hrest : entriesOf definitions = .error why := map_eq_error_iff.mp h
      obtain ⟨before, name', v', after, reason, rfl, hbefore, hfails, rfl⟩ := ih hrest
      have hok : (entryOfJson v).isOk := isOk_iff.mpr ⟨entry, hentry.trans hdefines⟩
      exact ⟨(name, v) :: before, name', v', after, reason, rfl,
        List.forall_mem_cons.mpr ⟨hok, hbefore⟩, hfails, rfl⟩

/-- Only objects have fields. -/
lemma form_of_mem_fields {field : String × Json} (h : field ∈ v.fields) : v.form = .object := by
  cases v with
  | object fields => rfl
  | _ => cases h

/-- A catalog of which all definitions are read, but not all define something, fails at the first
one that defines nothing. -/
lemma ofJson_eq_error (hread : ∀ field ∈ v.fields, (Definition.ofJson field.2).isOk)
    (hfails : ∃ field ∈ v.fields, ¬ (entryOfJson field.2).isOk) :
    ∃ before name u after reason, v.fields = before ++ (name, u) :: after ∧
      (∀ field ∈ before, (entryOfJson field.2).isOk) ∧
      entryOfJson u = .error reason ∧ ofJson v = .error (.entry name reason) := by
  obtain ⟨definitions, hread⟩ : ∃ definitions, List.Forall₂ ReadsNamed v.fields definitions := by
    refine exists_forall₂_iff.mpr fun field hfield => ?_
    obtain ⟨d, hd⟩ := isOk_iff.mp (hread field hfield)
    exact ⟨(field.1, d), rfl, hd⟩
  obtain ⟨field, hfield, hfieldFails⟩ := hfails
  -- all fields are read, so the only thing that can be wrong is what they define
  have heq : ofJson v = entriesOf definitions :=
    ofJson_of_readsNamed (form_of_mem_fields hfield) hread
  cases hresult : entriesOf definitions with
  | ok entries =>
    have hok : (ofJson v).isOk := isOk_iff.mpr ⟨entries, heq.trans hresult⟩
    exact absurd ((isOk_ofJson_iff.mp hok).2 field hfield) hfieldFails
  | error why =>
    obtain ⟨before, name, u, after, reason, hfields, hbefore, hu, rfl⟩ :=
      entriesOf_eq_error hread hresult
    exact ⟨before, name, u, after, reason, hfields, hbefore, hu, heq.trans hresult⟩

end Catalog

namespace Registry

open Catalog (DefinesEntry)
open Definition (entryOfJson)

/-! ### Registering -/

/-- The registry after an attempt to change it: it is what it was if the attempt failed. -/
def afterwards {ε α : Type} (r : Registry) : Except ε (Registry × α) → Registry
  | .ok (changed, _) => changed
  | .error _ => r

/-- The registry after definitions have been registered one after another. -/
def registerEach (r : Registry) (fields : List (String × Json)) : Registry :=
  fields.foldl (fun r field => r.afterwards (r.registerJson field.1 field.2)) r

variable {r : Registry} {fields : List (String × Json)} {entries : List (String × SchemaEntry)}

/-- Whether a definition can be registered does not depend on the registry. -/
lemma isOk_registerJson {name : String} {v : Json} :
    (r.registerJson name v).isOk = (entryOfJson v).isOk :=
  isOk_map

lemma registerJson_eq_error {name : String} {v : Json} {reason : SchemaError}
    (h : entryOfJson v = .error reason) : r.registerJson name v = .error reason := by
  rw [registerJson, h]
  rfl

/-- To store entries is to register what defines them. -/
lemma storeAll_eq_registerEach (h : List.Forall₂ DefinesEntry fields entries) :
    r.storeAll entries = r.registerEach fields := by
  induction h generalizing r with
  | nil => rfl
  | @cons field entry fields entries hfirst _ ih =>
    obtain ⟨hname, hentry⟩ := hfirst
    have hstore : r.afterwards (r.registerJson field.1 field.2) = (r.store entry.1 entry.2).1 := by
      rw [registerJson, hentry, hname]
      rfl
    rw [registerEach, List.foldl_cons, hstore]
    exact ih

/-- What a catalog defines is stored as if its fields were registered in their order. -/
lemma importCatalog_eq_ok {v : Json} (h : Catalog.ofJson v = .ok entries) :
    r.importCatalog v = .ok (r.registerEach v.fields, v.fields.length) := by
  have hdefined := (Catalog.ofJson_eq_ok_iff.mp h).2
  rw [importCatalog, h, ← storeAll_eq_registerEach hdefined, hdefined.length_eq]
  rfl

/-- **A catalog is registered as its definitions are, or not at all.**

* An import succeeds if and only if it is one of an object whose fields could all be registered.
* If it succeeds, the registry is as if the fields had been registered in their order, and the
  answer tells how many there are.
* If it fails, the registry is what it was.
* If all definitions could be read, but some of them could not be registered, then the error has the
  name of the first one that could not, and the reason that registering it would give. -/
theorem importCatalog_all_or_nothing (r : Registry) (v : Json) :
    ((r.importCatalog v).isOk ↔
      v.form = .object ∧ ∀ field ∈ v.fields, (r.registerJson field.1 field.2).isOk) ∧
    ((r.importCatalog v).isOk →
      r.importCatalog v = .ok (r.registerEach v.fields, v.fields.length)) ∧
    (¬ (r.importCatalog v).isOk → r.afterwards (r.importCatalog v) = r) ∧
    ((∀ field ∈ v.fields, (Definition.ofJson field.2).isOk) →
      (∃ field ∈ v.fields, ¬ (r.registerJson field.1 field.2).isOk) →
      ∃ before name u after reason, v.fields = before ++ (name, u) :: after ∧
        (∀ field ∈ before, (r.registerJson field.1 field.2).isOk) ∧
        r.registerJson name u = .error reason ∧
        r.importCatalog v = .error (.entry name reason)) := by
  simp only [isOk_registerJson]
  have hok : (r.importCatalog v).isOk = (Catalog.ofJson v).isOk := isOk_map
  refine ⟨?_, ?_, ?_, ?_⟩
  · rw [hok]
    exact Catalog.isOk_ofJson_iff
  · intro h
    rw [hok] at h
    obtain ⟨entries, hentries⟩ := isOk_iff.mp h
    exact importCatalog_eq_ok hentries
  · intro h
    cases hresult : r.importCatalog v with
    | ok _ => exact absurd (isOk_iff.mpr ⟨_, hresult⟩) h
    | error _ => rfl
  · intro hread hfails
    obtain ⟨before, name, u, after, reason, hfields, hbefore, hu, hv⟩ :=
      Catalog.ofJson_eq_error hread hfails
    refine ⟨before, name, u, after, reason, hfields, hbefore, registerJson_eq_error hu, ?_⟩
    rw [importCatalog, hv]
    rfl

/-- A registry that knows trees. -/
def nursery : Registry := ⟨[("Tree", { schema := .any })]⟩

/-- The definition of an object that needs a field. -/
def needing (name : String) : Json := .object [("required", .array [.string name])]

/-- A catalog of two definitions. -/
def seedlings : Json :=
  .object [("Tree", needing "kind"), ("Pear", .object [("$ref", .string "Tree")])]

/-- A catalog of three definitions, the second of which is a composition without parts. -/
def blight : Json :=
  .object [("Pear", needing "kind"), ("Canker", .object [("anyOf", .array [])]),
    ("Moss", .object [("type", .string "moss")])]

/-- Seedlings are imported, and blight leaves the nursery as it was. -/
theorem nursery_imports_seedlings :
    nursery.importCatalog seedlings = .ok (nursery.registerEach seedlings.fields, 2) ∧
    nursery.afterwards (nursery.importCatalog blight) = nursery ∧
    ∃ before name u after reason, blight.fields = before ++ (name, u) :: after ∧
      (∀ field ∈ before, (nursery.registerJson field.1 field.2).isOk) ∧
      nursery.registerJson name u = .error reason ∧
      nursery.importCatalog blight = .error (.entry name reason) := by
  refine ⟨?_, ?_, ?_⟩
  · obtain ⟨hgood, hsucceeds, -, -⟩ := importCatalog_all_or_nothing nursery seedlings
    exact hsucceeds (hgood.mpr ⟨rfl, by decide⟩)
  · exact (importCatalog_all_or_nothing nursery blight).2.2.1 (by decide)
  · obtain ⟨-, -, -, hfails⟩ := importCatalog_all_or_nothing nursery blight
    exact hfails (by decide) ⟨_, List.mem_cons_of_mem _ List.mem_cons_self, by decide⟩

example : nursery.importCatalog blight =
    .error (.entry "Canker" (.flawed [] (.emptyList .anyOf))) := rfl

end Registry

end TreeSchema
