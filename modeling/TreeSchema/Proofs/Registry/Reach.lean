/-
How far references lead.

A schema refers to names, and what a registry holds under these refers to further names.  All
the names that a schema leads to in this way make up its reach (`Registry.reach`).  It is the
least set with the names in the schema that references do not lead out of
(`reach_subset`), so whatever has to be looked up for a schema is in its reach.

Two registries agree on a set of names if they hold the same schemas, or none, under them.  The
identities of the schemas and the order of the names do not count.
-/
import Mathlib.Data.Set.Basic
import TreeSchema.Proofs.Entries
import TreeSchema.Proofs.Registry.Aliases
import TreeSchema.Proofs.Schema.References

namespace TreeSchema

namespace Registry

/-- The schema under a name. -/
def schema? (r : Registry) (name : String) : Option Schema :=
  (r.lookup? name).map SchemaEntry.schema

/-- A name that a schema leads to by references. -/
inductive Reaches (r : Registry) (s : Schema) : String → Prop where
  | refers {name : String} (hname : name ∈ s.references) : Reaches r s name
  | follows {name next : String} {found : Schema} (hname : Reaches r s name)
      (hfound : r.schema? name = some found) (hnext : next ∈ found.references) : Reaches r s next

/-- The names that a schema leads to by references. -/
def reach (r : Registry) (s : Schema) : Set String := {name | r.Reaches s name}

/-- References do not lead out of a set of names. -/
def Closed (r : Registry) (names : Set String) : Prop :=
  ∀ name ∈ names, ∀ found, r.schema? name = some found → ∀ next ∈ found.references, next ∈ names

/-- Two registries hold the same schemas, or none, under the names of a set. -/
def AgreeOn (names : Set String) (r r' : Registry) : Prop :=
  ∀ name ∈ names, r'.schema? name = r.schema? name

variable {r r' : Registry} {names : Set String} {s : Schema} {name : String} {entry : SchemaEntry}

lemma schema?_of_lookup (h : r.lookup? name = some entry) : r.schema? name = some entry.schema := by
  simp [schema?, h]

lemma lookup_of_schema? (h : r.schema? name = some s) :
    ∃ entry, r.lookup? name = some entry ∧ entry.schema = s :=
  Option.map_eq_some_iff.mp h

/-! ### The reach is the least closed set -/

lemma mem_reach_of_mem (h : name ∈ s.references) : name ∈ r.reach s := .refers h

lemma closed_reach : r.Closed (r.reach s) :=
  fun _ hname _ hfound _ hnext => .follows hname hfound hnext

/-- The reach lies in every closed set that holds the names in the schema. -/
theorem reach_subset (hclosed : r.Closed names) (hs : ∀ name ∈ s.references, name ∈ names) :
    r.reach s ⊆ names := by
  intro name h
  induction h with
  | refers hname => exact hs _ hname
  | follows _ hfound hnext ih => exact hclosed _ ih _ hfound _ hnext

lemma closed_univ : r.Closed Set.univ := fun _ _ _ _ next _ => Set.mem_univ next

lemma Closed.mem_of_leadsTo {last : String} (hclosed : r.Closed names) (hname : name ∈ names)
    (h : r.LeadsTo name last) : last ∈ names := by
  induction h with
  | refl => exact hname
  | @tail other next _ hstep ih =>
    obtain ⟨entry, hlookup, href⟩ := hstep
    refine hclosed other ih _ (schema?_of_lookup hlookup) next ?_
    simp [href, Schema.references]

/-- The schema that a name of a closed set resolves to refers to names of the set only. -/
lemma Closed.references_of_resolve (hclosed : r.Closed names) (hname : name ∈ names)
    {entry : SchemaEntry} (h : r.resolve name = .ok entry) :
    ∀ x ∈ entry.schema.references, x ∈ names := by
  obtain ⟨last, hleads, hlookup, -⟩ := resolve_eq_ok_iff.mp h
  exact hclosed last (hclosed.mem_of_leadsTo hname hleads) _ (schema?_of_lookup hlookup)

lemma contains_iff_mem_names : r.contains name = true ↔ name ∈ r.names :=
  Entries.isSome_get?_iff

/-- A reference dangles if it stands in a stored schema and its name is not registered. -/
lemma mem_dangling_iff {owner : String} :
    (owner, name) ∈ r.dangling ↔
      name ∉ r.names ∧ ∃ entry, (owner, entry) ∈ r.entries ∧ name ∈ entry.schema.references := by
  simp only [dangling, List.mem_flatMap, List.mem_map, List.mem_filter, Prod.mk.injEq, Prod.exists,
    ← contains_iff_mem_names, Bool.not_eq_true', Bool.not_eq_true]
  constructor
  · rintro ⟨_, entry, hmem, _, ⟨hname, hmissing⟩, rfl, rfl⟩
    exact ⟨hmissing, entry, hmem, hname⟩
  · rintro ⟨hmissing, entry, hmem, hname⟩
    exact ⟨owner, entry, hmem, name, ⟨hname, hmissing⟩, rfl, rfl⟩

/-- Where no reference dangles, references do not lead out of the registered names. -/
lemma closed_names_of_dangling (h : r.dangling = []) : r.Closed {name | name ∈ r.names} := by
  intro name _ found hfound next hnext
  obtain ⟨entry, hlookup, rfl⟩ := lookup_of_schema? hfound
  by_contra hmem
  have hdangling : (name, next) ∈ r.dangling :=
    mem_dangling_iff.mpr ⟨hmem, entry, Entries.get?_mem hlookup, hnext⟩
  rw [h] at hdangling
  cases hdangling

/-! ### Agreement -/

lemma AgreeOn.symm (h : AgreeOn names r r') : AgreeOn names r' r :=
  fun name hname => (h name hname).symm

lemma AgreeOn.closed (h : AgreeOn names r r') (hclosed : r.Closed names) : r'.Closed names :=
  fun name hname found hfound => hclosed name hname found (h name hname ▸ hfound)

/-- Registries that agree where references lead resolve a name to the same schema, or fail for the
same reason. -/
lemma AgreeOn.resolve (h : AgreeOn names r r') (hclosed : r.Closed names) (hname : name ∈ names) :
    (r'.resolve name).map SchemaEntry.schema = (r.resolve name).map SchemaEntry.schema := by
  suffices hfrom : ∀ visited, (r'.resolveFrom visited name).map SchemaEntry.schema =
      (r.resolveFrom visited name).map SchemaEntry.schema from hfrom []
  intro visited
  fun_induction Registry.resolveFrom r visited name with
  | case1 visited name hvisited => rw [Registry.resolveFrom, dif_pos hvisited]
  | case2 visited name hnew hlookup =>
    have hnone : r'.lookup? name = none := by
      simpa [schema?, hlookup] using h name hname
    rw [resolveFrom_of_lookup_none hnew hnone]
  | case3 visited name hnew found hlookup next halias hless ih =>
    have href : found.schema = .ref next := by simpa using halias
    have hfound := (schema?_of_lookup hlookup).trans (congrArg some href)
    obtain ⟨found', hlookup', hsame⟩ := lookup_of_schema? ((h name hname).trans hfound)
    have hnext : next ∈ names := hclosed name hname _ hfound next (by simp [Schema.references])
    rw [resolveFrom_of_aliasStep hnew ⟨found', hlookup', hsame⟩]
    exact ih hnext
  | case4 visited name hnew found hlookup halias =>
    have hfound := schema?_of_lookup hlookup
    obtain ⟨found', hlookup', hsame⟩ := lookup_of_schema? ((h name hname).trans hfound)
    rw [resolveFrom_of_lookup hnew hlookup' (hsame ▸ halias)]
    simp [Except.map, hsame]

end Registry

end TreeSchema
