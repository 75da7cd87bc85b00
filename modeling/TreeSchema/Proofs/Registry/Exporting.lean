/-
Registries are imported again from what they are written as.

The entries of a registry are written as a catalog: each under its name, as the definition of its
schema (`Catalog.document`).  The schemas that the catalog defines are like those of the registry,
and so the registry that the catalog is imported into gives the same answers to all queries
(`exists_importText_document`).

An identity is written only where it is not the name, as an entry without an identity is given its
name when it is stored.
-/
import TreeSchema.Proofs.Definition.Completeness
import TreeSchema.Proofs.Definition.Writing
import TreeSchema.Proofs.Json.Writing
import TreeSchema.Proofs.Query.Overwriting
import TreeSchema.Proofs.Registry.Texts

namespace TreeSchema

open Schema (Alike)

/-- The identity of a definition has nothing to do with its schema. -/
lemma Definition.schema_withId (d : Definition) (id : Option String) :
    { d with id := id }.schema = d.schema := by
  rw [schema_eq_schemaWith, schema_eq_schemaWith d]
  rfl

namespace Catalog

open Definition (ofJson_written)

/-- The definition of an entry. -/
def definitionOf (entry : String × SchemaEntry) : Definition :=
  { entry.2.schema.definition false with id := entry.2.id.filter fun id => id != entry.1 }

/-- Entries as a catalog. -/
def document (entries : List (String × SchemaEntry)) : Json :=
  .object (entries.map fun entry => (entry.1, (definitionOf entry).written))

/-- An entry as it is stored. -/
def stored (entry : String × SchemaEntry) : String × SchemaEntry :=
  (entry.1, entry.2.withDefaultId entry.1)

/-- The same name and identity, and alike schemas. -/
structure Retells (entry' entry : String × SchemaEntry) : Prop where
  name : entry'.1 = entry.1
  id : entry'.2.id = entry.2.id
  alike : Alike entry'.2.schema entry.2.schema

variable {entry : String × SchemaEntry} {entries : List (String × SchemaEntry)}

/-- What an entry is written as defines the entry again, as far as it can be told apart. -/
lemma exists_entryOfJson_written (h : entry.2.schema.Definable) :
    ∃ found, Definition.entryOfJson (definitionOf entry).written = .ok found ∧
      Retells (stored (entry.1, found)) (stored entry) := by
  obtain ⟨s, hs, halike⟩ := Schema.exists_schema_definition h false
  have hschema : (definitionOf entry).schema = .ok s :=
    (Definition.schema_withId _ _).trans hs
  refine ⟨⟨(definitionOf entry).id, s⟩, ?_, rfl, ?_, halike⟩
  · rw [Definition.entryOfJson_of_readsAs (ofJson_written _), Definition.entry, hschema]
  · obtain ⟨name, ⟨id, s⟩⟩ := entry
    -- an identity that is not written is the name, which is what it is stored with
    cases id with
    | none => rfl
    | some id =>
      by_cases hid : id = name <;>
        simp [definitionOf, stored, SchemaEntry.withDefaultId, Option.filter, hid]

/-- **Entries whose schemas can be written are had again from their catalog.** -/
theorem exists_ofJson_document (h : ∀ entry ∈ entries, entry.2.schema.Definable) :
    ∃ entries', ofJson (document entries) = .ok entries' ∧
      List.Forall₂ Retells (entries'.map stored) (entries.map stored) := by
  have hentry : ∀ entry ∈ entries, ∃ entry' : String × SchemaEntry,
      DefinesEntry (entry.1, (definitionOf entry).written) entry' ∧
        Retells (stored entry') (stored entry) := by
    intro entry hmem
    obtain ⟨found, hfound, hretells⟩ := exists_entryOfJson_written (h entry hmem)
    exact ⟨(entry.1, found), ⟨rfl, hfound⟩, hretells⟩
  obtain ⟨entries', hentries⟩ := exists_forall₂_iff.mpr hentry
  refine ⟨entries', ofJson_eq_ok_iff.mpr ⟨rfl, ?_⟩, ?_⟩
  · exact List.forall₂_map_left_iff.mpr (hentries.imp fun _ _ hpair => hpair.1)
  · rw [List.forall₂_map_left_iff, List.forall₂_map_right_iff]
    exact (hentries.imp fun _ _ hpair => hpair.2).flip

end Catalog

namespace Registry

open Catalog (Retells stored)

/-- The registry can be written as a text: its schemas have definitions, and the values that these
are written as are read back. -/
structure Exportable (r : Registry) : Prop where
  names : r.names.Nodup
  identified : ∀ entry ∈ r.entries, entry.2.id.isSome = true
  definable : ∀ entry ∈ r.entries, entry.2.schema.Definable
  writable : ∀ entry ∈ r.entries, (Catalog.definitionOf entry).written.Writable
  height : (Catalog.document r.entries).height < Json.maxLevels

variable {r r' : Registry}

lemma names_document (r : Registry) :
    Entries.names (Catalog.document r.entries).fields = r.names := by
  rw [names, Entries.names, Entries.names, Catalog.document, Json.fields, List.map_map]
  rfl

lemma Exportable.writable_document (h : r.Exportable) :
    (Catalog.document r.entries).Writable :=
  .object ((names_document r).symm ▸ h.names) (List.forall_mem_map.mpr h.writable)

lemma lookup?_of_retells (h : List.Forall₂ Retells r'.entries r.entries) (name : String) :
    Option.Rel (fun entry' entry => entry'.id = entry.id ∧ Alike entry'.schema entry.schema)
      (r'.lookup? name) (r.lookup? name) := by
  obtain ⟨entries⟩ := r
  obtain ⟨entries'⟩ := r'
  rw [lookup?, lookup?]
  dsimp only at h ⊢
  induction h with
  | nil => exact .none
  | @cons entry' entry entries' entries hfirst _ ih =>
    obtain ⟨key, old⟩ := entry'
    obtain ⟨rfl, hid, halike⟩ := hfirst
    rw [Entries.get?, Entries.get?]
    split
    · exact .some ⟨hid, halike⟩
    · exact ih

lemma restates_of_retells (h : List.Forall₂ Retells r'.entries r.entries) : Restates r' r := by
  refine ⟨fun name => ?_, fun name entry' entry hlookup' hlookup => ?_⟩
  · have hrel := lookup?_of_retells h name
    rw [contains, contains]
    generalize r'.lookup? name = found', r.lookup? name = found at hrel ⊢
    cases hrel <;> rfl
  · have hrel := lookup?_of_retells h name
    rw [hlookup, hlookup'] at hrel
    cases hrel with
    | some hpair => exact hpair.2

/-- Stored entries have an identity, and to store them again gives them no other. -/
lemma map_stored (h : ∀ entry ∈ r.entries, entry.2.id.isSome = true) :
    r.entries.map stored = r.entries := by
  have hself : ∀ entry ∈ r.entries, stored entry = id entry := by
    rintro ⟨name, ⟨identity, s⟩⟩ hmem
    obtain ⟨identity, rfl⟩ := Option.isSome_iff_exists.mp (h _ hmem)
    rfl
  rw [List.map_congr_left hself, List.map_id]

/-- **A registry is imported again from what it is written as.**  All names are there in the same
order and with the same identities, and all queries have the same answers. -/
theorem exists_importText_document (h : r.Exportable) :
    ∃ r', empty.importText (Catalog.document r.entries).text = .ok (r', r.size) ∧
      r'.names = r.names ∧
      (∀ name, (r'.lookup? name).bind SchemaEntry.id = (r.lookup? name).bind SchemaEntry.id) ∧
      ∀ q depth v, r'.test depth v q = r.test depth v q ∧ r'.find depth v q = r.find depth v q ∧
        r'.count depth v q = r.count depth v q := by
  obtain ⟨entries, hread, hretells⟩ := Catalog.exists_ofJson_document h.definable
  obtain ⟨rest, hbegins, -⟩ := Json.isDocument_text h.writable_document h.height
  have hnames : Entries.names entries = r.names := by
    rw [Catalog.names_of_ofJson hread, names_document]
  have hsize : entries.length = r.size := by
    rw [size, ← List.length_map (f := stored), hretells.length_eq, List.length_map]
  have hentries : (empty.storeAll entries).entries = entries.map stored :=
    entries_storeAll (hnames ▸ h.names) fun _ _ => List.not_mem_nil
  rw [map_stored h.identified, ← hentries] at hretells
  have himport : empty.importText (Catalog.document r.entries).text =
      .ok (empty.storeAll entries, r.size) := by
    rw [importText_of_beginsWith hbegins, importCatalog, hread, ← hsize]
    rfl
  refine ⟨_, himport, ?_, fun name => ?_, (restates_of_retells hretells).queries⟩
  · exact (Entries.names_eq_of_forall₂ (fun _ _ hpair => hpair.name) hretells).symm
  · have hrel := lookup?_of_retells hretells name
    generalize (empty.storeAll entries).lookup? name = found', r.lookup? name = found at hrel ⊢
    cases hrel with
    | none => rfl
    | some hpair => exact hpair.1

end Registry

end TreeSchema
