/-
What is registered for definitions.

The entries of a catalog are those that its fields define one by one, each by itself
(`Catalog.ofJson_eq_ok_iff`): first all fields are read and then all definitions are made into
entries, but both steps go along the same names.

Entries that come from definitions can be registered without being looked at again: their
schemas have no flaw, and they are keyed if the values are that define them.  The entries of a
catalog have different names besides.  All of this holds of the entries of a text without
any condition.
-/
import TreeSchema.Catalog
import TreeSchema.Proofs.Definition.Keyed

namespace TreeSchema

/-- Entries that can be registered together. -/
structure Registrable (entries : List (String × SchemaEntry)) : Prop where
  names : (Entries.names entries).Nodup
  flawless : ∀ entry ∈ entries, entry.2.schema.Flawless
  keyed : ∀ entry ∈ entries, entry.2.schema.Keyed

lemma registrable_singleton {name : String} {entry : SchemaEntry}
    (hflawless : entry.schema.Flawless) (hkeyed : entry.schema.Keyed) :
    Registrable [(name, entry)] where
  names := List.nodup_singleton name
  flawless := by simpa using hflawless
  keyed := by simpa using hkeyed

variable {v : Json} {entry : SchemaEntry}

namespace Definition

lemma schema_of_entry {d : Definition} (h : d.entry = .ok entry) : d.schema = .ok entry.schema := by
  unfold Definition.entry at h
  split at h
  · next s hs =>
    cases h
    exact hs
  · cases h

/-- A value defines the entry of the definition that it is read as. -/
lemma entryOfJson_of_readsAs {d : Definition} (h : ReadsAs v d) : entryOfJson v = d.entry := by
  rw [entryOfJson, h]

lemma entryOfJson_eq_ok_iff :
    entryOfJson v = .ok entry ↔ ∃ d, ReadsAs v d ∧ d.entry = .ok entry := by
  constructor
  · intro h
    unfold entryOfJson at h
    split at h
    · next d hd => exact ⟨d, hd, h⟩
    · cases h
  · rintro ⟨d, hd, hentry⟩
    rw [entryOfJson_of_readsAs hd, hentry]

lemma registrable_of_entryOfJson (hv : v.Keyed) (h : entryOfJson v = .ok entry)
    (name : String) : Registrable [(name, entry)] := by
  obtain ⟨d, hd, hentry⟩ := entryOfJson_eq_ok_iff.mp h
  have hs := schema_of_entry hentry
  exact registrable_singleton (schema_flawless hs) ((keyed_of_ofJson hv hd).schema hs)

end Definition

namespace Catalog

open Definition (entryOfJson ReadsNamed)

/-- A named definition and its entry, under the same name. -/
def MakesEntry (definition : String × Definition) (entry : String × SchemaEntry) : Prop :=
  definition.1 = entry.1 ∧ definition.2.entry = .ok entry.2

/-- A field of a catalog and the entry that its value defines, under the same name. -/
def DefinesEntry (field : String × Json) (entry : String × SchemaEntry) : Prop :=
  field.1 = entry.1 ∧ entryOfJson field.2 = .ok entry.2

variable {definitions : List (String × Definition)} {entries : List (String × SchemaEntry)}

/-! ### Field by field -/

/-- The definitions of a catalog are made into entries one by one. -/
lemma entriesOf_eq_ok_iff :
    entriesOf definitions = .ok entries ↔ List.Forall₂ MakesEntry definitions entries := by
  induction definitions generalizing entries with
  | nil => simp [entriesOf, eq_comm]
  | cons definition rest ih =>
    obtain ⟨name, d⟩ := definition
    rw [entriesOf]
    constructor
    · intro h
      split at h
      · cases h
      · next entry hentry =>
        obtain ⟨entries, hrest, rfl⟩ := map_eq_ok_iff.mp h
        exact .cons ⟨rfl, hentry⟩ (ih.mp hrest)
    · rintro (_ | @⟨_, entry, _, entries, ⟨hname, hentry⟩, hrest⟩)
      have hentry : d.entry = .ok entry.2 := hentry
      rw [hentry, ih.mpr hrest, show name = entry.1 from hname]
      rfl

lemma definesEntry_iff {field : String × Json} {entry : String × SchemaEntry} :
    DefinesEntry field entry ↔
      ∃ definition, ReadsNamed field definition ∧ MakesEntry definition entry := by
  constructor
  · rintro ⟨hname, hentry⟩
    obtain ⟨d, hd, hentry⟩ := Definition.entryOfJson_eq_ok_iff.mp hentry
    exact ⟨(field.1, d), ⟨rfl, hd⟩, hname, hentry⟩
  · rintro ⟨definition, ⟨hname, hd⟩, hname', hentry⟩
    exact ⟨hname.trans hname', Definition.entryOfJson_eq_ok_iff.mpr ⟨definition.2, hd, hentry⟩⟩

/-- A catalog defines its entries by way of the definitions that it is read as. -/
lemma forall₂_definesEntry_iff {fields : List (String × Json)} :
    List.Forall₂ DefinesEntry fields entries ↔ ∃ definitions,
      List.Forall₂ ReadsNamed fields definitions ∧ List.Forall₂ MakesEntry definitions entries := by
  rw [forall₂_comp_iff]
  constructor
  · intro h
    exact h.imp fun _ _ => definesEntry_iff.mp
  · intro h
    exact h.imp fun _ _ => definesEntry_iff.mpr

/-- The definitions of a catalog that is read make its entries, or they fail to. -/
lemma ofJson_of_readsNamed (hform : v.form = .object)
    (hread : List.Forall₂ ReadsNamed v.fields definitions) : ofJson v = entriesOf definitions := by
  rw [ofJson, if_pos hform, Definition.catalogOfJson_eq hform,
    Definition.entriesOfJson_eq_ok_iff.mpr hread]

/-- **The entries of a catalog are those that its fields define one by one.** -/
theorem ofJson_eq_ok_iff :
    ofJson v = .ok entries ↔
      v.form = .object ∧ List.Forall₂ DefinesEntry v.fields entries := by
  rw [forall₂_definesEntry_iff]
  constructor
  · intro h
    by_cases hform : v.form = .object
    · rw [ofJson, if_pos hform, Definition.catalogOfJson_eq hform] at h
      split at h
      · next definitions hdefinitions =>
        exact ⟨hform, definitions, Definition.entriesOfJson_eq_ok_iff.mp hdefinitions,
          entriesOf_eq_ok_iff.mp h⟩
      · cases h
    · rw [ofJson, if_neg hform] at h
      cases h
  · rintro ⟨hform, definitions, hread, hmakes⟩
    rw [ofJson_of_readsNamed hform hread]
    exact entriesOf_eq_ok_iff.mpr hmakes

/-- The entries of a catalog have the names of its fields. -/
lemma names_of_ofJson (h : ofJson v = .ok entries) :
    Entries.names entries = Entries.names v.fields :=
  Entries.names_eq_of_forall₂ (fun _ _ hdefines => hdefines.1) (ofJson_eq_ok_iff.mp h).2

/-! ### Registering together -/

/-- The entries of a catalog can be registered together. -/
theorem registrable_of_ofJson (hv : v.Keyed) (h : ofJson v = .ok entries) :
    Registrable entries := by
  obtain ⟨hform, hdefines⟩ := ofJson_eq_ok_iff.mp h
  have hnames := names_of_ofJson h
  cases hv with
  | object hfieldNames hfields =>
    -- each entry could be registered by itself, because of the field that defines it
    have hsingle : ∀ entry ∈ entries, Registrable [entry] :=
      forall_mem_of_forall₂ hdefines fun field hfield entry hentry =>
        Definition.registrable_of_entryOfJson (hfields field hfield) hentry.2 entry.1
    refine ⟨?_, fun entry hentry => ?_, fun entry hentry => ?_⟩
    · rw [hnames]
      exact hfieldNames
    · exact (hsingle entry hentry).flawless entry List.mem_cons_self
    · exact (hsingle entry hentry).keyed entry List.mem_cons_self
  | _ => cases hform

/-- The entries of a catalog in a text can be registered together. -/
theorem registrable_of_ofTextBeginning {text : String} (h : ofTextBeginning text = .ok entries) :
    Registrable entries := by
  unfold ofTextBeginning at h
  split at h
  · next v hv => exact registrable_of_ofJson (Json.keyed_of_ofTextBeginning hv) h
  · cases h

end Catalog

end TreeSchema
