/-
What storing changes.

An entry is stored with an identity, and only if the registry does not hold the same entry
under the name already.  The entry stored is then held, all other names are left alone, and the
new name comes last.  For several entries the same follows one by one, as long as no name
comes twice among them.  So to store them a second time changes nothing (`storeAll_storeAll`).
-/
import TreeSchema.Proofs.Entries
import TreeSchema.Proofs.Schema.Keyed
import TreeSchema.Registry.Basic

namespace TreeSchema

lemma SchemaEntry.same_self {entry : SchemaEntry} (h : entry.schema.Keyed) :
    entry.same entry = true := by
  simp [same, h.same_self]

lemma SchemaEntry.id_eq_of_same {a b : SchemaEntry} (h : a.same b = true) : a.id = b.id := by
  simp only [same, Bool.and_eq_true, beq_iff_eq] at h
  exact h.1

lemma SchemaEntry.schema_same_of_same {a b : SchemaEntry} (h : a.same b = true) :
    a.schema.same b.schema = true := by
  simp only [same, Bool.and_eq_true, beq_iff_eq] at h
  exact h.2

namespace Registry

variable {r : Registry} {name other : String} {entry : SchemaEntry}

lemma holds_iff : r.holds name entry = true ↔
    ∃ old, r.lookup? name = some old ∧ old.same entry = true := by
  unfold holds
  split <;> simp_all

/-! ### One entry -/

lemma store_of_holds (h : r.holds name (entry.withDefaultId name) = true) :
    r.store name entry = (r, false) := by
  simp [store, h]

lemma store_of_not_holds (h : r.holds name (entry.withDefaultId name) = false) :
    r.store name entry = (⟨Entries.put r.entries name (entry.withDefaultId name)⟩, true) := by
  simp [store, h]

/-- What is stored is held. -/
lemma holds_store (hkeyed : entry.schema.Keyed) :
    (r.store name entry).1.holds name (entry.withDefaultId name) = true := by
  cases hholds : r.holds name (entry.withDefaultId name)
  · rw [store_of_not_holds hholds, holds_iff]
    exact ⟨_, Entries.get?_put_self _ _ _, SchemaEntry.same_self hkeyed⟩
  · rwa [store_of_holds hholds]

lemma lookup?_store_of_ne (hne : name ≠ other) :
    (r.store name entry).1.lookup? other = r.lookup? other := by
  cases hholds : r.holds name (entry.withDefaultId name)
  · rw [store_of_not_holds hholds]
    exact Entries.get?_put_of_ne _ _ hne
  · rw [store_of_holds hholds]

lemma mem_names_of_holds (h : r.holds name entry = true) : name ∈ r.names := by
  obtain ⟨old, hlookup, -⟩ := holds_iff.mp h
  exact Entries.mem_names_of_mem (Entries.get?_mem hlookup)

lemma names_store_of_mem (h : name ∈ r.names) : (r.store name entry).1.names = r.names := by
  cases hholds : r.holds name (entry.withDefaultId name)
  · rw [store_of_not_holds hholds]
    exact Entries.names_put_of_mem h
  · rw [store_of_holds hholds]

lemma names_store_of_not_mem (h : name ∉ r.names) :
    (r.store name entry).1.names = r.names ++ [name] := by
  cases hholds : r.holds name (entry.withDefaultId name)
  · rw [store_of_not_holds hholds]
    exact Entries.names_put_of_not_mem h
  · exact absurd (mem_names_of_holds hholds) h

/-- What is in a registry after storing is new, or it was there before. -/
lemma mem_store {found : String × SchemaEntry} (h : found ∈ (r.store name entry).1.entries) :
    found = (name, entry.withDefaultId name) ∨ found ∈ r.entries := by
  cases hholds : r.holds name (entry.withDefaultId name)
  · rw [store_of_not_holds hholds] at h
    exact Entries.mem_put h
  · rw [store_of_holds hholds] at h
    exact .inr h

/-- The answer to storing tells whether the entry under the name has changed. -/
lemma store_answer_iff (hr : ∀ old, r.lookup? name = some old → old.schema.Keyed) :
    (r.store name entry).2 = true ↔
      sameOption SchemaEntry.same (r.lookup? name)
        ((r.store name entry).1.lookup? name) = false := by
  cases hholds : r.holds name (entry.withDefaultId name)
  · have hnew : lookup? ⟨Entries.put r.entries name (entry.withDefaultId name)⟩ name =
        some (entry.withDefaultId name) := Entries.get?_put_self _ _ _
    rw [store_of_not_holds hholds, hnew]
    -- what was not held is another entry, or none
    unfold holds at hholds
    cases hlookup : r.lookup? name with
    | none => simp [sameOption]
    | some old => simpa [sameOption, hlookup] using hholds
  · obtain ⟨old, hlookup, -⟩ := holds_iff.mp hholds
    rw [store_of_holds hholds]
    simp [hlookup, sameOption, SchemaEntry.same_self (hr old hlookup)]

/-! ### Several entries -/

variable {entries : List (String × SchemaEntry)}

lemma lookup?_storeAll_of_not_mem (h : name ∉ Entries.names entries) :
    (r.storeAll entries).lookup? name = r.lookup? name := by
  induction entries generalizing r with
  | nil => rfl
  | cons first rest ih =>
    obtain ⟨hfirst, hrest⟩ := List.ne_and_not_mem_of_not_mem_cons h
    exact (ih hrest).trans (lookup?_store_of_ne (Ne.symm hfirst))

/-- All entries that are stored together are held. -/
lemma holds_storeAll (hnames : (Entries.names entries).Nodup)
    (hkeyed : ∀ entry ∈ entries, entry.2.schema.Keyed) :
    ∀ entry ∈ entries,
      (r.storeAll entries).holds entry.1 (entry.2.withDefaultId entry.1) = true := by
  induction entries generalizing r with
  | nil => simp
  | cons first rest ih =>
    obtain ⟨hfirst, hrest⟩ := List.nodup_cons.mp hnames
    obtain ⟨hkey, hkeys⟩ := List.forall_mem_cons.mp hkeyed
    refine List.forall_mem_cons.mpr ⟨?_, ih hrest hkeys⟩
    -- the entries behind the first one have other names
    have hlookup := lookup?_storeAll_of_not_mem (r := (r.store first.1 first.2).1) hfirst
    have hheld : (r.store first.1 first.2).1.holds first.1 _ = true := holds_store hkey
    unfold holds at hheld ⊢
    rw [← hlookup] at hheld
    exact hheld

lemma storeAll_of_holds
    (h : ∀ entry ∈ entries, r.holds entry.1 (entry.2.withDefaultId entry.1) = true) :
    r.storeAll entries = r := by
  induction entries with
  | nil => rfl
  | cons first rest ih =>
    obtain ⟨hfirst, hrest⟩ := List.forall_mem_cons.mp h
    have hstore : r.storeAll (first :: rest) = (r.store first.1 first.2).1.storeAll rest := rfl
    rw [hstore, store_of_holds hfirst, ih hrest]

lemma entries_store_of_not_mem (entry : SchemaEntry) (h : name ∉ r.names) :
    (r.store name entry).1.entries = r.entries ++ [(name, entry.withDefaultId name)] := by
  cases hholds : r.holds name (entry.withDefaultId name)
  · rw [store_of_not_holds hholds]
    exact Entries.put_of_not_mem h
  · exact absurd (mem_names_of_holds hholds) h

/-- Entries with new names come behind the others, in their order. -/
lemma entries_storeAll (hnames : (Entries.names entries).Nodup)
    (hnew : ∀ name ∈ Entries.names entries, name ∉ r.names) :
    (r.storeAll entries).entries =
      r.entries ++ entries.map fun entry => (entry.1, entry.2.withDefaultId entry.1) := by
  induction entries generalizing r with
  | nil => simp [storeAll]
  | cons first rest ih =>
    obtain ⟨hfirst, hrest⟩ := List.nodup_cons.mp hnames
    obtain ⟨hnewFirst, hnewRest⟩ := List.forall_mem_cons.mp hnew
    have hstore := entries_store_of_not_mem first.2 hnewFirst
    have hnewRest : ∀ name ∈ Entries.names rest, name ∉ (r.store first.1 first.2).1.names := by
      intro name hmem
      rw [names_store_of_not_mem hnewFirst]
      simp only [List.mem_append, List.mem_singleton, not_or]
      exact ⟨hnewRest name hmem, fun heq => hfirst (heq ▸ hmem)⟩
    have hall := ih hrest hnewRest
    rw [hstore, List.append_assoc] at hall
    exact hall

/-- To store the same entries once more changes nothing. -/
theorem storeAll_storeAll (hnames : (Entries.names entries).Nodup)
    (hkeyed : ∀ entry ∈ entries, entry.2.schema.Keyed) :
    (r.storeAll entries).storeAll entries = r.storeAll entries :=
  storeAll_of_holds (holds_storeAll hnames hkeyed)

end Registry

end TreeSchema
