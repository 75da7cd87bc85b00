/-
Registries over whole runs.

A session is a registry together with its history, the entries that have been registered with
success so far.  A call adds its entries to both, or it fails and adds to none.  Whatever the
calls are, the registry agrees with the history (`Session.Sound`): its names are those of
the history in the order in which they came first, and under each name is the entry that came
last, up to equality and with an identity.  Nothing that is stored has a flaw.

Of the four ways to register only one checks what it is given for flaws.  The others register
what definitions define, which has none.

Calls are given schemas and values as programs have them, with their fields in maps.  So
a call carries with it that what it is given is keyed.  Of a text this need not be said.
-/
import TreeSchema.Proofs.Catalog
import TreeSchema.Proofs.Registry.Storage
import TreeSchema.Registry.Registration

namespace TreeSchema

/-- A call that may change a registry. -/
inductive Call where
  | register (name : String) (entry : SchemaEntry) (hkeyed : entry.schema.Keyed)
  | registerJson (name : String) (v : Json) (hkeyed : v.Keyed)
  | importCatalog (v : Json) (hkeyed : v.Keyed)
  | importText (text : String)

/-- The entries that a call registers, if there is nothing wrong with what it is given. -/
def Call.entries? : Call → Option (List (String × SchemaEntry))
  | .register name entry _ => entry.schema.validate.toOption.map fun _ => [(name, entry)]
  | .registerJson name v _ => (Definition.entryOfJson v).toOption.map fun entry => [(name, entry)]
  | .importCatalog v _ => (Catalog.ofJson v).toOption
  | .importText text => (Catalog.ofTextBeginning text).toOption

/-- The registry after a call, if the call succeeds. -/
def Registry.attempt? (r : Registry) : Call → Option Registry
  | .register name entry _ => (r.register name entry).toOption.map Prod.fst
  | .registerJson name v _ => (r.registerJson name v).toOption.map Prod.fst
  | .importCatalog v _ => (r.importCatalog v).toOption.map Prod.fst
  | .importText text => (r.importText text).toOption.map Prod.fst

/-- A registry and the entries registered with success so far, the first one first. -/
structure Session where
  registry : Registry := .empty
  history : List (String × SchemaEntry) := []

namespace Session

/-- The session after one more call. -/
def perform (s : Session) (call : Call) : Session :=
  match s.registry.attempt? call with
  | some r => ⟨r, s.history ++ call.entries?.getD []⟩
  | none => s

/-- The session of some calls, from an empty registry. -/
def run (calls : List Call) : Session := calls.foldl perform {}

/-- The entry registered last under a name. -/
def latest? (s : Session) (name : String) : Option SchemaEntry :=
  Entries.get? s.history.reverse name

end Session

/-! ### What a call does -/

/-- A call stores its entries, or it fails, whatever the registry. -/
lemma attempt?_eq (r : Registry) (call : Call) :
    r.attempt? call = call.entries?.map r.storeAll := by
  cases call with
  | register name entry hkeyed =>
    rw [Registry.attempt?, Registry.register, Call.entries?]
    cases entry.schema.validate <;> simp [Except.toOption, Registry.storeAll]
  | registerJson name v hkeyed =>
    rw [Registry.attempt?, Registry.registerJson, Call.entries?]
    cases Definition.entryOfJson v <;> simp [Except.map, Except.toOption, Registry.storeAll]
  | importCatalog v hkeyed =>
    rw [Registry.attempt?, Registry.importCatalog, Call.entries?]
    cases Catalog.ofJson v <;> simp [Except.map, Except.toOption]
  | importText text =>
    rw [Registry.attempt?, Registry.importText, Call.entries?]
    cases Catalog.ofTextBeginning text <;> simp [Except.map, Except.toOption]

/-- The entries of a call can be registered together: the ones given as they are have been
checked, and the others come from definitions. -/
lemma registrable_of_entries? {call : Call} {entries : List (String × SchemaEntry)}
    (h : call.entries? = some entries) : Registrable entries := by
  cases call with
  | register name entry hkeyed =>
    obtain ⟨_, hvalid, rfl⟩ := Option.map_eq_some_iff.mp h
    have hflawless := Schema.validate_eq_ok_iff.mp (toOption_eq_some_iff.mp hvalid)
    exact registrable_singleton hflawless hkeyed
  | registerJson name v hkeyed =>
    obtain ⟨entry, hentry, rfl⟩ := Option.map_eq_some_iff.mp h
    exact Definition.registrable_of_entryOfJson hkeyed (toOption_eq_some_iff.mp hentry) name
  | importCatalog v hkeyed =>
    exact Catalog.registrable_of_ofJson hkeyed (toOption_eq_some_iff.mp h)
  | importText text => exact Catalog.registrable_of_ofTextBeginning (toOption_eq_some_iff.mp h)

namespace Session

/-! ### The invariant -/

/-- The registry of a session agrees with its history. -/
structure Sound (s : Session) : Prop where
  flawless : ∀ found ∈ s.registry.entries, found.2.schema.Flawless
  keyed : ∀ found ∈ s.registry.entries, found.2.schema.Keyed
  names_nodup : s.registry.names.Nodup
  names_eq : s.registry.names = (Entries.names s.history).eraseDups
  lookup : ∀ name, sameOption SchemaEntry.same (s.registry.lookup? name)
    ((s.latest? name).map fun entry => entry.withDefaultId name) = true

lemma sound_empty : Sound {} where
  flawless := fun _ h => nomatch h
  keyed := fun _ h => nomatch h
  names_nodup := .nil
  names_eq := rfl
  lookup := fun _ => rfl

section Step

variable {s : Session} {name : String} {entry : SchemaEntry}

/-- The session after one entry has been stored. -/
def store (s : Session) (name : String) (entry : SchemaEntry) : Session :=
  ⟨(s.registry.store name entry).1, s.history ++ [(name, entry)]⟩

lemma latest?_store_self : (s.store name entry).latest? name = some entry := by
  simp [store, latest?, Entries.get?]

lemma latest?_store_of_ne {other : String} (hne : name ≠ other) :
    (s.store name entry).latest? other = s.latest? other := by
  simp [store, latest?, Entries.get?, hne]

lemma Sound.names_store (h : s.Sound) :
    (s.store name entry).registry.names =
      (Entries.names (s.store name entry).history).eraseDups := by
  have hmem : name ∈ s.registry.names ↔ name ∈ Entries.names s.history := by
    rw [h.names_eq, List.mem_eraseDups]
  have hhistory : Entries.names (s.history ++ [(name, entry)]) =
      Entries.names s.history ++ [name] := List.map_append
  simp only [store, hhistory, List.eraseDups_append, ← h.names_eq]
  -- a name that is there already adds nothing on either side
  by_cases hname : name ∈ s.registry.names
  · rw [Registry.names_store_of_mem hname]
    simp [List.removeAll, hmem.mp hname]
  · rw [Registry.names_store_of_not_mem hname]
    simp [List.removeAll, List.eraseDups_cons, mt hmem.mpr hname]

lemma Sound.lookup_store (h : s.Sound) (hkeyed : entry.schema.Keyed) (other : String) :
    sameOption SchemaEntry.same ((s.store name entry).registry.lookup? other)
      (((s.store name entry).latest? other).map fun entry => entry.withDefaultId other) = true := by
  by_cases heq : name = other
  · subst heq
    obtain ⟨stored, hlookup, hsame⟩ := Registry.holds_iff.mp
      (Registry.holds_store (r := s.registry) hkeyed)
    rw [latest?_store_self, store, hlookup]
    exact hsame
  · rw [latest?_store_of_ne heq, store, Registry.lookup?_store_of_ne heq]
    exact h.lookup other

/-- To store an entry without flaws preserves the agreement. -/
lemma Sound.store (h : s.Sound) (hflawless : entry.schema.Flawless) (hkeyed : entry.schema.Keyed) :
    (s.store name entry).Sound where
  flawless := fun found hfound => by
    rcases Registry.mem_store hfound with rfl | hold
    · exact hflawless
    · exact h.flawless found hold
  keyed := fun found hfound => by
    rcases Registry.mem_store hfound with rfl | hold
    · exact hkeyed
    · exact h.keyed found hold
  names_nodup := by
    rcases Decidable.em (name ∈ s.registry.names) with hmem | hnew
    · exact (Registry.names_store_of_mem hmem).symm ▸ h.names_nodup
    · refine (Registry.names_store_of_not_mem hnew).symm ▸ ?_
      exact List.nodup_append_comm.mp (List.nodup_cons.mpr ⟨hnew, h.names_nodup⟩)
  names_eq := h.names_store
  lookup := h.lookup_store hkeyed

lemma Sound.storeAll (h : s.Sound) {entries : List (String × SchemaEntry)}
    (hentries : Registrable entries) :
    Sound ⟨s.registry.storeAll entries, s.history ++ entries⟩ := by
  obtain ⟨-, hflawless, hkeyed⟩ := hentries
  induction entries generalizing s with
  | nil => simpa [Registry.storeAll] using h
  | cons first rest ih =>
    obtain ⟨hfirst, hrest⟩ := List.forall_mem_cons.mp hflawless
    obtain ⟨hkey, hkeys⟩ := List.forall_mem_cons.mp hkeyed
    have hfirst : (s.store first.1 first.2).Sound := h.store hfirst hkey
    have hrest := ih hfirst hrest hkeys
    simpa [Session.store, Registry.storeAll] using hrest

/-- A call preserves the agreement. -/
lemma Sound.perform (h : s.Sound) (call : Call) : (s.perform call).Sound := by
  unfold Session.perform
  rw [attempt?_eq]
  cases hentries : call.entries? with
  | none => exact h
  | some entries => exact h.storeAll (registrable_of_entries? hentries)

end Step

/-- Registries agree with their histories over whole runs. -/
lemma sound_run (calls : List Call) : (run calls).Sound :=
  List.foldlRecOn calls perform sound_empty fun _ h call _ => h.perform call

/-! ### Answers -/

/-- The answer that comes with a result tells whether the entry under a name has changed. -/
def TellsChange (r : Registry) (name : String) (result : Except SchemaError (Registry × Bool)) :
    Prop :=
  ∀ r' changed, result = .ok (r', changed) →
    (changed = true ↔ sameOption SchemaEntry.same (r.lookup? name) (r'.lookup? name) = false)

variable {s : Session}

lemma Sound.tellsChange_store (h : s.Sound) (name : String) (entry : SchemaEntry) :
    TellsChange s.registry name (.ok (s.registry.store name entry)) := by
  rintro r' changed hresult
  have hanswer : (s.registry.store name entry).2 = true ↔ _ :=
    Registry.store_answer_iff fun old hlookup => h.keyed (name, old) (Entries.get?_mem hlookup)
  rwa [Except.ok.inj hresult] at hanswer

lemma Sound.tellsChange_register (h : s.Sound) (name : String) (entry : SchemaEntry) :
    TellsChange s.registry name (s.registry.register name entry) := by
  unfold Registry.register
  split
  · exact h.tellsChange_store name entry
  · exact nofun

lemma Sound.tellsChange_registerJson (h : s.Sound) (name : String) (v : Json) :
    TellsChange s.registry name (s.registry.registerJson name v) := by
  unfold Registry.registerJson
  cases Definition.entryOfJson v with
  | ok entry => exact h.tellsChange_store name entry
  | error why => exact nofun

/-! ### Whole runs -/

lemma perform_of_attempt?_eq_none {call : Call} (h : s.registry.attempt? call = none) :
    s.perform call = s := by
  simp [perform, h]

/-- To repeat a call that has succeeded changes nothing. -/
lemma attempt?_again {r r' : Registry} {call : Call} (h : r.attempt? call = some r') :
    r'.attempt? call = some r' := by
  rw [attempt?_eq, Option.map_eq_some_iff] at h
  obtain ⟨entries, hcall, rfl⟩ := h
  have hentries := registrable_of_entries? hcall
  rw [attempt?_eq, hcall, Option.map_some, Registry.storeAll_storeAll hentries.names hentries.keyed]

/-- What is stored under a name has the identity of the entry registered last, or else the name. -/
lemma Sound.identity (h : s.Sound) {name : String} {stored : SchemaEntry}
    (hstored : (name, stored) ∈ s.registry.entries) :
    ∃ entry, s.latest? name = some entry ∧ stored.id = some (entry.id.getD name) := by
  have hlookup := h.lookup name
  rw [show s.registry.lookup? name = some stored from
    Entries.get?_of_mem h.names_nodup hstored] at hlookup
  cases hlatest : s.latest? name with
  | none => simp [hlatest, sameOption] at hlookup
  | some entry =>
    rw [hlatest] at hlookup
    exact ⟨entry, rfl, SchemaEntry.id_eq_of_same hlookup⟩

/-- **Registries over whole runs.**  After any calls, whether they succeeded or failed:

* every stored schema is valid and has an identity;
* the names are those of the entries registered with success, each once and in the order in
  which they came first;
* under each name is the entry registered last, up to equality and with an identity;
* a call that fails changes neither the entries nor their order;
* registering one entry is answered by whether the entry under its name has changed;
* to repeat a call that has succeeded changes nothing. -/
theorem registry_of_run (calls : List Call) :
    (∀ name stored, (name, stored) ∈ (run calls).registry.entries →
      stored.schema.validate = .ok () ∧
        ∃ entry, (run calls).latest? name = some entry ∧ stored.id = some (entry.id.getD name)) ∧
    (run calls).registry.names.Nodup ∧
    (run calls).registry.names = (Entries.names (run calls).history).eraseDups ∧
    (∀ name, sameOption SchemaEntry.same ((run calls).registry.lookup? name)
      (((run calls).latest? name).map fun entry => entry.withDefaultId name) = true) ∧
    (∀ call, (run calls).registry.attempt? call = none →
      ((run calls).perform call).registry = (run calls).registry) ∧
    (∀ name entry, TellsChange (run calls).registry name
      ((run calls).registry.register name entry)) ∧
    (∀ name v, TellsChange (run calls).registry name
      ((run calls).registry.registerJson name v)) ∧
    ∀ call r, (run calls).registry.attempt? call = some r → r.attempt? call = some r := by
  have h := sound_run calls
  refine ⟨fun name stored hstored => ⟨?_, h.identity hstored⟩, h.names_nodup, h.names_eq, h.lookup,
    fun call hfails => ?_, h.tellsChange_register, h.tellsChange_registerJson,
    fun call r hattempt => attempt?_again hattempt⟩
  · exact Schema.validate_eq_ok_iff.mpr (h.flawless _ hstored)
  · rw [perform_of_attempt?_eq_none hfails]

/-- A union of nothing is refused, and a name that comes again keeps its place. -/
example : (run [.register "Node" { schema := .any } .any,
    .register "Nothing" { schema := .anyOf [] } (.anyOf nofun),
    .register "Leaf" { schema := .ref "Node" } (.ref "Node"),
    .register "Node" { schema := .ref "Leaf" } (.ref "Leaf")]).registry.names =
      ["Node", "Leaf"] := by
  cbv

end Session

end TreeSchema
