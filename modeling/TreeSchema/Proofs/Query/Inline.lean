/-
Definitions in queries.

A query can give a definition instead of a name.  The definition is then made into a schema for
this one query, and the registry knows nothing of it.  One could as well register the
definition under a name that is not in use and ask by that name.  The two take different ways:
the one follows a bare reference at once, for the other it is an alias on the way, and all
matching takes place in a larger registry.

Still the two fail for the same reason or give the same answer (`inline_iff_registered`).  The
new name is outside of all that the definition leads to, so nothing changes there
(`AgreeOn.accepts_eq`), and as an alias the name leads where the definition leads
(`schemaOfName_store_eq_ok_iff`).
-/
import TreeSchema.Proofs.Definition.References
import TreeSchema.Proofs.Query.Locality

namespace TreeSchema

/-- Two answers are the same or both miss a schema, though perhaps by different ways. -/
def SameAnswer {α : Type} (x y : Except QueryError α) : Prop :=
  (∀ a, x = .ok a ↔ y = .ok a) ∧
    ((∃ why, x = .error (.unresolved why)) ↔ ∃ why, y = .error (.unresolved why))

lemma SameAnswer.map {α β : Type} {x y : Except QueryError α} {f g : α → β} (h : SameAnswer x y)
    (hfg : ∀ a, x = .ok a → f a = g a) : SameAnswer (x.map f) (y.map g) := by
  constructor
  · intro b
    simp only [map_eq_ok_iff, ← h.1]
    exact exists_congr fun a => and_congr_right fun ha => by rw [hfg a ha]
  · simpa only [map_eq_error_iff] using h.2

namespace Registry

/-- The name is not registered, and nothing that is registered refers to it. -/
structure Fresh (r : Registry) (name : String) : Prop where
  not_mem_names : name ∉ r.names
  not_mem_references : ∀ stored ∈ r.entries, name ∉ stored.2.schema.references

variable {r : Registry} {name : String} {entry : SchemaEntry} {s : Schema}

/-! ### Storing under a fresh name -/

/-- References do not lead to a fresh name. -/
lemma Fresh.closed (h : r.Fresh name) : r.Closed {name}ᶜ := by
  intro other _ found hfound next hnext heq
  obtain ⟨stored, hlookup, rfl⟩ := lookup_of_schema? hfound
  exact h.not_mem_references _ (Entries.get?_mem hlookup) (heq ▸ hnext)

lemma Fresh.store_eq (h : r.Fresh name) :
    r.store name entry = (⟨Entries.put r.entries name (entry.withDefaultId name)⟩, true) :=
  store_of_not_holds <| Bool.eq_false_iff.mpr fun hholds =>
    h.not_mem_names (mem_names_of_holds hholds)

lemma Fresh.schema?_store (h : r.Fresh name) :
    (r.store name entry).1.schema? name = some entry.schema := by
  rw [h.store_eq, schema?, lookup?, Entries.get?_put_self]
  rfl

/-- A name for a schema leads to the schema, or where the schema leads that is only a reference. -/
lemma schemaOfName_store_eq_ok_iff (hfresh : r.Fresh name)
    (hentry : name ∉ entry.schema.references) :
    (r.store name entry).1.schemaOfName name = .ok s ↔ r.dereference entry.schema = .ok s := by
  have hschema : (r.store name entry).1.schema? name = some entry.schema := hfresh.schema?_store
  obtain ⟨stored, hlookup, hstored⟩ := lookup_of_schema? hschema
  unfold dereference
  split
  · next next halias =>
    rw [Schema.alias?_eq_some_iff] at halias
    have hne : next ≠ name := by
      rintro rfl
      simp [halias, Schema.references] at hentry
    have hstep : (r.store name entry).1.AliasStep name next :=
      ⟨stored, hlookup, hstored.trans halias⟩
    -- the registries do not differ under the next name and behind it
    have hnext := (agreeOn_store r name entry).schemaOfName hfresh.closed hne
    rw [← hnext, schemaOfName_eq_map, schemaOfName_eq_map]
    simp only [mapError_eq_ok_iff, map_eq_ok_iff, resolve_eq_ok_iff_of_leadsTo (.single hstep)]
  · next halias =>
    have hresolve : (r.store name entry).1.resolve name = .ok stored :=
      resolve_eq_ok_iff.mpr ⟨name, .refl, hlookup, hstored ▸ halias⟩
    simp [schemaOfName, hresolve, hstored]

/-- What keeps a name from a schema is that it does not resolve. -/
lemma exists_schemaOfName_eq_error_iff :
    (∃ why, r.schemaOfName name = .error (.unresolved why)) ↔
      ¬ ∃ s, r.schemaOfName name = .ok s := by
  unfold schemaOfName
  cases r.resolve name <;> simp

lemma exists_dereference_eq_error_iff :
    (∃ why, r.dereference s = .error (.unresolved why)) ↔ ¬ ∃ s', r.dereference s = .ok s' := by
  unfold dereference
  split
  · exact exists_schemaOfName_eq_error_iff
  · simp

/-- References do not lead out of a closed set from where a schema leads. -/
lemma references_mem_of_dereference {names : Set String} {s' : Schema} (hclosed : r.Closed names)
    (hs : ∀ x ∈ s.references, x ∈ names) (h : r.dereference s = .ok s') :
    ∀ x ∈ s'.references, x ∈ names := by
  unfold dereference at h
  split at h
  · next next halias =>
    rw [Schema.alias?_eq_some_iff] at halias
    refine references_mem_of_schemaOfName hclosed (hs next ?_) h
    simp [halias, Schema.references]
  · cases h
    exact hs

/-! ### The two ways to ask -/

variable {fields : List (String × Json)} {depth : Nat} {v : Json}

lemma prepare_definition_of_ok (h : Definition.entryOfJson (.object fields) = .ok entry) :
    r.prepare (.json (.object fields)) = r.dereference entry.schema := by
  simp [prepare, h]

lemma prepare_definition_of_error {why : SchemaError}
    (h : Definition.entryOfJson (.object fields) = .error why) :
    r.prepare (.json (.object fields)) = .error (.malformed why) := by
  simp [prepare, h]

/-- A definition is refused in a query just as it is refused by registration. -/
lemma prepare_definition_eq_error_iff {why : SchemaError} :
    r.prepare (.json (.object fields)) = .error (.malformed why) ↔
      r.registerJson name (.object fields) = .error why := by
  rw [registerJson, map_eq_error_iff]
  cases h : Definition.entryOfJson (.object fields) with
  | error reason => simp [prepare_definition_of_error h]
  | ok entry =>
    rw [prepare_definition_of_ok h]
    unfold dereference
    split
    · unfold schemaOfName
      split <;> simp
    · simp

/-- A schema for a definition is had by its name, once it is stored, as it is had without. -/
lemma sameAnswer_prepare (hfresh : r.Fresh name) (hentry : name ∉ entry.schema.references)
    (h : Definition.entryOfJson (.object fields) = .ok entry) :
    SameAnswer (r.prepare (.json (.object fields)))
      ((r.store name entry).1.prepare (.name name)) := by
  have hok : ∀ s, r.dereference entry.schema = .ok s ↔
      (r.store name entry).1.schemaOfName name = .ok s :=
    fun s => (schemaOfName_store_eq_ok_iff hfresh hentry).symm
  rw [prepare_definition_of_ok h]
  refine ⟨hok, ?_⟩
  rw [prepare, exists_schemaOfName_eq_error_iff, exists_dereference_eq_error_iff]
  simp only [hok]

/-- **A definition in a query is as good as one under a name.**  Let the name be one that is not
registered and that neither the definition nor anything registered refers to.

* The query is refused if and only if registering the definition would be, for the same reason.
* Otherwise the query by the name, once the definition is registered under it, has the same answer,
  or neither of the two queries finds a schema.

This is so for every sort of query. -/
theorem inline_iff_registered (r : Registry) (depth : Nat) (v : Json) (name : String)
    (fields : List (String × Json)) (hfresh : r.Fresh name)
    (hwritten : ∀ d, Definition.ofJson (.object fields) = .ok d → ¬ d.RefersTo name) :
    (∀ why,
      (r.test depth v (.json (.object fields)) = .error (.malformed why) ↔
        r.registerJson name (.object fields) = .error why) ∧
      (r.find depth v (.json (.object fields)) = .error (.malformed why) ↔
        r.registerJson name (.object fields) = .error why) ∧
      (r.count depth v (.json (.object fields)) = .error (.malformed why) ↔
        r.registerJson name (.object fields) = .error why)) ∧
    ∀ r' changed, r.registerJson name (.object fields) = .ok (r', changed) →
      SameAnswer (r.test depth v (.json (.object fields))) (r'.test depth v (.name name)) ∧
      SameAnswer (r.find depth v (.json (.object fields))) (r'.find depth v (.name name)) ∧
      SameAnswer (r.count depth v (.json (.object fields))) (r'.count depth v (.name name)) := by
  refine ⟨fun why => ?_, fun r' changed hregister => ?_⟩
  · simp only [test, find, count, map_eq_error_iff]
    exact ⟨prepare_definition_eq_error_iff, prepare_definition_eq_error_iff,
      prepare_definition_eq_error_iff⟩
  obtain ⟨entry, hentry, hstore⟩ := map_eq_ok_iff.mp hregister
  obtain rfl : (r.store name entry).1 = r' := congrArg Prod.fst hstore
  have hrefs : ∀ x ∈ entry.schema.references, x ≠ name := by
    rintro x hx rfl
    obtain ⟨d, hd, hentry⟩ := Definition.entryOfJson_eq_ok_iff.mp hentry
    have hschema := Definition.schema_of_entry hentry
    exact hwritten d hd (Definition.refersTo_of_mem_references hschema hx)
  have hprepare := sameAnswer_prepare hfresh (fun hmem => hrefs name hmem rfl) hentry
  have haccepts : ∀ s, r.prepare (.json (.object fields)) = .ok s →
      r.accepts depth s = (r.store name entry).1.accepts depth s := by
    intro s hs
    rw [prepare_definition_of_ok hentry] at hs
    have hs := references_mem_of_dereference hfresh.closed hrefs hs
    exact funext fun u => ((agreeOn_store r name entry).accepts_eq hfresh.closed hs depth u).symm
  exact ⟨hprepare.map fun s hs => by rw [haccepts s hs],
    hprepare.map fun s hs => by rw [haccepts s hs],
    hprepare.map fun s hs => by rw [haccepts s hs]⟩

/-- A union with nothing in it but a reference, which is that reference. -/
def onlyStatement : List (String × Json) :=
  [("anyOf", .array [.object [("$ref", .string "Statement")]])]

/-- An object matches the union in a query, and also when the union has a name. -/
theorem statements_answer_onlyStatement :
    statements.Fresh "Inline" ∧
      (∀ d, Definition.ofJson (.object onlyStatement) = .ok d → ¬ d.RefersTo "Inline") ∧
      statements.test 1 (.object []) (.json (.object onlyStatement)) = .ok true ∧
      ∃ r', statements.registerJson "Inline" (.object onlyStatement) = .ok (r', true) ∧
        r'.test 1 (.object []) (.name "Inline") = .ok true := by
  have hfresh : statements.Fresh "Inline" := ⟨by decide, by decide⟩
  have hwritten : ∀ d, Definition.ofJson (.object onlyStatement) = .ok d →
      ¬ d.RefersTo "Inline" := by
    intro d hd h
    have hread : Definition.ofJson (.object onlyStatement) =
        .ok { anyOf := some [{ reference := some "Statement" }] } := rfl
    obtain rfl := Except.ok.inj (hread.symm.trans hd)
    cases h with
    | here hname => cases hname
    | part hpart hsub =>
      cases hpart with
      | anyOf hparts hmem =>
        cases hparts
        obtain rfl := List.mem_singleton.mp hmem
        cases hsub with
        | here hname => simp at hname
        | part hpart => rcases hpart with h | h | h | h <;> cases h
      | property h | item h | allOf h => cases h
  have hinline : statements.test 1 (.object []) (.json (.object onlyStatement)) = .ok true := by
    have hresolve : statements.resolve "Statement" = .ok { schema := .ofKind .object } :=
      resolve_eq_ok_iff.mpr ⟨"Node", .single ⟨_, rfl, rfl⟩, rfl, rfl⟩
    have hprepare : statements.prepare (.json (.object onlyStatement)) =
        statements.prepare (.name "Statement") := rfl
    rw [test, hprepare, ← test, test_name_of_resolve_ok 1 (.object []) hresolve, accepts,
      Schema.ofKind, matchesWithin_leaf]
    rfl
  obtain ⟨-, hregister⟩ :=
    inline_iff_registered statements 1 (.object []) "Inline" onlyStatement hfresh hwritten
  exact ⟨hfresh, hwritten, hinline, _, rfl, ((hregister _ true rfl).1.1 true).mp hinline⟩

end Registry

end TreeSchema
