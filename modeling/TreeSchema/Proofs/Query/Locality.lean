/-
Matching is local.

An answer for a schema depends on no more than what its references lead to.  Two registries that
agree on the reach of the schema give the same answers for it, whatever else they hold
(`accepts_local`).  So whatever is registered outside the reach, and in whatever order, does not
matter for the schema.

References do not lead out of the built-in catalog.  Hence a catalog that is imported on top of
it, and defines none of its names, leaves every query for one of these names as it was.
-/
import TreeSchema.EcmaScript
import TreeSchema.Proofs.Matching.Widening
import TreeSchema.Proofs.Query.References
import TreeSchema.Proofs.Registry.History

namespace TreeSchema

/-- The names that a call registers, if there is nothing wrong with what it is given. -/
def Call.names (call : Call) : List String := Entries.names (call.entries?.getD [])

/-- The queries for what is under a name. -/
inductive Query.Names (name : String) : Query → Prop where
  | name : Names name (.name name)
  | reference : Names name (.schema (.ref name))
  | text : Names name (.json (.string name))
  | definition : Names name (.json (.object [("$ref", .string name)]))

namespace Registry

/-- The registry after some calls.  A call that fails changes nothing. -/
def afterCalls (r : Registry) (calls : List Call) : Registry :=
  calls.foldl (fun r call => (r.attempt? call).getD r) r

variable {r r' : Registry} {names : Set String} {name : String} {q : Query}

/-! ### What is registered elsewhere -/

lemma agreeOn_storeAll {entries : List (String × SchemaEntry)}
    (h : ∀ name ∈ Entries.names entries, name ∉ names) : AgreeOn names r (r.storeAll entries) := by
  intro name hname
  rw [schema?, schema?, lookup?_storeAll_of_not_mem fun hmem => h name hmem hname]

lemma attempt?_getD (r : Registry) (call : Call) :
    (r.attempt? call).getD r = r.storeAll (call.entries?.getD []) := by
  rw [attempt?_eq]
  cases call.entries? <;> rfl

lemma agreeOn_afterCalls {calls : List Call}
    (h : ∀ call ∈ calls, ∀ name ∈ call.names, name ∉ names) :
    AgreeOn names r (r.afterCalls calls) := by
  induction calls generalizing r with
  | nil => exact fun _ _ => rfl
  | cons call rest ih =>
    obtain ⟨hcall, hrest⟩ := List.forall_mem_cons.mp h
    intro name hname
    have hfirst : AgreeOn names r ((r.attempt? call).getD r) :=
      attempt?_getD r call ▸ agreeOn_storeAll hcall
    exact (ih hrest name hname).trans (hfirst name hname)

/-! ### Queries by name -/

lemma prepare_of_names (r : Registry) (h : q.Names name) : r.prepare q = r.schemaOfName name := by
  cases h with
  | name => rfl
  | reference => exact prepare_reference r name
  | text => exact prepare_text r name
  | definition => exact prepare_definition r name

lemma schemaOfName_eq_map (r : Registry) (name : String) :
    r.schemaOfName name =
      ((r.resolve name).map SchemaEntry.schema).mapError QueryError.unresolved := by
  unfold schemaOfName
  cases r.resolve name <;> rfl

lemma AgreeOn.schemaOfName (h : AgreeOn names r r') (hclosed : r.Closed names)
    (hname : name ∈ names) : r'.schemaOfName name = r.schemaOfName name := by
  rw [schemaOfName_eq_map, schemaOfName_eq_map, h.resolve hclosed hname]

/-- References do not lead out of a closed set from the schema that one of its names leads to. -/
lemma references_mem_of_schemaOfName (hclosed : r.Closed names) (hname : name ∈ names) {s : Schema}
    (hs : r.schemaOfName name = .ok s) : ∀ x ∈ s.references, x ∈ names := by
  rw [schemaOfName_eq_map, mapError_eq_ok_iff, map_eq_ok_iff] at hs
  obtain ⟨entry, hresolve, rfl⟩ := hs
  exact hclosed.references_of_resolve hname hresolve

/-- Registries that agree on a closed set of names answer queries for one of the names alike. -/
lemma AgreeOn.queries (h : AgreeOn names r r') (hclosed : r.Closed names) (hname : name ∈ names)
    (hq : q.Names name) (depth : Nat) (v : Json) :
    r'.test depth v q = r.test depth v q ∧ r'.find depth v q = r.find depth v q ∧
      r'.count depth v q = r.count depth v q := by
  have hprepare : r'.prepare q = r.prepare q := by
    rw [prepare_of_names r' hq, prepare_of_names r hq, h.schemaOfName hclosed hname]
  cases hs : r.prepare q with
  | error why => simp [test, find, count, hprepare, hs, Except.map]
  | ok s =>
    have hrefs :=
      references_mem_of_schemaOfName hclosed hname ((prepare_of_names r hq).symm.trans hs)
    have haccepts := h.accepts_eq hclosed hrefs
    simp [test, find, count, hprepare, hs, Except.map, haccepts]

/-! ### The built-in catalog -/

/-- No reference in the built-in catalog dangles. -/
lemma dangling_ecmaScript : ecmaScript.dangling = [] := by decide +kernel

lemma agreeOn_importCatalog {v : Json} {count : Nat} (h : r.importCatalog v = .ok (r', count))
    (hnames : ∀ name ∈ Entries.names v.fields, name ∉ names) : AgreeOn names r r' := by
  obtain ⟨entries, hentries, hr⟩ := map_eq_ok_iff.mp h
  obtain ⟨rfl, -⟩ := Prod.mk.inj hr
  exact agreeOn_storeAll (Catalog.names_of_ofJson hentries ▸ hnames)

/-- **Matching is local.**

* Registries that hold the same schemas, or none, under all names that a schema leads to accept
  the same values for it.
* Calls that register none of these names, whether they succeed or fail, do not change what is
  accepted for the schema.
* A catalog that is imported on top of the built-in one, and defines none of its names, does not
  change the answer to any query for one of these. -/
theorem accepts_local :
    (∀ (r r' : Registry) (s : Schema), AgreeOn (r.reach s) r r' →
      ∀ depth v, r'.accepts depth s v = r.accepts depth s v) ∧
    (∀ (r : Registry) (s : Schema) (calls : List Call),
      (∀ call ∈ calls, ∀ name ∈ call.names, name ∉ r.reach s) →
      ∀ depth v, (r.afterCalls calls).accepts depth s v = r.accepts depth s v) ∧
    ∀ (catalog : Json) (r' : Registry) (count : Nat),
      ecmaScript.importCatalog catalog = .ok (r', count) →
      (∀ name ∈ Entries.names catalog.fields, name ∉ ecmaScript.names) →
      ∀ name ∈ ecmaScript.names, ∀ q : Query, q.Names name → ∀ depth v,
        r'.test depth v q = ecmaScript.test depth v q ∧
        r'.find depth v q = ecmaScript.find depth v q ∧
        r'.count depth v q = ecmaScript.count depth v q := by
  refine ⟨fun r r' s hagree => ?_, fun r s calls hcalls => ?_,
    fun catalog r' count himport hnames name hname q hq => ?_⟩
  · exact hagree.accepts_eq closed_reach fun _ hmem => mem_reach_of_mem hmem
  · exact (agreeOn_afterCalls hcalls).accepts_eq closed_reach fun _ hmem => mem_reach_of_mem hmem
  · have hagree : AgreeOn {name | name ∈ ecmaScript.names} ecmaScript r' :=
      agreeOn_importCatalog himport hnames
    exact hagree.queries (closed_names_of_dangling dangling_ecmaScript) hname hq

/-- A name that comes to nothing. -/
def detour : SchemaEntry := { schema := .ref "Nowhere" }

/-- The catalog of loops. -/
def loops : Json :=
  .object [("Loop", .object [("anyOf", .array
    [.object [("$ref", .string "ForStatement")], .object [("$ref", .string "WhileStatement")]])])]

/-- Nothing changes for statements when names are registered, and registered again, that no
statement leads to, nor for the built-in ones when there is a name for loops. -/
theorem statements_local :
    (statements.store "Detour" detour).1.accepts 1 (.ref "Statement") (.object []) =
      statements.accepts 1 (.ref "Statement") (.object []) ∧
    (statements.afterCalls [.register "Detour" detour (.ref "Nowhere"),
        .register "Detour" { id := some "Other", schema := .any } .any]).accepts 1
        (.ref "Statement") (.object []) =
      statements.accepts 1 (.ref "Statement") (.object []) ∧
    ∃ r', ecmaScript.importCatalog loops = .ok (r', 1) ∧
      r'.test 512 (.object []) (.json (.string "ForStatement")) =
        ecmaScript.test 512 (.object []) (.json (.string "ForStatement")) := by
  have hclosed : statements.Closed {name | name ∈ statements.names} := closed_names_of_dangling rfl
  have hreach : statements.reach (.ref "Statement") ⊆ {name | name ∈ statements.names} :=
    reach_subset hclosed (by decide)
  have hdetour : "Detour" ∉ statements.reach (.ref "Statement") :=
    fun hmem => absurd (hreach hmem) (by decide)
  refine ⟨accepts_local.1 _ _ _ (fun name hname => ?_) 1 _, accepts_local.2.1 _ _ _ ?_ 1 _,
    ecmaScript.storeAll
      [("Loop", { schema := .anyOf [.ref "ForStatement", .ref "WhileStatement"] })],
    rfl, ?_⟩
  · exact agreeOn_store statements "Detour" detour name fun heq => hdetour (heq ▸ hname)
  · have hname : ∀ name ∈ ["Detour"], name ∉ statements.reach (.ref "Statement") :=
      List.forall_mem_singleton.mpr hdetour
    exact List.forall_mem_cons.mpr ⟨hname, List.forall_mem_singleton.mpr hname⟩
  · exact (accepts_local.2.2 loops _ 1 rfl (by decide) "ForStatement" (by decide) _ .text 512 _).1

end Registry

end TreeSchema
