/-
What the `type` of a node tells.

A tagged entry of the catalog of ECMAScript syntax trees is for the nodes whose `type` is the name
of the entry.  So a value that matches such an entry has the name of the entry as its `type`, and
it matches no other tagged entry (`type_of_test`).

The `type` is asked for by the pattern of the name, as `Pattern.exact` builds it.  A catalog gives
the source of that pattern, and what the source is read as asks for the same (`ofSource?_tag`).

One would have it that all entries for nodes are tagged, apart from those for whole families of
nodes.  But there are seven that are not, the *loose* ones, and nodes of quite another `type` match
them (`type_not_decisive`).
-/
import TreeSchema.Proofs.EcmaScript.Nodes
import TreeSchema.Proofs.Regex.Words

namespace TreeSchema

namespace EcmaScript

open Registry (ecmaScript test_name_iff_conformsWithin)

variable {r : Registry} {name : String} {depth : Nat} {s : Schema} {v : Json}

/-- The entries for families of nodes and for what is not a node. -/
def abstract : List String :=
  ["Node", "Function", "Statement", "Declaration", "Expression", "Pattern", "XML"] ++ auxiliary

/-- The entries for a single sort of nodes that do not look at the `type`. -/
def loose : List String :=
  ["YieldExpression", "ComprehensionExpression", "GeneratorExpression", "GraphExpression",
    "GraphIndexExpression", "ComprehensionBlock", "XMLEscape"]

/-- The schema asks for an object whose `type` is a given text, as far as it has one. -/
def AsksForType (name : String) (s : Schema) : Prop :=
  ∃ properties required, s.HasConjunct (.object properties required) ∧
    ("type", exactly name) ∈ properties

/-! ### Entries -/

lemma asksForType_tagged {families : List String} {fields : List (String × Schema)} :
    AsksForType name (tagged name families fields).2.schema := by
  refine ⟨("type", exactly name) :: fields, fields.map Prod.fst, ?_, List.mem_cons_self⟩
  exact .part (List.mem_append_right _ List.mem_cons_self) .self

/-- An entry that is neither abstract nor loose is tagged. -/
lemma abstract_or_loose_or_tagged :
    ∀ entry ∈ entries, entry.1 ∈ abstract ∨ entry.1 ∈ loose ∨
      AsksForType entry.1 entry.2.schema := by
  have htagged : ∀ name families fields,
      AsksForType (tagged name families fields).1 (tagged name families fields).2.schema :=
    fun _ _ _ => asksForType_tagged
  simp [entries, general, statements, declarations, expressions, patterns, clauses, leaves, markup,
    operators, htagged, untagged, entry, synonym, family, words, abstract, loose, auxiliary]

/-- **The source of the pattern of an entry's name is read as a pattern that admits that name and no
other text.** -/
theorem ofSource?_tag (hname : name ∈ ecmaScript.names) :
    ∃ p, Pattern.ofSource? (Pattern.exact name).source = some p ∧
      p.same (Pattern.exact name) = true ∧ ∀ text, p.admits text = true ↔ text = name := by
  have hall : ∀ name ∈ ecmaScript.names, name.toList.all Char.isAlpha = true ∧
      name.toList ≠ [] ∧ name.toList.length ≤ 1000 := by
    decide +kernel
  obtain ⟨hword, hne, hlength⟩ := hall name hname
  exact Pattern.ofSource?_exact (List.all_eq_true.mp hword) hne hlength

/-! ### Tagged entries -/

/-- What conforms to a schema that asks for a type has no other. -/
lemma type_eq_of_asksForType {child : Json} (hasks : AsksForType name s)
    (h : r.ConformsWithin depth s v) (htype : v.field? "type" = some child) :
    child = .string name := by
  obtain ⟨properties, required, hconjunct, hmem⟩ := hasks
  cases h.of_hasConjunct hconjunct with
  | object _ _ _ hfields => exact conforms_exactly_iff.mp (hfields "type" _ child hmem htype)

/-- What conforms for a tagged entry is a node of that type. -/
lemma type_of_conforms (hname : name ∈ ecmaScript.names) (habstract : name ∉ abstract)
    (hloose : name ∉ loose) (h : ecmaScript.ConformsWithin depth (.ref name) v) :
    v.form = .object ∧ v.field? "type" = some (.string name) := by
  -- by way of `Node` there is some type, and the entry itself says which one
  have hnode : name ∉ auxiliary := fun hmem => habstract (List.mem_append_right _ hmem)
  obtain ⟨hform, tag, htype⟩ :=
    node_of_conforms (h.ref_of_reflTransGen (extends_node hname hnode))
  obtain _ | ⟨hlookup, hentry⟩ := h
  rcases abstract_or_loose_or_tagged _ (Entries.get?_mem hlookup) with hmem | hmem | hasks
  · exact absurd hmem habstract
  · exact absurd hmem hloose
  · rw [htype, type_eq_of_asksForType hasks hentry htype]
    exact ⟨hform, rfl⟩

/-- **What matches a tagged entry is an object whose `type` is the name of the entry,** and it
matches no other tagged entry at any depth. -/
theorem type_of_test (hname : name ∈ ecmaScript.names) (habstract : name ∉ abstract)
    (hloose : name ∉ loose) (htest : ecmaScript.test depth v (.name name) = .ok true) :
    (v.form = .object ∧ v.field? "type" = some (.string name)) ∧
      ∀ other ∈ ecmaScript.names, other ∉ abstract → other ∉ loose →
        ∀ depth', ecmaScript.test depth' v (.name other) = .ok true → other = name := by
  have hconforms := test_name_iff_conformsWithin.mp htest
  have htag := type_of_conforms hname habstract hloose hconforms
  refine ⟨htag, fun other hother habstract' hloose' depth' htest' => ?_⟩
  have hconforms' := test_name_iff_conformsWithin.mp htest'
  have htag' := type_of_conforms hother habstract' hloose' hconforms'
  -- one value has one type
  simpa using htag'.2.symm.trans htag.2

/-- An identifier matches no other tagged entry. -/
theorem type_of_identifier :
    ("Identifier" ∈ ecmaScript.names ∧ "Identifier" ∉ abstract ∧ "Identifier" ∉ loose ∧
      ecmaScript.test 1 identifier (.name "Identifier") = .ok true) ∧
    (identifier.form = .object ∧ identifier.field? "type" = some (.string "Identifier")) ∧
      ∀ other ∈ ecmaScript.names, other ∉ abstract → other ∉ loose →
        ∀ depth', ecmaScript.test depth' identifier (.name other) = .ok true →
          other = "Identifier" := by
  have hname : "Identifier" ∈ ecmaScript.names := by decide
  have habstract : "Identifier" ∉ abstract := by decide
  have hloose : "Identifier" ∉ loose := by decide
  exact ⟨⟨hname, habstract, hloose, test_identifier⟩,
    type_of_test hname habstract hloose test_identifier⟩

/-! ### Loose entries -/

/-- The number zero in a program. -/
def zero : Json := .object [("type", .string "Literal"), ("value", .number (.integer 0))]

/-- An identifier that has the fields of the nodes of all loose entries besides its own. -/
def lookalike : Json :=
  .object [("type", .string "Identifier"), ("name", .string "a"), ("argument", .null),
    ("body", zero), ("blocks", .array []), ("filter", .null), ("index", .number (.integer 0)),
    ("expression", zero), ("left", zero), ("right", zero), ("each", .bool true)]

/-- What the fields of the lookalike conform to. -/
def lookalikeFields : List (String × Schema) :=
  [("argument", optional (a "Expression")), ("body", a "Expression"),
    ("blocks", listOf (a "ComprehensionBlock")), ("filter", optional (a "Expression")),
    ("index", integer), ("expression", a "Literal"), ("expression", a "Expression"),
    ("left", a "Pattern"), ("right", a "Expression"), ("each", boolean)]

lemma conforms_optional_null : r.ConformsWithin depth (optional s) .null :=
  .anyOf (List.mem_cons_of_mem _ List.mem_cons_self) (.leaf rfl)

lemma conforms_listOf_nil : r.ConformsWithin depth (listOf s) (.array []) :=
  .array rfl rfl nofun nofun

lemma conforms_zero : ecmaScript.ConformsWithin 1 (.ref "Literal") zero := by
  have hnode : ecmaScript.ConformsWithin 1 (.ref "Node") zero := conforms_node rfl rfl rfl
  refine .ref rfl (.allOf (List.forall_mem_cons.mpr ⟨hnode, ?_⟩))
  refine List.forall_mem_cons.mpr ⟨conforms_expression hnode, List.forall_mem_singleton.mpr ?_⟩
  refine conforms_object rfl (by decide) (List.forall_mem_cons.mpr ⟨?_, ?_⟩)
  · exact ⟨_, rfl, conforms_exactly_iff.mpr rfl⟩
  · have hnumber : ecmaScript.ConformsWithin 0 number (.number (.integer 0)) := .leaf rfl
    exact List.forall_mem_singleton.mpr ⟨_, rfl, .anyOf (by simp) hnumber⟩

lemma conforms_lookalikeFields : ∀ field ∈ lookalikeFields, ∃ child,
    lookalike.field? field.1 = some child ∧ ecmaScript.ConformsWithin 1 field.2 child := by
  have hnode : ecmaScript.ConformsWithin 1 (.ref "Node") zero := conforms_node rfl rfl rfl
  have hexpression := conforms_expression hnode
  have hpattern := conforms_pattern hnode
  rw [lookalikeFields]
  simp only [List.forall_mem_cons]
  exact ⟨⟨_, rfl, conforms_optional_null⟩, ⟨_, rfl, hexpression⟩, ⟨_, rfl, conforms_listOf_nil⟩,
    ⟨_, rfl, conforms_optional_null⟩, ⟨_, rfl, .leaf rfl⟩, ⟨_, rfl, conforms_zero⟩,
    ⟨_, rfl, hexpression⟩, ⟨_, rfl, hpattern⟩, ⟨_, rfl, hexpression⟩, ⟨_, rfl, .leaf rfl⟩, nofun⟩

/-- The lookalike matches an entry for the nodes of a family that have some of its fields. -/
lemma conforms_lookalike {entry : SchemaEntry} {family : String} {fields : List (String × Schema)}
    {required : List String} (hlookup : ecmaScript.lookup? name = some entry)
    (hschema : entry.schema = .allOf [.ref family, .object fields required])
    (hfamily : family ∈ ["Node", "Expression", "XML"]) (hrequired : required ⊆ fields.map Prod.fst)
    (hfields : fields ⊆ lookalikeFields) : ecmaScript.ConformsWithin 2 (.ref name) lookalike := by
  have hnode : ecmaScript.ConformsWithin 2 (.ref "Node") lookalike := conforms_node rfl rfl rfl
  have hparent : ecmaScript.ConformsWithin 2 (.ref family) lookalike := by
    simp only [List.mem_cons, List.not_mem_nil, or_false] at hfamily
    obtain rfl | rfl | rfl := hfamily
    · exact hnode
    · exact conforms_expression hnode
    · exact .ref rfl hnode
  refine .ref hlookup ?_
  rw [hschema]
  refine .allOf (List.forall_mem_cons.mpr ⟨hparent, List.forall_mem_singleton.mpr ?_⟩)
  exact conforms_object rfl hrequired fun field hmem =>
    conforms_lookalikeFields field (hfields hmem)

/-- One identifier matches every loose entry. -/
lemma test_lookalike (hname : name ∈ loose) :
    ecmaScript.test 2 lookalike (.name name) = .ok true := by
  rw [test_name_iff_conformsWithin]
  simp only [loose, List.mem_cons, List.not_mem_nil, or_false] at hname
  obtain rfl | rfl | rfl | rfl | rfl | rfl | rfl := hname
  all_goals
    exact conforms_lookalike rfl rfl (by simp) (by simp) (by simp [lookalikeFields])

/-- The `type` does not tell the entries for single sorts of nodes apart: there is an identifier
that matches all loose entries too. -/
theorem type_not_decisive :
    ¬ ∀ depth v, ∀ name ∈ ecmaScript.names, name ∉ abstract →
      ecmaScript.test depth v (.name name) = .ok true →
        v.form = .object ∧ v.field? "type" = some (.string name) := by
  intro h
  have hloose : "YieldExpression" ∈ loose := by decide
  have htest := test_lookalike hloose
  obtain ⟨-, htype⟩ := h 2 lookalike "YieldExpression" (by decide) (by decide) htest
  have hidentifier : lookalike.field? "type" = some (.string "Identifier") := rfl
  simp [hidentifier] at htype

end EcmaScript

end TreeSchema
