/-
The values that match the entries for nodes are nodes.

The catalog of ECMAScript syntax trees says what a node is in its entry `Node`, and the traversal
of documents has a notion of its own: an object with a text in its field `type`.  All other entries
extend `Node` in some number of steps, apart from those for places in a text and for operators
(`extends_node`).  Hence whatever matches one of them matches `Node`, and by the schema of `Node` it
is a node for the traversal as well.  A document that matches is then among its own nodes, and so it
is counted (`test_node_of_test`).
-/
import TreeSchema.EcmaScript
import TreeSchema.Proofs.Pattern
import TreeSchema.Proofs.Query.Ancestry
import TreeSchema.Proofs.Results
import TreeSchema.Proofs.Schema.Constraint

namespace TreeSchema

open Relation

/-! ### Documents that are nodes -/

namespace Json

lemma isNode_iff {v : Json} : v.isNode = true ↔ ∃ tag, v.field? "type" = some (.string tag) := by
  unfold isNode typeTag?
  cases v.field? "type" with
  | none => simp
  | some child => cases child <;> simp [string?]

/-- A document that is a node comes first among its nodes. -/
lemma head?_nodes {v : Json} (h : v.isNode = true) : v.nodes.head? = some ([], v) := by
  have hbranch : v.branch = [([], v)] := if_pos h
  rw [nodes, pushAll_reverse, hbranch, List.append_nil, walk]
  rfl

end Json

namespace Registry

variable {r : Registry} {name : String} {depth : Nat} {v : Json} {q : Query}

/-- A document that is a node and matches is counted. -/
lemma one_le_count_of_test (hnode : v.isNode = true) (h : r.test depth v q = .ok true) :
    ∃ n, r.count depth v q = .ok n ∧ 1 ≤ n := by
  obtain ⟨s, hs, haccepts⟩ := map_eq_ok_iff.mp h
  refine ⟨_, map_eq_ok_iff.mpr ⟨s, hs, rfl⟩, ?_⟩
  rw [Nat.one_le_iff_ne_zero, ← Nat.pos_iff_ne_zero, List.countP_pos_iff]
  exact ⟨([], v), List.mem_of_mem_head? (Json.head?_nodes hnode), haccepts⟩

end Registry

namespace EcmaScript

open Registry (ecmaScript test_name_iff_conformsWithin)

variable {r : Registry} {name tag : String} {depth : Nat} {v : Json}

/-! ### Texts in fields -/

lemma conforms_leaf_iff {c : Constraint} :
    r.ConformsWithin depth (.leaf c) v ↔ c.admits v = true := by
  constructor
  · rintro (_ | _ | hadmits)
    exact hadmits
  · exact .leaf

lemma conforms_text_iff : r.ConformsWithin depth text v ↔ ∃ word, v = .string word := by
  rw [text, Schema.ofKind, conforms_leaf_iff]
  cases v <;> simp [Constraint.ofKind, Constraint.admits, Kind.admits, Json.form]

/-- Only the text itself is exactly a given text. -/
lemma conforms_exactly_iff {word : String} :
    r.ConformsWithin depth (exactly word) v ↔ v = .string word := by
  rw [exactly, conforms_leaf_iff]
  cases v <;> simp [Constraint.admits, Kind.admits, Json.form, Json.string?,
    Pattern.admits_exact_iff]

/-- An object conforms that has all the fields described, with values that conform. -/
lemma conforms_object {fields : List (String × Schema)} {required : List String}
    (hform : v.form = .object) (hrequired : required ⊆ fields.map Prod.fst)
    (hfields : ∀ field ∈ fields, ∃ child, v.field? field.1 = some child ∧
      r.ConformsWithin depth field.2 child) :
    r.ConformsWithin (depth + 1) (.object fields required) v := by
  refine .object hform (fun name hname => ?_) (fun _ _ _ _ _ => depth.succ_pos) ?_
  · obtain ⟨field, hmem, rfl⟩ := List.mem_map.mp (hrequired hname)
    obtain ⟨child, hchild, -⟩ := hfields field hmem
    rw [hchild]
    rfl
  · intro name sub child hmem hfield
    obtain ⟨child', hchild', hconforms⟩ := hfields _ hmem
    cases hfield.symm.trans hchild'
    exact hconforms

/-! ### The entry for nodes -/

/-- The entries that are not for nodes. -/
def auxiliary : List String :=
  ["SourceLocation", "Position", "UnaryOperator", "BinaryOperator", "LogicalOperator",
    "AssignmentOperator", "UpdateOperator"]

/-- What conforms to the entry for nodes is an object with a text in its field `type`. -/
lemma node_of_conforms (h : ecmaScript.ConformsWithin depth (.ref "Node") v) :
    v.form = .object ∧ ∃ tag, v.field? "type" = some (.string tag) := by
  obtain _ | ⟨hlookup, hentry⟩ := h
  cases hlookup
  obtain _ | _ | _ | ⟨hform, hrequired, -, hfields⟩ := hentry
  obtain ⟨child, hchild⟩ := Option.isSome_iff_exists.mp (hrequired "type" List.mem_cons_self)
  obtain ⟨tag, rfl⟩ := conforms_text_iff.mp (hfields "type" _ child List.mem_cons_self hchild)
  exact ⟨hform, tag, hchild⟩

/-- An object with a text in its field `type` conforms to the entry for nodes if it does not say
where it stands. -/
lemma conforms_node (hform : v.form = .object) (htype : v.field? "type" = some (.string tag))
    (hloc : v.field? "loc" = none) : ecmaScript.ConformsWithin (depth + 1) (.ref "Node") v := by
  refine .ref rfl (.object hform ?_ (fun _ _ _ _ _ => depth.succ_pos) ?_)
  · exact List.forall_mem_singleton.mpr (by rw [htype]; rfl)
  · intro name sub child hmem hfield
    rcases List.mem_cons.mp hmem with heq | hmem
    · obtain ⟨rfl, rfl⟩ := Prod.mk.inj heq
      exact conforms_text_iff.mpr ⟨tag, Option.some.inj (hfield.symm.trans htype)⟩
    · obtain ⟨rfl, -⟩ := Prod.mk.inj (List.mem_singleton.mp hmem)
      simp [hloc] at hfield

/-- Patterns and expressions are just nodes. -/
lemma conforms_pattern (hnode : ecmaScript.ConformsWithin depth (.ref "Node") v) :
    ecmaScript.ConformsWithin depth (.ref "Pattern") v :=
  .ref rfl hnode

lemma conforms_expression (hnode : ecmaScript.ConformsWithin depth (.ref "Node") v) :
    ecmaScript.ConformsWithin depth (.ref "Expression") v := by
  refine .ref rfl (.allOf (List.forall_mem_cons.mpr ⟨hnode, ?_⟩))
  exact List.forall_mem_singleton.mpr (conforms_pattern hnode)

/-- All entries for nodes extend `Node`, in no more than four steps. -/
lemma extends_node (hname : name ∈ ecmaScript.names) (hnode : name ∉ auxiliary) :
    ReflTransGen ecmaScript.Extends name "Node" := by
  have hall : ∀ name ∈ ecmaScript.names, name ∉ auxiliary →
      ecmaScript.ascends 4 name "Node" = true := by
    decide +kernel
  exact Registry.reflTransGen_of_ascends (hall name hname hnode)

/-- **What matches an entry for nodes is a node.**  It matches `Node` too, it is a node for the
traversal of documents and the first one that this comes to, and so it is counted. -/
theorem test_node_of_test (hname : name ∈ ecmaScript.names) (hnode : name ∉ auxiliary)
    (htest : ecmaScript.test depth v (.name name) = .ok true) :
    ecmaScript.test depth v (.name "Node") = .ok true ∧ v.form = .object ∧
      (∃ tag, v.field? "type" = some (.string tag)) ∧ v.isNode = true ∧
      v.nodes.head? = some ([], v) ∧
      ∃ n, ecmaScript.count depth v (.name name) = .ok n ∧ 1 ≤ n := by
  have hconforms := test_name_iff_conformsWithin.mp htest
  have hparent := hconforms.ref_of_reflTransGen (extends_node hname hnode)
  obtain ⟨hform, htype⟩ := node_of_conforms hparent
  have hisNode := Json.isNode_iff.mpr htype
  refine ⟨?_, hform, htype, hisNode, Json.head?_nodes hisNode,
    Registry.one_le_count_of_test hisNode htest⟩
  exact test_name_iff_conformsWithin.mpr hparent

/-- A node of type `Identifier` with a text as its name is an identifier. -/
lemma conforms_identifier {word : String} (hform : v.form = .object)
    (htype : v.field? "type" = some (.string "Identifier")) (hloc : v.field? "loc" = none)
    (hword : v.field? "name" = some (.string word)) :
    ecmaScript.ConformsWithin (depth + 1) (.ref "Identifier") v := by
  have hnode : ecmaScript.ConformsWithin (depth + 1) (.ref "Node") v :=
    conforms_node hform htype hloc
  refine .ref rfl (.allOf (List.forall_mem_cons.mpr ⟨hnode, ?_⟩))
  refine List.forall_mem_cons.mpr ⟨conforms_expression hnode, ?_⟩
  refine List.forall_mem_cons.mpr ⟨conforms_pattern hnode, List.forall_mem_singleton.mpr ?_⟩
  refine conforms_object hform (by decide) (List.forall_mem_cons.mpr ⟨?_, ?_⟩)
  · exact ⟨_, htype, conforms_exactly_iff.mpr rfl⟩
  · exact List.forall_mem_singleton.mpr ⟨_, hword, conforms_text_iff.mpr ⟨word, rfl⟩⟩

/-- An identifier. -/
def identifier : Json := .object [("type", .string "Identifier"), ("name", .string "a")]

lemma test_identifier : ecmaScript.test 1 identifier (.name "Identifier") = .ok true :=
  test_name_iff_conformsWithin.mpr (conforms_identifier rfl rfl rfl rfl)

/-- An identifier is a node by itself, as an expression and as a pattern. -/
theorem test_node_identifier :
    ("Identifier" ∈ ecmaScript.names ∧ "Identifier" ∉ auxiliary ∧
      ecmaScript.test 1 identifier (.name "Identifier") = .ok true) ∧
    ecmaScript.test 1 identifier (.name "Node") = .ok true ∧ identifier.form = .object ∧
      (∃ tag, identifier.field? "type" = some (.string tag)) ∧ identifier.isNode = true ∧
      identifier.nodes.head? = some ([], identifier) ∧
      ∃ n, ecmaScript.count 1 identifier (.name "Identifier") = .ok n ∧ 1 ≤ n := by
  have hname : "Identifier" ∈ ecmaScript.names := by decide
  have hnode : "Identifier" ∉ auxiliary := by decide
  exact ⟨⟨hname, hnode, test_identifier⟩, test_node_of_test hname hnode test_identifier⟩

end EcmaScript

end TreeSchema
