/-
Queries by name.

A query can name a schema in four ways: by the name, by a bare reference to it, by a JSON text
and by a JSON definition that is nothing but a reference.  All of them follow the name
through its aliases before anything is matched.  A reference inside a schema is followed while
matching is under way, with the name opened, and does not complain about names that lead
nowhere.  The two ways to treat a name agree as far as they can (`test_references_agree`).
-/
import TreeSchema.Proofs.Matching.Openings
import TreeSchema.Query

namespace TreeSchema

namespace Registry

variable {r : Registry} {name other : String}

/-! ### The four ways to name a schema -/

lemma prepare_reference (r : Registry) (name : String) :
    r.prepare (.schema (.ref name)) = r.prepare (.name name) := rfl

lemma prepare_text (r : Registry) (name : String) :
    r.prepare (.json (.string name)) = r.prepare (.name name) := rfl

/-- A definition with a reference and nothing else defines that bare reference: the schemas for
its other keywords ask for nothing, and the intersection leaves them out. -/
lemma prepare_definition (r : Registry) (name : String) :
    r.prepare (.json (.object [("$ref", .string name)])) = r.prepare (.name name) := rfl

/-! ### Queries and references -/

/-- A name and each alias on the way to its schema are matched alike. -/
lemma accepts_ref_of_leadsTo (depth : Nat) (v : Json) {entry : SchemaEntry}
    (hresolve : r.resolve name = .ok entry) (hleads : r.LeadsTo name other) :
    r.accepts depth (.ref other) v = r.accepts depth entry.schema v :=
  accepts_ref_of_resolve_ok depth v ((resolve_eq_ok_iff_of_leadsTo hleads).mp hresolve)

lemma test_name_of_resolve_ok (depth : Nat) (v : Json) {entry : SchemaEntry}
    (hresolve : r.resolve name = .ok entry) :
    r.test depth v (.name name) = .ok (r.accepts depth entry.schema v) := by
  simp [test, prepare, schemaOfName, hresolve, Except.map]

lemma test_name_of_resolve_error (depth : Nat) (v : Json) {why : ResolveError}
    (hresolve : r.resolve name = .error why) :
    r.test depth v (.name name) = .error (.unresolved why) := by
  simp [test, prepare, schemaOfName, hresolve, Except.map]

/-- **All ways to name a schema agree.**  The four queries give the same answer or fail in the
same way.  An answer is the one that matching gives for a reference to the name, and for a
reference to each of the names on the way from it to its schema.  Where the queries fail,
the reference matches nothing. -/
theorem test_references_agree (r : Registry) (depth : Nat) (v : Json) (name : String) :
    r.test depth v (.schema (.ref name)) = r.test depth v (.name name) ∧
      r.test depth v (.json (.string name)) = r.test depth v (.name name) ∧
      r.test depth v (.json (.object [("$ref", .string name)])) = r.test depth v (.name name) ∧
      (∀ answer, r.test depth v (.name name) = .ok answer →
        answer = r.accepts depth (.ref name) v ∧
          ∀ other, r.LeadsTo name other → answer = r.accepts depth (.ref other) v) ∧
      ∀ why, r.test depth v (.name name) = .error why →
        r.accepts depth (.ref name) v = false := by
  refine ⟨?_, ?_, ?_, ?_⟩
  · rw [test, prepare_reference, ← test]
  · rw [test, prepare_text, ← test]
  · rw [test, prepare_definition, ← test]
  cases hresolve : r.resolve name with
  | ok entry =>
    rw [test_name_of_resolve_ok depth v hresolve]
    refine ⟨?_, by simp⟩
    rintro _ ⟨⟩
    refine ⟨(accepts_ref_of_resolve_ok depth v hresolve).symm, fun other hleads => ?_⟩
    exact (accepts_ref_of_leadsTo depth v hresolve hleads).symm
  | error why =>
    rw [test_name_of_resolve_error depth v hresolve]
    exact ⟨by simp, fun _ _ => accepts_ref_of_resolve_error depth v hresolve⟩

/-- Statements are nodes, and nodes are objects. -/
def statements : Registry where
  entries := [("Node", { schema := .ofKind .object }), ("Statement", { schema := .ref "Node" })]

/-- An object is a statement, and so it matches the name that `Statement` is an alias of. -/
theorem statements_test_object :
    statements.test 1 (.object []) (.json (.object [("$ref", .string "Statement")])) = .ok true ∧
      statements.accepts 1 (.ref "Node") (.object []) = true := by
  have hstep : statements.AliasStep "Statement" "Node" := ⟨_, rfl, rfl⟩
  have hresolve : statements.resolve "Statement" = .ok { schema := .ofKind .object } :=
    resolve_eq_ok_iff.mpr ⟨"Node", .single hstep, rfl, rfl⟩
  have hname : statements.test 1 (.object []) (.name "Statement") = .ok true := by
    rw [test_name_of_resolve_ok 1 (.object []) hresolve, accepts, Schema.ofKind,
      matchesWithin_leaf]
    rfl
  obtain ⟨-, -, hjson, hanswer, -⟩ := test_references_agree statements 1 (.object []) "Statement"
  exact ⟨hjson.trans hname, ((hanswer true hname).2 "Node" (.single hstep)).symm⟩

end Registry

end TreeSchema
