/-
Reading off what extends what.

Whether a name extends another one is a matter of the conjuncts of the schemas in a registry.  The
conjuncts of a schema can be listed (`Schema.allConjuncts`), and a registry can be searched
upwards from a name for a bounded number of steps (`Registry.ascends`).  What is found in this way
extends (`reflTransGen_of_ascends`), so for a given registry such facts can be computed.
-/
import TreeSchema.Proofs.Query.Inheritance

namespace TreeSchema

open Relation

namespace Schema

mutual

/-- A schema, and the conjuncts of its parts if it is an intersection. -/
def allConjuncts : Schema → List Schema
  | .allOf parts => .allOf parts :: allPartConjuncts parts
  | s => [s]

/-- The conjuncts of several schemas. -/
def allPartConjuncts : List Schema → List Schema
  | [] => []
  | part :: rest => part.allConjuncts ++ allPartConjuncts rest

end

mutual

theorem hasConjunct_of_mem {found : Schema} :
    ∀ {s : Schema}, found ∈ s.allConjuncts → s.HasConjunct found
  | .allOf parts, h => by
    rw [allConjuncts] at h
    rcases List.mem_cons.mp h with rfl | h
    · exact .self
    · obtain ⟨part, hmem, hpart⟩ := exists_hasConjunct_of_mem h
      exact .part hmem hpart
  | .any, h | .ref _, h | .leaf _, h | .object _ _, h | .array _ _ _, h | .anyOf _, h => by
    rw [allConjuncts] at h
    obtain rfl := List.mem_singleton.mp h
    exact .self
    all_goals nofun

theorem exists_hasConjunct_of_mem {found : Schema} :
    ∀ {parts : List Schema}, found ∈ allPartConjuncts parts → ∃ part ∈ parts, part.HasConjunct found
  | part :: rest, h => by
    rw [allPartConjuncts] at h
    rcases List.mem_append.mp h with h | h
    · exact ⟨part, List.mem_cons_self, hasConjunct_of_mem h⟩
    · obtain ⟨part, hmem, hpart⟩ := exists_hasConjunct_of_mem h
      exact ⟨part, List.mem_cons_of_mem _ hmem, hpart⟩

end

/-- The names that a schema has references to as conjuncts. -/
def parents (s : Schema) : List String := s.allConjuncts.filterMap alias?

end Schema

namespace Registry

variable {r : Registry} {name ancestor : String} {depth : Nat} {v : Json}

/-- Whether a name extends another one in at most a number of steps. -/
def ascends (r : Registry) : Nat → String → String → Bool
  | 0, name, ancestor => name == ancestor
  | steps + 1, name, ancestor =>
    name == ancestor || (r.schema? name).any fun s =>
      s.parents.any fun parent => r.ascends steps parent ancestor

lemma extends_of_mem_parents {s : Schema} {parent : String} (hs : r.schema? name = some s)
    (h : parent ∈ s.parents) : r.Extends name parent := by
  obtain ⟨found, hmem, hfound⟩ := List.mem_filterMap.mp h
  obtain rfl := Schema.alias?_eq_some_iff.mp hfound
  exact ⟨s, hs, Schema.hasConjunct_of_mem hmem⟩

/-- What is found going upwards is extended. -/
lemma reflTransGen_of_ascends {steps : Nat} (h : r.ascends steps name ancestor = true) :
    ReflTransGen r.Extends name ancestor := by
  induction steps generalizing name with
  | zero =>
    obtain rfl := beq_iff_eq.mp h
    exact .refl
  | succ steps ih =>
    rw [ascends, Bool.or_eq_true] at h
    rcases h with h | h
    · obtain rfl := beq_iff_eq.mp h
      exact .refl
    · obtain ⟨s, hs, h⟩ := (Option.any_eq_true _ _).mp h
      obtain ⟨parent, hparent, hascends⟩ := List.any_eq_true.mp h
      exact .head (extends_of_mem_parents hs hparent) (ih hascends)

/-- What conforms for a name conforms for all that the name extends in any number of steps. -/
lemma ConformsWithin.ref_of_reflTransGen (hextends : ReflTransGen r.Extends name ancestor)
    (h : r.ConformsWithin depth (.ref name) v) : r.ConformsWithin depth (.ref ancestor) v := by
  induction hextends with
  | refl => exact h
  | tail _ hstep ih => exact ih.ref_of_extends hstep

end Registry

end TreeSchema
