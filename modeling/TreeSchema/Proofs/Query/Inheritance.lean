/-
Inheritance.

Catalogs of syntax trees say that one sort of node is a case of another by means of references: the
schema of the one is a bare reference to the other, or an intersection with that reference among
its parts.  Such intersections may be nested, so the reference may be a part of a part.  Where the
schema of a name has the reference as a conjunct in this sense, the name *extends* the one
referred to.

Extending is a graph on the names of a registry.  Names may extend several others, be aliases on
the way, and lie on circles.  The main results are

* `test_of_extends`: what is found to match a name is also found to match every name that it
  extends in one or more steps.  In particular the query for that name is no error.
* `accepts_ref_of_extends_self`: a name on a circle of names that extend each other matches
  nothing.  So a circle adds no case to the first result in which there is a match at all.
-/
import TreeSchema.Proofs.Matching.Conformance
import TreeSchema.Proofs.Query.References
import TreeSchema.Proofs.Registry.Reach

namespace TreeSchema

open Relation

/-- The second schema is the first one, or a conjunct of a part of the intersection that the first
one is. -/
inductive Schema.HasConjunct : Schema → Schema → Prop where
  | self {s : Schema} : HasConjunct s s
  | part {parts : List Schema} {part s : Schema} (hmem : part ∈ parts)
      (hpart : HasConjunct part s) : HasConjunct (.allOf parts) s

namespace Registry

/-- The schema under the first name has a reference to the second name as a conjunct. -/
def Extends (r : Registry) (name parent : String) : Prop :=
  ∃ s, r.schema? name = some s ∧ s.HasConjunct (.ref parent)

variable {r : Registry} {name parent : String} {depth : Nat} {s part : Schema} {v : Json}

/-! ### One step -/

/-- What conforms to a schema conforms to all conjuncts of it. -/
lemma ConformsWithin.of_hasConjunct (hconjunct : s.HasConjunct part)
    (h : r.ConformsWithin depth s v) : r.ConformsWithin depth part v := by
  induction hconjunct with
  | self => exact h
  | part hmem _ ih =>
    cases h with
    | allOf hparts => exact ih (hparts _ hmem)

/-- What conforms for a name conforms for each name that it extends. -/
lemma ConformsWithin.ref_of_extends (hextends : r.Extends name parent)
    (h : r.ConformsWithin depth (.ref name) v) : r.ConformsWithin depth (.ref parent) v := by
  obtain ⟨s, hs, hconjunct⟩ := hextends
  cases h with
  | ref hlookup hentry =>
    have hfound := schema?_of_lookup hlookup
    obtain rfl : s = _ := Option.some.inj (hs.symm.trans hfound)
    exact hentry.of_hasConjunct hconjunct

/-! ### Queries by name -/

/-- A query by name is answered by yes if and only if a reference to the name is matched. -/
lemma test_name_eq_ok_true_iff :
    r.test depth v (.name name) = .ok true ↔ r.accepts depth (.ref name) v = true := by
  cases hresolve : r.resolve name with
  | ok entry =>
    rw [test_name_of_resolve_ok depth v hresolve, accepts_ref_of_resolve_ok depth v hresolve]
    simp
  | error why =>
    rw [test_name_of_resolve_error depth v hresolve, accepts_ref_of_resolve_error depth v hresolve]
    simp

/-- So the answer is yes if and only if the document conforms to what the name stands for. -/
lemma test_name_iff_conformsWithin :
    r.test depth v (.name name) = .ok true ↔ r.ConformsWithin depth (.ref name) v :=
  test_name_eq_ok_true_iff.trans accepts_iff_conformsWithin

/-- **What matches a name matches all that the name extends.**  Extending may take any number of
steps, by way of aliases and on different ways to the same name, and may come by a name again. -/
theorem test_of_extends (h : TransGen r.Extends name parent)
    (hname : r.test depth v (.name name) = .ok true) :
    r.test depth v (.name parent) = .ok true := by
  rw [test_name_eq_ok_true_iff, accepts_iff_conformsWithin] at hname ⊢
  induction h with
  | single hstep => exact hname.ref_of_extends hstep
  | tail _ hstep ih => exact ih.ref_of_extends hstep

/-- Loops and what has a label are statements, and a labelled loop is both.  Wheels have spokes, and
spokes are wheels with a rim. -/
def lattice : Registry where
  entries := [
    ("Node", { schema := .object [] ["type"] }),
    ("Statement", { schema := .ref "Node" }),
    ("Loop", { schema := .allOf [.ref "Statement", .object [] ["body"]] }),
    ("Labelled", { schema := .allOf [.object [] ["label"], .allOf [.ref "Statement"]] }),
    ("LabelledLoop", { schema := .allOf [.allOf [.any, .ref "Labelled"], .ref "Loop"] }),
    ("Wheel", { schema := .allOf [.ref "Spoke", .ref "Node"] }),
    ("Spoke", { schema := .allOf [.ref "Wheel", .object [] ["rim"]] })]

/-- A loop with a label. -/
def labelledLoop : Json :=
  .object [("type", .string "LabelledLoop"), ("label", .string "outer"), ("body", .array [])]

/-- A labelled loop is a node because it has a label, whatever loops are. -/
theorem lattice_test_labelledLoop :
    TransGen lattice.Extends "LabelledLoop" "Node" ∧
      lattice.test 0 labelledLoop (.name "LabelledLoop") = .ok true ∧
      lattice.test 0 labelledLoop (.name "Node") = .ok true := by
  have hlabelled : lattice.Extends "LabelledLoop" "Labelled" :=
    ⟨_, rfl, .part List.mem_cons_self (.part (List.mem_cons_of_mem _ List.mem_cons_self) .self)⟩
  have hstatement : lattice.Extends "Labelled" "Statement" :=
    ⟨_, rfl, .part (List.mem_cons_of_mem _ List.mem_cons_self) (.part List.mem_cons_self .self)⟩
  have hnode : lattice.Extends "Statement" "Node" := ⟨_, rfl, .self⟩
  have hextends : TransGen lattice.Extends "LabelledLoop" "Node" :=
    ((TransGen.single hlabelled).tail hstatement).tail hnode
  have hobject : ∀ required, (∀ name ∈ required, (labelledLoop.field? name).isSome) →
      lattice.ConformsWithin 0 (.object [] required) labelledLoop :=
    fun _ hrequired => .object rfl hrequired nofun nofun
  have hstatement' : lattice.ConformsWithin 0 (.ref "Statement") labelledLoop :=
    .ref rfl (.ref rfl (hobject ["type"] (by decide)))
  have htest : lattice.test 0 labelledLoop (.name "LabelledLoop") = .ok true := by
    rw [test_name_eq_ok_true_iff, accepts_iff_conformsWithin]
    refine .ref rfl (.allOf (List.forall_mem_cons.mpr ⟨?_, List.forall_mem_singleton.mpr ?_⟩))
    · refine .allOf (List.forall_mem_cons.mpr ⟨.any, List.forall_mem_singleton.mpr (.ref rfl ?_)⟩)
      refine .allOf (List.forall_mem_cons.mpr ⟨hobject ["label"] (by decide), ?_⟩)
      exact List.forall_mem_singleton.mpr (.allOf (List.forall_mem_singleton.mpr hstatement'))
    · refine .ref rfl (.allOf (List.forall_mem_cons.mpr ⟨hstatement', ?_⟩))
      exact List.forall_mem_singleton.mpr (hobject ["body"] (by decide))
  exact ⟨hextends, htest, test_of_extends hextends htest⟩

/-! ### Circles -/

/-- No derivation goes by a name that extends itself: it would contain a derivation for the next
name on the circle, and so on for ever. -/
lemma ConformsWithin.not_extends_self (h : r.ConformsWithin depth s v)
    (hconjunct : s.HasConjunct (.ref name)) : ¬ TransGen r.Extends name name := by
  induction h generalizing name with
  | @ref _ other entry _ hlookup _ ih =>
    intro hround
    cases hconjunct with
    | self =>
      obtain ⟨next, ⟨found, hfound, hnext⟩, hback⟩ := TransGen.head'_iff.mp hround
      have hsame : found = entry.schema :=
        Option.some.inj (hfound.symm.trans (schema?_of_lookup hlookup))
      -- the circle can be entered at the next name just as well
      have hstep : r.Extends other next := ⟨found, hfound, hnext⟩
      exact ih (hsame ▸ hnext) (TransGen.tail' hback hstep)
  | allOf _ ih =>
    cases hconjunct with
    | part hmem hpart => exact ih _ hmem hpart
  | _ => cases hconjunct

/-- **A name that extends itself matches nothing.** -/
theorem accepts_ref_of_extends_self (hround : TransGen r.Extends name name) (depth : Nat)
    (v : Json) : r.accepts depth (.ref name) v = false := by
  rw [Bool.eq_false_iff, Ne, accepts_iff_conformsWithin]
  intro h
  exact h.not_extends_self .self hround

/-- Wheels and spokes extend each other, so nothing is a wheel. -/
example : lattice.accepts 512 (.ref "Wheel") labelledLoop = false := by
  have hspoke : lattice.Extends "Wheel" "Spoke" := ⟨_, rfl, .part List.mem_cons_self .self⟩
  have hwheel : lattice.Extends "Spoke" "Wheel" := ⟨_, rfl, .part List.mem_cons_self .self⟩
  exact accepts_ref_of_extends_self ((TransGen.single hspoke).tail hwheel) 512 labelledLoop

end Registry

end TreeSchema
