/-
Matching cannot tell alike values apart.

A schema looks at a value in several ways: at its form and kind, at a text or number, at the
literals that it equals, at its fields by name and at its elements in order.  Alike values look
the same in each of these ways, and what is looked at next, a field or an element, is again alike.
This is a simulation, on which no schema imposes a condition.  So alike values conform to the same
schemas (`ConformsWithin.of_alike`), whatever names stand for.
-/
import TreeSchema.Proofs.Json.Alike
import TreeSchema.Proofs.Matching.Simulation
import TreeSchema.Proofs.Schema.Constraint

namespace TreeSchema

open Json (Alike)

variable {v w : Json}

namespace Constraint

variable {c : Constraint}

lemma patternHolds_of_alike {pattern : Option Pattern} (h : Alike v w)
    (hv : PatternHolds pattern v) : PatternHolds pattern w := by
  intro p hp
  obtain ⟨text, rfl, htext⟩ := hv p hp
  cases h with
  | string _ => exact ⟨text, rfl, htext⟩

lemma choicesHold_of_alike {choices : Option (List Json)} (h : Alike v w)
    (hv : ChoicesHold choices v) : ChoicesHold choices w := by
  intro literals hliterals
  obtain ⟨literal, hmem, hequals⟩ := hv literals hliterals
  exact ⟨literal, hmem, h.equalsLiteral hequals⟩

lemma minimumHolds_of_alike {minimum : Option Binary64} (h : Alike v w)
    (hv : MinimumHolds minimum v) : MinimumHolds minimum w := by
  intro bound hbound
  obtain ⟨n, rfl, hn⟩ := hv bound hbound
  cases h with
  | @number _ m hsize _ => exact ⟨m, rfl, by rwa [Binary64.precedes, hsize] at hn⟩

lemma maximumHolds_of_alike {maximum : Option Binary64} (h : Alike v w)
    (hv : MaximumHolds maximum v) : MaximumHolds maximum w := by
  intro bound hbound
  obtain ⟨n, rfl, hn⟩ := hv bound hbound
  cases h with
  | @number _ m hsize _ => exact ⟨m, rfl, by rwa [Binary64.precedes, hsize] at hn⟩

/-- Alike values meet the same constraints. -/
lemma admits_of_alike (h : Alike v w) (hv : c.admits v = true) : c.admits w = true := by
  obtain ⟨hkind, hpattern, hchoices, hminimum, hmaximum⟩ := admits_iff.mp hv
  refine admits_iff.mpr ⟨fun kind hk => ?_, patternHolds_of_alike h hpattern,
    choicesHold_of_alike h hchoices, minimumHolds_of_alike h hminimum,
    maximumHolds_of_alike h hmaximum⟩
  rw [← kind.admits_eq_of_form_eq h.form_eq h.isIntegral_eq]
  exact hkind kind hk

end Constraint

namespace Registry

variable {r : Registry} {depth : Nat} {s : Schema}

/-- To every schema, the second of two alike values looks like the first one. -/
lemma simulation_alike : Simulation (fun _ => True) Alike where
  form := fun h => h.form_eq
  leaf := fun _ h hadmits => Constraint.admits_of_alike h hadmits
  required := fun _ h name _ hsome => by rwa [← h.isSome_field?_eq]
  field := fun _ h _ _ _ _ hchild => h.field hchild
  length := fun h => h.length_elements_eq
  element := fun h hchild => h.element hchild

/-- Alike values conform to the same schemas, within the same depth. -/
lemma ConformsWithin.of_alike (h : Alike v w) (hv : r.ConformsWithin depth s v) :
    r.ConformsWithin depth s w := by
  have hall : r.Throughout (fun _ => True) s := ⟨fun _ _ => trivial, fun _ _ _ _ _ => trivial⟩
  exact hv.simulate simulation_alike hall h

/-- **Matching cannot tell apart what an enumeration identifies.**  If one value equals another as
a literal, every schema accepts both of them or neither.  Integers fit into sixty-four bits, and
the fields of an object have different names, as is the case for all that texts are read as
(`Json.bounded_of_ofTextBeginning`, `Json.keyed_of_ofTextBeginning`). -/
theorem accepts_eq_of_equalsLiteral {a b : Json} (ha : a.Bounded) (hb : b.Bounded)
    (hkeyed : b.Keyed) (h : a.equalsLiteral b = true) (r : Registry) (depth : Nat) (s : Schema) :
    r.accepts depth s a = r.accepts depth s b := by
  have halike := Json.alike_of_equalsLiteral hkeyed ha hb h
  rw [Bool.eq_iff_iff, accepts_iff_conformsWithin, accepts_iff_conformsWithin]
  exact ⟨fun hv => hv.of_alike halike, fun hv => hv.of_alike halike.symm⟩

/-- A receipt with a number of fifty-four bits and a zero with a sign. -/
def receipt : Json :=
  .object [("number", .number (.integer 9007199254740993)),
    ("items", .array [.number (.double ⟨0x8000000000000000⟩)])]

/-- The receipt as another program writes it. -/
def duplicate : Json :=
  .object [("items", .array [.number (.integer 0)]),
    ("number", .number (.double ⟨0x4340000000000000⟩))]

/-- The number of the duplicate is an integer too. -/
theorem receipt_equals_duplicate :
    receipt.Bounded ∧ duplicate.Bounded ∧ duplicate.Keyed ∧
      receipt.equalsLiteral duplicate = true ∧
      empty.accepts 1 (.object [("number", .ofKind .integer)] ["items"]) receipt =
        empty.accepts 1 (.object [("number", .ofKind .integer)] ["items"]) duplicate := by
  have hreceipt : receipt.Bounded := by
    refine .object (List.forall_mem_cons.mpr ⟨.number ⟨by decide, by decide⟩, ?_⟩)
    exact List.forall_mem_singleton.mpr (.array (List.forall_mem_singleton.mpr (.number trivial)))
  have hzero : Json.Bounded (.number (.integer 0)) := .number ⟨by decide, by decide⟩
  have hduplicate : duplicate.Bounded := by
    refine .object (List.forall_mem_cons.mpr ⟨.array (List.forall_mem_singleton.mpr hzero), ?_⟩)
    exact List.forall_mem_singleton.mpr (.number trivial)
  have hkeyed : duplicate.Keyed := by
    refine .object (by decide) (List.forall_mem_cons.mpr ⟨.array ?_, ?_⟩)
    · exact List.forall_mem_singleton.mpr (.number _)
    · exact List.forall_mem_singleton.mpr (.number _)
  have hequals : receipt.equalsLiteral duplicate = true := by rfl
  exact ⟨hreceipt, hduplicate, hkeyed, hequals,
    accepts_eq_of_equalsLiteral hreceipt hduplicate hkeyed hequals empty 1 _⟩

end Registry

end TreeSchema
