/-
Values that look alike to the schemas at hand.

To match one value instead of another it is enough that the second looks like the first wherever a
schema looks: that it has the same form, meets the constraints that the first one meets, and has
the required fields, and that its fields and elements look like those of the first one in turn.
How far this goes depends on the schemas, because a field that none of them asks for is not
looked at.

`Simulation P R` says that this is so of related values, as far as schemas with the property `P`
are concerned.  If all schemas that can come up have that property, then what conforms still does
when it is replaced by a related value (`ConformsWithin.simulate`).
-/
import TreeSchema.Proofs.Matching.Conformance
import TreeSchema.Proofs.Schema.Occurrence

namespace TreeSchema

namespace Registry

/-- To schemas with a property, the second of two related values looks like the first one. -/
structure Simulation (P : Schema → Prop) (R : Json → Json → Prop) : Prop where
  form : ∀ {v w}, R v w → v.form = w.form
  leaf : ∀ {c v w}, P (.leaf c) → R v w → c.admits v = true → c.admits w = true
  required : ∀ {properties required v w}, P (.object properties required) → R v w →
    ∀ name ∈ required, (v.field? name).isSome → (w.field? name).isSome
  field : ∀ {properties required v w}, P (.object properties required) → R v w →
    ∀ name sub child, (name, sub) ∈ properties → w.field? name = some child →
      ∃ other, v.field? name = some other ∧ R other child
  length : ∀ {v w}, R v w → v.elements.length = w.elements.length
  element : ∀ {v w child}, R v w → child ∈ w.elements → ∃ other ∈ v.elements, R other child

variable {r : Registry} {P : Schema → Prop} {R : Json → Json → Prop} {depth : Nat} {s : Schema}
  {v w : Json}

/-- **Related values conform to the same schemas**, within the same depth. -/
theorem ConformsWithin.simulate (hsim : Simulation P R) (hP : r.Throughout P s) (hR : R v w)
    (h : r.ConformsWithin depth s v) : r.ConformsWithin depth s w := by
  obtain ⟨hs, hstored⟩ := hP
  induction h generalizing w with
  | any => exact .any
  | ref hlookup _ ih => exact .ref hlookup (ih hR (hstored _ _ (schema?_of_lookup hlookup)))
  | leaf hadmits => exact .leaf (hsim.leaf hs.here hR hadmits)
  | object hform hrequired hlevel _ ih =>
    obtain ⟨hself, hproperties⟩ := Schema.everywhere_object_iff.mp hs
    -- whatever field of the second value is looked at, the first has a related one
    refine .object (hsim.form hR ▸ hform) (fun name hname => ?_)
      (fun name sub child hmem hchild => ?_) fun name sub child hmem hchild => ?_
    · exact hsim.required hself hR name hname (hrequired name hname)
    · obtain ⟨other, hother, -⟩ := hsim.field hself hR name sub child hmem hchild
      exact hlevel name sub other hmem hother
    · obtain ⟨other, hother, hrelated⟩ := hsim.field hself hR name sub child hmem hchild
      exact ih name sub other hmem hother hrelated (hproperties _ hmem)
  | array hform hlength hlevel _ ih =>
    obtain ⟨-, hitems⟩ := Schema.everywhere_array_iff.mp hs
    refine .array (hsim.form hR ▸ hform) (hsim.length hR ▸ hlength)
      (fun item hitem child hchild => ?_) fun item hitem child hchild => ?_
    · obtain ⟨other, hother, -⟩ := hsim.element hR hchild
      exact hlevel item hitem other hother
    · obtain ⟨other, hother, hrelated⟩ := hsim.element hR hchild
      exact ih item hitem other hother hrelated (hitems item hitem)
  | allOf _ ih =>
    obtain ⟨-, hparts⟩ := Schema.everywhere_allOf_iff.mp hs
    exact .allOf fun part hpart => ih part hpart hR (hparts part hpart)
  | anyOf hmem _ ih =>
    obtain ⟨-, hparts⟩ := Schema.everywhere_anyOf_iff.mp hs
    exact .anyOf hmem (ih hR (hparts _ hmem))

end Registry

end TreeSchema
