/-
The steps of matching.

`Registry.matchesWithin` is defined by one recursion, and this file takes it apart into steps.  A
*goal* is what matching is given: a schema and a value, the depth that is left and the names
that are opened.  `Registry.reduce` makes one step.  It settles a goal, or it reduces the goal to
others, all of which or one of which must hold, and the answer of matching to the goal is the
answer to what it is reduced to (`Registry.answer_reduce`).

Every step from a goal to another one is of one of three sorts (`Registry.calls_cases`):

* it opens a name that is registered and not opened yet, on the same value;
* it descends to a field or an element, with no name opened;
* it narrows the schema to a part of it, on the same value and with the same names opened.

In the second and third case the schema it goes to is a child of the schema it comes from
(`Registry.Calls.inversion`).
-/
import TreeSchema.Proofs.Matching.Equations
import TreeSchema.Proofs.Schema.References

namespace TreeSchema

/-- What matching is given. -/
structure Goal where
  depth : Nat
  opened : List String
  schema : Schema
  value : Json

/-- What a goal is reduced to. -/
inductive Reduct where
  | settled (answer : Bool)
  | all (goals : List Goal)
  | any (goals : List Goal)

namespace Reduct

/-- The goals that are left. -/
def goals : Reduct → List Goal
  | settled _ => []
  | all goals => goals
  | any goals => goals

/-- The answer to a goal from the answers to what it is reduced to. -/
def answer (answers : Goal → Bool) : Reduct → Bool
  | settled answer => answer
  | all goals => goals.all answers
  | any goals => goals.any answers

/-- Goals one level further down, one for each schema and child.  Too deep, there is none. -/
def inside (depth : Nat) (children : List (Schema × Json)) : Reduct :=
  match depth with
  | 0 => .settled children.isEmpty
  | depth + 1 => .all (children.map fun (s, child) => ⟨depth, [], s, child⟩)

end Reduct

/-- The schemas of fields, each with the field, as far as the value has it. -/
def Json.constrainedFields (properties : List (String × Schema)) (v : Json) :
    List (Schema × Json) :=
  properties.filterMap fun (name, s) => (v.field? name).map fun child => (s, child)

lemma Json.mem_constrainedFields_iff {properties : List (String × Schema)} {v child : Json}
    {s : Schema} : (s, child) ∈ v.constrainedFields properties ↔
      ∃ name, (name, s) ∈ properties ∧ v.field? name = some child := by
  simp only [constrainedFields, List.mem_filterMap, Option.map_eq_some_iff, Prod.mk.injEq,
    Prod.exists]
  constructor
  · rintro ⟨name, _, hmem, _, hfield, rfl, rfl⟩
    exact ⟨name, hmem, hfield⟩
  · rintro ⟨name, hmem, hfield⟩
    exact ⟨name, s, hmem, child, hfield, rfl, rfl⟩

namespace Registry

/-- One step of matching. -/
def reduce (r : Registry) (g : Goal) : Reduct :=
  match g.schema with
  | .any => .settled true
  | .ref name =>
    if name ∈ g.opened then .settled false
    else
      match r.resolve name with
      | .error _ => .settled false
      | .ok entry => .all [{ g with opened := name :: g.opened, schema := entry.schema }]
  | .leaf c => .settled (c.admits g.value)
  | .object properties required =>
    if g.value.form == .object && required.all fun name => (g.value.field? name).isSome then
      .inside g.depth (g.value.constrainedFields properties)
    else .settled false
  | .array items least most =>
    if g.value.form == .array && Schema.admitsLength least most g.value.elements.length then
      match items with
      | none => .settled true
      | some item => .inside g.depth (g.value.elements.map fun child => (item, child))
    else .settled false
  | .allOf parts => .all (parts.map fun part => { g with schema := part })
  | .anyOf parts => .any (parts.map fun part => { g with schema := part })

/-- The goals that matching may come to from a goal by one step. -/
def Calls (r : Registry) (g g' : Goal) : Prop := g' ∈ (r.reduce g).goals

variable {r : Registry} {g g' : Goal}

/-! ### Steps of matching -/

/-- The answer of matching. -/
def answer (r : Registry) (g : Goal) : Bool := r.matchesWithin g.depth g.opened g.schema g.value

lemma answer_inside {depth : Nat} {children : List (Schema × Json)} :
    (Reduct.inside depth children).answer r.answer = true ↔
      ∀ s child, (s, child) ∈ children → r.acceptsBelow depth s child = true := by
  cases depth with
  | zero => simp [Reduct.inside, Reduct.answer, List.eq_nil_iff_forall_not_mem]
  | succ depth => simp [Reduct.inside, Reduct.answer, answer, accepts]

/-- **Matching makes steps.**  Its answer to a goal is that of what the goal is reduced to. -/
theorem answer_reduce (r : Registry) (g : Goal) : (r.reduce g).answer r.answer = r.answer g := by
  obtain ⟨depth, opened, s, v⟩ := g
  rw [Bool.eq_iff_iff]
  cases s with
  | any => simp [reduce, Reduct.answer, answer]
  | ref name =>
    rw [answer, matchesWithin_ref]
    by_cases hopened : name ∈ opened
    · simp [reduce, hopened, Reduct.answer]
    · cases hresolve : r.resolve name <;>
        simp [reduce, hopened, hresolve, Reduct.answer, answer]
  | leaf c => simp [reduce, Reduct.answer, answer]
  | object properties required =>
    rw [answer, matchesWithin_object]
    simp only [reduce]
    split
    · next hobject =>
      simp only [Bool.and_eq_true, beq_iff_eq, List.all_eq_true] at hobject
      simp only [answer_inside, Json.mem_constrainedFields_iff]
      constructor
      · intro h
        refine ⟨hobject.1, hobject.2, fun name sub child hmem hfield => ?_⟩
        exact h sub child ⟨name, hmem, hfield⟩
      · rintro ⟨-, -, h⟩ sub child ⟨name, hmem, hfield⟩
        exact h name sub child hmem hfield
    · next hobject =>
      refine iff_of_false (by simp [Reduct.answer]) ?_
      rintro ⟨hform, hrequired, -⟩
      refine hobject ?_
      simpa [hform] using hrequired
  | array items least most =>
    rw [answer, matchesWithin_array]
    simp only [reduce]
    split
    · next harray =>
      simp only [Bool.and_eq_true, beq_iff_eq] at harray
      cases items with
      | none => simp [Reduct.answer, harray]
      | some item =>
        simp only [answer_inside, List.mem_map, Prod.mk.injEq]
        constructor
        · intro h
          refine ⟨harray.1, harray.2, fun _ hitem child hchild => ?_⟩
          exact h _ child ⟨child, hchild, Option.some.inj hitem, rfl⟩
        · rintro ⟨-, -, h⟩ _ _ ⟨child, hchild, rfl, rfl⟩
          exact h item rfl child hchild
    · next harray =>
      refine iff_of_false (by simp [Reduct.answer]) ?_
      rintro ⟨hform, hlength, -⟩
      refine harray ?_
      simp [hform, hlength]
  | allOf parts => simp [reduce, Reduct.answer, answer]
  | anyOf parts => simp [reduce, Reduct.answer, answer]

/-! ### The three sorts of steps -/

/-- A name is opened that has not been opened yet on this value. -/
def Opens (r : Registry) (g g' : Goal) : Prop :=
  ∃ name entry, g.schema = .ref name ∧ name ∉ g.opened ∧ r.resolve name = .ok entry ∧
    g' = { g with opened := name :: g.opened, schema := entry.schema }

end Registry

namespace Goal

/-- The goal is for a field or an element, with nothing opened and one level less. -/
def Descends (g g' : Goal) : Prop :=
  ((∃ name, g.value.field? name = some g'.value) ∨ g'.value ∈ g.value.elements) ∧
    g'.opened = [] ∧ g'.depth + 1 = g.depth

/-- The goal is for a part of the schema. -/
def Narrows (g g' : Goal) : Prop :=
  ∃ parts part, (g.schema = .allOf parts ∨ g.schema = .anyOf parts) ∧ part ∈ parts ∧
    g' = { g with schema := part }

lemma Descends.sizeOf_lt {g g' : Goal} (h : g.Descends g') : sizeOf g'.value < sizeOf g.value := by
  obtain ⟨⟨name, hfield⟩ | helement, -, -⟩ := h
  · exact Json.sizeOf_field_lt hfield
  · exact Json.sizeOf_element_lt helement

lemma Narrows.mem_children {g g' : Goal} (h : g.Narrows g') : g'.schema ∈ g.schema.children := by
  obtain ⟨parts, part, hparts | hparts, hmem, rfl⟩ := h <;>
  · rw [hparts]
    exact hmem

lemma Narrows.sizeOf_lt {g g' : Goal} (h : g.Narrows g') : sizeOf g'.schema < sizeOf g.schema :=
  Schema.sizeOf_lt_of_mem_children h.mem_children

end Goal

namespace Registry

variable {r : Registry} {g g' : Goal}

lemma descends_of_mem_inside {children : List (Schema × Json)}
    (hchildren : ∀ s child, (s, child) ∈ children → s ∈ g.schema.children ∧
      ((∃ name, g.value.field? name = some child) ∨ child ∈ g.value.elements))
    (h : g' ∈ (Reduct.inside g.depth children).goals) :
    g.Descends g' ∧ g'.schema ∈ g.schema.children := by
  unfold Reduct.inside at h
  split at h
  · cases h
  · next depth hdepth =>
    obtain ⟨⟨s, child⟩, hmem, rfl⟩ := List.mem_map.mp h
    obtain ⟨hs, hchild⟩ := hchildren s child hmem
    exact ⟨⟨hchild, rfl, hdepth.symm⟩, hs⟩

/-- All that a step can do: it opens a name, it descends to a child for a field or an element, or
it narrows the schema. -/
theorem Calls.inversion (h : r.Calls g g') :
    r.Opens g g' ∨ (g.Descends g' ∧ g'.schema ∈ g.schema.children) ∨ g.Narrows g' := by
  unfold Calls reduce at h
  split at h
  · cases h
  · next name hschema =>
    split at h
    · cases h
    · next hopened =>
      split at h
      · cases h
      · next entry hresolve =>
        obtain rfl := List.mem_singleton.mp h
        exact .inl ⟨name, entry, hschema, hopened, hresolve, rfl⟩
  · cases h
  · next properties required hschema =>
    split at h
    · refine .inr (.inl (descends_of_mem_inside (fun s child hmem => ?_) h))
      obtain ⟨name, hproperty, hfield⟩ := Json.mem_constrainedFields_iff.mp hmem
      rw [hschema]
      exact ⟨List.mem_map.mpr ⟨(name, s), hproperty, rfl⟩, .inl ⟨name, hfield⟩⟩
    · cases h
  · next items least most hschema =>
    split at h
    · split at h
      · cases h
      · next item =>
        refine .inr (.inl (descends_of_mem_inside (fun s child hmem => ?_) h))
        obtain ⟨_, helement, heq⟩ := List.mem_map.mp hmem
        cases heq
        rw [hschema]
        exact ⟨Option.mem_toList.mpr rfl, .inr helement⟩
    · cases h
  · next parts hschema =>
    obtain ⟨part, hmem, rfl⟩ := List.mem_map.mp h
    exact .inr (.inr ⟨parts, part, .inl hschema, hmem, rfl⟩)
  · next parts hschema =>
    obtain ⟨part, hmem, rfl⟩ := List.mem_map.mp h
    exact .inr (.inr ⟨parts, part, .inr hschema, hmem, rfl⟩)

/-- **Every step opens a name, descends or narrows the schema.** -/
theorem calls_cases (h : r.Calls g g') : r.Opens g g' ∨ g.Descends g' ∨ g.Narrows g' :=
  h.inversion.imp_right fun hstep => hstep.imp_left And.left

end Registry

end TreeSchema
