/-
The first flaw of a schema.

What is wrong with a schema itself can be told from its form alone: a composition has no parts, or
bounds are inverted (`Schema.Shows`).  Such a flaw may be that of any part, at any depth, and the
search for the first one must neither pass over a part nor stop at a later one.

The parts stand at places, and the order of the places is the one in which a schema comes before its
children and these come in their own order.  So the first flaw is the one at the least place where
something is wrong, and a schema is refused for this one (`validate_first_flaw`).  The steps that
lead to a place make up the text by which the error tells it (`Schema.route`).
-/
import TreeSchema.Proofs.Schema.Places
import TreeSchema.Schema.Flaw

namespace TreeSchema

namespace Schema

/-- What is wrong with a schema itself, and not only with one of its parts. -/
inductive Shows : Schema → Flaw → Prop where
  | noAllOf : Shows (.allOf []) (.emptyList .allOf)
  | noAnyOf : Shows (.anyOf []) (.emptyList .anyOf)
  | lengths {items : Option Schema} {least most : Nat} (hlt : most < least) :
      Shows (.array items (some least) (some most)) (.invertedLengths least most)
  | bounds {c : Constraint} {minimum maximum : Binary64} (hminimum : c.minimum = some minimum)
      (hmaximum : c.maximum = some maximum) (hlt : maximum.precedes minimum = true) :
      Shows (.leaf c) (.invertedBounds minimum maximum)

/-- The children of a schema in their order, each with the step that leads to it. -/
def branches : Schema → List (Step × Schema)
  | .any => []
  | .ref _ => []
  | .leaf _ => []
  | .object properties _ => properties.map fun (name, s) => (.property name, s)
  | .array items _ _ => items.toList.map fun s => (.items, s)
  | .allOf parts => parts.zipIdx.map fun (s, i) => (.allOf i, s)
  | .anyOf parts => parts.zipIdx.map fun (s, i) => (.anyOf i, s)

/-- The steps to a place. -/
def route : List Nat → Schema → List Step
  | [], _ => []
  | i :: place, s =>
    match s.branches[i]? with
    | some (step, child) => step :: child.route place
    | none => []

variable {s : Schema} {flaw : Flaw}

/-! ### One level -/

/-- The flaw of a schema itself. -/
def ownFlaw? : Schema → Option Flaw
  | .any => none
  | .ref _ => none
  | .leaf c => c.flaw?
  | .object _ _ => none
  | .array _ least most => lengthFlaw? least most
  | .allOf parts => emptyFlaw? .allOf parts
  | .anyOf parts => emptyFlaw? .anyOf parts

lemma lengthFlaw?_eq_some_iff {least most : Option Nat} :
    lengthFlaw? least most = some flaw ↔
      ∃ n m, least = some n ∧ most = some m ∧ m < n ∧ .invertedLengths n m = flaw := by
  cases least <;> cases most <;> simp [lengthFlaw?]

lemma constraint_flaw?_eq_some_iff {c : Constraint} :
    c.flaw? = some flaw ↔ ∃ minimum maximum, c.minimum = some minimum ∧ c.maximum = some maximum ∧
      maximum.precedes minimum = true ∧ .invertedBounds minimum maximum = flaw := by
  cases hminimum : c.minimum <;> cases hmaximum : c.maximum <;>
    simp [Constraint.flaw?, hminimum, hmaximum]

lemma emptyFlaw?_eq_some_iff {keyword : ListKeyword} {parts : List Schema} :
    emptyFlaw? keyword parts = some flaw ↔ parts = [] ∧ .emptyList keyword = flaw := by
  cases parts <;> simp [emptyFlaw?]

lemma ownFlaw?_eq_some_iff : s.ownFlaw? = some flaw ↔ s.Shows flaw := by
  constructor
  · intro h
    cases s with
    | any | ref | object => cases h
    | leaf c =>
      obtain ⟨minimum, maximum, hminimum, hmaximum, hlt, rfl⟩ := constraint_flaw?_eq_some_iff.mp h
      exact .bounds hminimum hmaximum hlt
    | array items least most =>
      obtain ⟨n, m, rfl, rfl, hlt, rfl⟩ := lengthFlaw?_eq_some_iff.mp h
      exact .lengths hlt
    | allOf parts =>
      obtain ⟨rfl, rfl⟩ := emptyFlaw?_eq_some_iff.mp h
      exact .noAllOf
    | anyOf parts =>
      obtain ⟨rfl, rfl⟩ := emptyFlaw?_eq_some_iff.mp h
      exact .noAnyOf
  · rintro (_ | _ | hlt | ⟨hminimum, hmaximum, hlt⟩)
    · rfl
    · rfl
    · exact lengthFlaw?_eq_some_iff.mpr ⟨_, _, rfl, rfl, hlt, rfl⟩
    · exact constraint_flaw?_eq_some_iff.mpr ⟨_, _, hminimum, hmaximum, hlt, rfl⟩

lemma propertyFlaw?_eq (properties : List (String × Schema)) :
    propertyFlaw? properties = (properties.map fun (name, s) => (Step.property name, s)).findSome?
      fun branch => branch.2.firstFlaw?.map (FlawAt.under branch.1) := by
  induction properties with
  | nil => rfl
  | cons property rest ih =>
    rw [propertyFlaw?, ih, List.map_cons, List.findSome?_cons]
    cases property.2.firstFlaw? <;> rfl

lemma listFlaw?_eq (step : Nat → Step) (index : Nat) (parts : List Schema) :
    listFlaw? step index parts = ((parts.zipIdx index).map fun (s, i) => (step i, s)).findSome?
      fun branch => branch.2.firstFlaw?.map (FlawAt.under branch.1) := by
  induction parts generalizing index with
  | nil => rfl
  | cons part rest ih =>
    rw [listFlaw?, ih, List.zipIdx_cons, List.map_cons, List.findSome?_cons]
    cases part.firstFlaw? <;> rfl

/-- The flaw of a schema itself comes first, and then those of its children in their order. -/
lemma firstFlaw?_eq (s : Schema) :
    s.firstFlaw? = (s.ownFlaw?.map FlawAt.here).or
      (s.branches.findSome? fun branch => branch.2.firstFlaw?.map (FlawAt.under branch.1)) := by
  cases s with
  | any | ref => rfl
  | leaf c => simp [firstFlaw?, ownFlaw?, branches]
  | object properties required =>
    rw [firstFlaw?, propertyFlaw?_eq]
    rfl
  | array items least most => cases items <;> simp [firstFlaw?, ownFlaw?, branches]
  | allOf parts =>
    rw [firstFlaw?, listFlaw?_eq]
    rfl
  | anyOf parts =>
    rw [firstFlaw?, listFlaw?_eq]
    rfl

/-! ### Places -/

lemma map_snd_branches (s : Schema) : s.branches.map Prod.snd = s.children := by
  have hparts : ∀ (step : Nat → Step) (parts : List Schema),
      (parts.zipIdx.map fun (s, i) => (step i, s)).map Prod.snd = parts := fun step parts => by
    rw [List.map_map]
    exact List.zipIdx_map_fst 0 parts
  cases s with
  | any | ref | leaf => rfl
  | object properties required => simp [branches, children]
  | array items least most => cases items <;> rfl
  | allOf parts => exact hparts .allOf parts
  | anyOf parts => exact hparts .anyOf parts

lemma children_getElem? (s : Schema) (i : Nat) :
    s.children[i]? = s.branches[i]?.map Prod.snd := by
  rw [← map_snd_branches, List.getElem?_map]

lemma sizeOf_lt_of_mem_branches {branch : Step × Schema} (h : branch ∈ s.branches) :
    sizeOf branch.2 < sizeOf s := by
  refine sizeOf_lt_of_mem_children ?_
  rw [← map_snd_branches]
  exact List.mem_map_of_mem h

lemma at?_cons_eq_some_iff {i : Nat} {place : List Nat} {part : Schema} :
    s.at? (i :: place) = some part ↔
      ∃ step child, s.branches[i]? = some (step, child) ∧ child.at? place = some part := by
  rw [at?, children_getElem?, Option.bind_eq_some_iff]
  constructor
  · rintro ⟨child, hchild, hpart⟩
    obtain ⟨⟨step, _⟩, hbranch, rfl⟩ := Option.map_eq_some_iff.mp hchild
    exact ⟨step, _, hbranch, hpart⟩
  · rintro ⟨step, child, hbranch, hpart⟩
    exact ⟨child, Option.map_eq_some_iff.mpr ⟨_, hbranch, rfl⟩, hpart⟩

lemma route_cons {i : Nat} {place : List Nat} {step : Step} {child : Schema}
    (h : s.branches[i]? = some (step, child)) :
    s.route (i :: place) = step :: child.route place := by
  rw [route, h]

/-- Nothing is wrong at any place if the search finds nothing. -/
lemma firstFlaw?_eq_none_iff (s : Schema) :
    s.firstFlaw? = none ↔ ∀ place part flaw, s.at? place = some part → ¬ part.Shows flaw := by
  rw [firstFlaw?_eq, Option.or_eq_none_iff, Option.map_eq_none_iff, List.findSome?_eq_none_iff]
  constructor
  · rintro ⟨hown, hbranches⟩ place part flaw hpart hshows
    cases place with
    | nil =>
      cases hpart
      simp [ownFlaw?_eq_some_iff.mpr hshows] at hown
    | cons i place =>
      obtain ⟨step, child, hbranch, hpart⟩ := at?_cons_eq_some_iff.mp hpart
      have hmem := List.mem_of_getElem? hbranch
      have hnone := Option.map_eq_none_iff.mp (hbranches _ hmem)
      have := sizeOf_lt_of_mem_branches hmem
      exact (firstFlaw?_eq_none_iff child).mp hnone place part flaw hpart hshows
  · intro h
    refine ⟨?_, fun branch hmem => Option.map_eq_none_iff.mpr ?_⟩
    · refine Option.eq_none_iff_forall_ne_some.mpr fun flaw hflaw => ?_
      exact h [] s flaw rfl (ownFlaw?_eq_some_iff.mp hflaw)
    · obtain ⟨i, hbranch⟩ := List.mem_iff_getElem?.mp hmem
      have := sizeOf_lt_of_mem_branches hmem
      refine (firstFlaw?_eq_none_iff branch.2).mpr fun place part flaw hpart => ?_
      exact h (i :: place) part flaw (at?_cons_eq_some_iff.mpr ⟨_, _, hbranch, hpart⟩)
termination_by sizeOf s

/-- What stands before a place in a part is the whole schema, or stands in a part in front, or
stands before that place in the same part. -/
lemma not_shows_of_earlier {s child : Schema} {step : Step} {place : List Nat}
    {before after : List (Step × Schema)} (hown : s.ownFlaw? = none)
    (hbranches : s.branches = before ++ (step, child) :: after)
    (hbefore : ∀ branch ∈ before, branch.2.firstFlaw? = none)
    (hleast : ∀ earlier other flaw, earlier < place → child.at? earlier = some other →
      ¬ other.Shows flaw) :
    ∀ earlier other flaw, earlier < before.length :: place → s.at? earlier = some other →
      ¬ other.Shows flaw := by
  intro earlier other flaw hlt hother hwrong
  cases earlier with
  | nil =>
    cases hother
    simp [ownFlaw?_eq_some_iff.mpr hwrong] at hown
  | cons j earlier =>
    obtain ⟨step', child', hbranch', hother⟩ := at?_cons_eq_some_iff.mp hother
    rcases List.cons_lt_cons_iff.mp hlt with hj | ⟨rfl, hrest⟩
    · have hmem : (step', child') ∈ before := by
        rw [hbranches, List.getElem?_append_left hj] at hbranch'
        exact List.mem_of_getElem? hbranch'
      exact (firstFlaw?_eq_none_iff child').mp (hbefore _ hmem) earlier other flaw hother hwrong
    · have hbranch : s.branches[before.length]? = some (step, child) := by simp [hbranches]
      cases hbranch.symm.trans hbranch'
      exact hleast earlier other flaw hrest hother hwrong

/-- The search stops at the least place where something is wrong. -/
lemma exists_place_of_firstFlaw? {s : Schema} {flaw : Flaw} {steps : List Step}
    (h : s.firstFlaw? = some (steps, flaw)) :
    ∃ place part, s.at? place = some part ∧ part.Shows flaw ∧
      (∀ earlier other flaw', earlier < place → s.at? earlier = some other →
        ¬ other.Shows flaw') ∧ steps = s.route place := by
  rw [firstFlaw?_eq, Option.or_eq_some_iff] at h
  rcases h with hown | ⟨hown, hbelow⟩
  · -- no place is less than that of the whole schema
    obtain ⟨_, hown, heq⟩ := Option.map_eq_some_iff.mp hown
    cases heq
    exact ⟨[], s, rfl, ownFlaw?_eq_some_iff.mp hown,
      fun _ _ _ hlt => absurd hlt (List.not_lt_nil _), rfl⟩
  · obtain ⟨before, ⟨step, child⟩, after, hbranches, hchild, hbefore⟩ :=
      List.findSome?_eq_some_iff.mp hbelow
    obtain ⟨⟨below, _⟩, hfirst, heq⟩ := Option.map_eq_some_iff.mp hchild
    cases heq
    have hbranch : s.branches[before.length]? = some (step, child) := by simp [hbranches]
    have := sizeOf_lt_of_mem_branches (List.mem_of_getElem? hbranch)
    obtain ⟨place, part, hpart, hshows, hleast, rfl⟩ := exists_place_of_firstFlaw? hfirst
    have hnone : ∀ branch ∈ before, branch.2.firstFlaw? = none := fun branch hmem =>
      Option.map_eq_none_iff.mp (hbefore branch hmem)
    exact ⟨before.length :: place, part, at?_cons_eq_some_iff.mpr ⟨_, _, hbranch, hpart⟩, hshows,
      not_shows_of_earlier (Option.map_eq_none_iff.mp hown) hbranches hnone hleast,
      (route_cons hbranch).symm⟩
termination_by sizeOf s

/-- **A schema is refused for the first flaw in it.**

* It is accepted if and only if nothing is wrong with what stands at any place in it.
* If it is refused, the error tells a place and what is wrong with the schema that stands there, and
  at no place before it is anything wrong.  In the message the place is a hash, followed by the
  steps that lead there. -/
theorem validate_first_flaw (s : Schema) :
    (s.validate = .ok () ↔ ∀ place part flaw, s.at? place = some part → ¬ part.Shows flaw) ∧
    ∀ why, s.validate = .error why → ∃ place part flaw,
      s.at? place = some part ∧ part.Shows flaw ∧
      (∀ earlier other flaw', earlier < place → s.at? earlier = some other →
        ¬ other.Shows flaw') ∧
      why = .flawed (s.route place) flaw ∧
      ∀ words, why.message words =
        "#" ++ String.join ((s.route place).map fun step => "/" ++ step.text) ++ ": " ++
          flaw.message words := by
  rw [← firstFlaw?_eq_none_iff, validate]
  cases hfirst : s.firstFlaw? with
  | none => simp
  | some found =>
    refine ⟨by simp, ?_⟩
    rintro _ ⟨⟩
    obtain ⟨place, part, hpart, hshows, hleast, hsteps⟩ := exists_place_of_firstFlaw? hfirst
    exact ⟨place, part, found.2, hpart, hshows, hleast, by rw [← hsteps],
      fun words => by rw [← hsteps]; rfl⟩

/-- A schema with three flaws, one in another and the third one behind these. -/
def crooked : Schema :=
  .allOf [.ref "Tree",
    .object [("fruits", .array (some (.anyOf [])) (some 3) (some 2)), ("bark", .allOf [])] []]

/-- It is refused for the flaw that comes first. -/
theorem crooked_refused_for_fruits :
    crooked.validate =
      .error (.flawed [.allOf 1, .property "fruits"] (.invertedLengths 3 2)) ∧
    ∃ place part flaw, crooked.at? place = some part ∧ part.Shows flaw ∧
      (∀ earlier other flaw', earlier < place → crooked.at? earlier = some other →
        ¬ other.Shows flaw') ∧
      .flawed [.allOf 1, .property "fruits"] (.invertedLengths 3 2) =
        SchemaError.flawed (crooked.route place) flaw ∧
      ∀ words, (SchemaError.flawed [.allOf 1, .property "fruits"]
        (.invertedLengths 3 2)).message words =
          "#" ++ String.join ((crooked.route place).map fun step => "/" ++ step.text) ++ ": " ++
            flaw.message words :=
  ⟨rfl, (validate_first_flaw crooked).2 _ rfl⟩

end Schema

end TreeSchema
