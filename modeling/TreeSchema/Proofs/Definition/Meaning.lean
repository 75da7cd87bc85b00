/-
The meaning of definitions.

A definition can be read keyword by keyword, without making a schema of it: each keyword
that is present asks something of a value, and the value satisfies the definition if it does
all of it.  That is `Definition.Satisfied`.

* A reference asks that the schema of the name matches.
* A `type` with one name asks for that kind; without a `type` the kind is the one that the shape
  keywords imply.  The shape keywords and the enumeration are asked for besides.
* A `type` with several names asks for one of them.  The enumeration is asked for whatever the
  kind, the shape keywords only for a kind that agrees with the one they imply.
* The compositions ask for every one, or for some one, of their parts in the same sense.

The schema of a definition is built quite differently.  Keywords are dropped or moved into arms, and
parts are flattened, unwrapped and absorbed on every level.  Still it matches just
the values that satisfy the definition (`accepts_iff_satisfied`).
-/
import TreeSchema.Proofs.Definition.Groups
import TreeSchema.Proofs.Matching.Compositions
import TreeSchema.Proofs.Registry.Aliases
import TreeSchema.Proofs.Schema.Constraint

namespace TreeSchema

lemma Kind.within_trans {a b c : Kind} (hab : a.within b = true) (hbc : b.within c = true) :
    a.within c = true := by
  cases b <;> cases c <;> simp_all [Kind.within]

namespace Definition

open Constraint (ChoicesHold MinimumHolds MaximumHolds PatternHolds)

/-! ### Reading keyword by keyword -/

/-- What the shape keywords without definitions in them ask of a value. -/
structure FlatShapeHolds (d : Definition) (v : Json) : Prop where
  required : ∀ names, d.required = some names → ∀ name ∈ names, (v.field? name).isSome
  minItems : ∀ least, d.minItems = some least → least ≤ v.elements.length
  maxItems : ∀ most, d.maxItems = some most → v.elements.length ≤ most
  pattern : ∀ source, d.pattern = some source → ∃ pattern text,
    Pattern.ofSource? source = some pattern ∧ v = .string text ∧ pattern.admits text = true
  minimum : MinimumHolds d.minimum v
  maximum : MaximumHolds d.maximum v

/-- What the `type`, the enumeration and the shape keywords ask of a value together, where `shape`
is what the shape keywords ask of it. -/
def TypeHolds (d : Definition) (v : Json) (shape : Prop) : Prop :=
  match d.kindNames with
  | none => (∀ kind, d.implied = some kind → kind.admits v = true) ∧ shape ∧ ChoicesHold d.choices v
  | some (.one name) => (∃ kind, Kind.ofName? name = some kind ∧ kind.admits v = true) ∧ shape ∧
      ChoicesHold d.choices v
  | some (.many names) => ∃ name ∈ names, ∃ kind, Kind.ofName? name = some kind ∧
      kind.admits v = true ∧ (agrees kind d.implied = true → shape) ∧ ChoicesHold d.choices v

/-- Whether a value satisfies a definition, read keyword by keyword.  Fields and elements are
reached only if there is a level left for them. -/
def Satisfied (r : Registry) (depth : Nat) (d : Definition) (v : Json) : Prop :=
  (∀ name, d.reference = some name → r.accepts depth (.ref name) v = true) ∧
  d.TypeHolds v (d.FlatShapeHolds v ∧
    (∀ properties, d.properties = some properties → ∀ name sub, (name, sub) ∈ properties →
      ∀ child, v.field? name = some child → 0 < depth ∧ Satisfied r (depth - 1) sub child) ∧
    ∀ item, d.items = some item → ∀ child ∈ v.elements,
      0 < depth ∧ Satisfied r (depth - 1) item child) ∧
  (∀ parts, d.allOf = some parts → ∀ part ∈ parts, Satisfied r depth part v) ∧
  ∀ parts, d.anyOf = some parts → ∃ part, ∃ _ : part ∈ parts, Satisfied r depth part v
  termination_by sizeOf d
  decreasing_by
    · exact sizeOf_property_lt (by assumption) (by assumption)
    · exact sizeOf_item_lt (by assumption)
    · exact sizeOf_allOf_lt (by assumption) (by assumption)
    · exact sizeOf_anyOf_lt (by assumption) (by assumption)

/-- What is asked of fields, where `Holds` says what a definition asks of a child. -/
def PropertiesHold (d : Definition) (Holds : Definition → Json → Prop) (v : Json) : Prop :=
  ∀ properties, d.properties = some properties → ∀ name sub, (name, sub) ∈ properties →
    ∀ child, v.field? name = some child → Holds sub child

/-- What is asked of elements, where `Holds` says what a definition asks of a child. -/
def ItemsHold (d : Definition) (Holds : Definition → Json → Prop) (v : Json) : Prop :=
  ∀ item, d.items = some item → ∀ child ∈ v.elements, Holds item child

lemma satisfied_iff {d : Definition} {r : Registry} {depth : Nat} {v : Json} :
    d.Satisfied r depth v ↔
      (∀ name, d.reference = some name → r.accepts depth (.ref name) v = true) ∧
      d.TypeHolds v (d.FlatShapeHolds v ∧
        d.PropertiesHold (fun sub child => 0 < depth ∧ sub.Satisfied r (depth - 1) child) v ∧
        d.ItemsHold (fun sub child => 0 < depth ∧ sub.Satisfied r (depth - 1) child) v) ∧
      (∀ parts, d.allOf = some parts → ∀ part ∈ parts, part.Satisfied r depth v) ∧
      ∀ parts, d.anyOf = some parts → ∃ part ∈ parts, part.Satisfied r depth v := by
  rw [Satisfied]
  simp only [exists_prop, PropertiesHold, ItemsHold]

/-! ### The constraint to a value as a whole -/

section Groups

variable {d : Definition} {r : Registry} {depth : Nat} {v : Json} {kind : Option Kind} {s : Schema}

lemma patternHolds_iff {pattern : Option Pattern} (h : d.patternOf = .ok pattern) :
    PatternHolds pattern v ↔ ∀ source, d.pattern = some source → ∃ p text,
      Pattern.ofSource? source = some p ∧ v = .string text ∧ p.admits text = true := by
  rw [patternOf_eq_ok_iff] at h
  generalize d.pattern = written at h ⊢
  cases h with
  | none => simp [PatternHolds]
  | some hp => simp [PatternHolds, hp]

/-- What the keywords about a value as a whole ask for.  Kinds with parts are asked for
elsewhere. -/
lemma forall_leafSchemas_iff {leaves : List Schema} (h : d.leafSchemas kind = .ok leaves) :
    (∀ s ∈ leaves, r.accepts depth s v = true) ↔
      (∀ k, kind = some k → k.isShape = false → k.admits v = true) ∧
        (∀ source, d.pattern = some source → ∃ p text,
          Pattern.ofSource? source = some p ∧ v = .string text ∧ p.admits text = true) ∧
        ChoicesHold d.choices v ∧ MinimumHolds d.minimum v ∧ MaximumHolds d.maximum v := by
  have hkind : (∀ k, (kind.filter fun kind => !kind.isShape) = some k → k.admits v = true) ↔
      ∀ k, kind = some k → k.isShape = false → k.admits v = true := by
    simp only [Option.filter_eq_some_iff, Bool.not_eq_true', and_imp]
  rw [← hkind]
  simp only [leafSchemas] at h
  split at h
  · obtain ⟨s, hs, rfl⟩ := map_eq_ok_iff.mp h
    obtain ⟨pattern, hpattern, -, rfl⟩ := leafSchema_eq_ok_iff.mp hs
    rw [← patternHolds_iff hpattern]
    simp only [List.mem_singleton, forall_eq, Registry.accepts, Registry.matchesWithin_leaf,
      Constraint.admits_iff, constraint]
  · next hnone =>
    -- without such a keyword there is no schema, and nothing is asked for
    cases h
    simp only [hasLeafKeyword, has, value?, Bool.or_eq_true, Option.isSome_iff_ne_none, not_or,
      not_not] at hnone
    obtain ⟨hleaf, ⟨⟨hpattern, hchoices⟩, hminimum⟩, hmaximum⟩ := hnone
    simp [hleaf, hpattern, hchoices, hminimum, hmaximum, ChoicesHold, MinimumHolds,
      MaximumHolds]

/-! ### The parts of objects and arrays -/

lemma mem_foldl_require_iff {name : String} (names required : List String) :
    name ∈ names.foldl Schema.require required ↔ name ∈ required ∨ name ∈ names := by
  induction names generalizing required with
  | nil => simp
  | cons first names ih =>
    have hfirst : name ∈ Schema.require required first ↔ name ∈ required ∨ name = first := by
      unfold Schema.require
      split <;> simp_all
    rw [List.foldl_cons, ih, hfirst, List.mem_cons, or_assoc]

@[simp] lemma mem_requireAll_iff {name : String} {names : List String} :
    name ∈ Schema.requireAll names ↔ name ∈ names := by
  simp [Schema.requireAll, mem_foldl_require_iff]

lemma admitsLength_iff {least most : Option Nat} {length : Nat} :
    Schema.admitsLength least most length = true ↔
      (∀ n, least = some n → n ≤ length) ∧ ∀ n, most = some n → length ≤ n := by
  cases least <;> cases most <;> simp [Schema.admitsLength]

variable {Holds : Definition → Json → Prop}

/-- One level further down, the schemas of the definitions in a definition match what `Holds` says
that they ask. -/
def PartsMean (d : Definition) (r : Registry) (depth : Nat) (Holds : Definition → Json → Prop) :
    Prop :=
  ∀ (sub : Definition) s child, sub.PartOf d → sub.Defines s →
    (r.acceptsBelow depth s child = true ↔ Holds sub child)

/-- The schema for objects asks for what the keywords about objects ask. -/
lemma accepts_objectSchema_iff (h : d.objectSchema d.nested = .ok s)
    (hsub : d.PartsMean r depth Holds) :
    r.accepts depth s v = true ↔ v.form = .object ∧
      (∀ names, d.required = some names → ∀ name ∈ names, (v.field? name).isSome) ∧
      d.PropertiesHold Holds v := by
  obtain ⟨properties, hproperties, rfl⟩ := objectSchema_eq_ok_iff.mp h
  -- the schemas of the fields stand side by side with the definitions that they come from
  have hfields : (∀ entry ∈ properties, ∀ child, v.field? entry.1 = some child →
      r.acceptsBelow depth entry.2 child = true) ↔
      ∀ entry ∈ d.properties.getD [], ∀ child, v.field? entry.1 = some child →
        Holds entry.2 child := by
    refine forall_mem_iff_of_forall₂ hproperties fun entry hentry defined hdefines => ?_
    rw [← hdefines.1]
    have hpart : entry.2.PartOf d := by
      cases hd : d.properties with
      | none => simp [hd] at hentry
      | some entries => exact .property hd (by simpa [hd] using hentry)
    exact forall_congr' fun child => imp_congr_right fun _ => hsub _ _ child hpart hdefines.2
  rw [Registry.accepts, Registry.matchesWithin_object]
  refine and_congr_right fun _ => and_congr ?_ ?_
  · cases d.required <;> simp
  · have hpairs : (∀ name sub child, (name, sub) ∈ properties → v.field? name = some child →
        r.acceptsBelow depth sub child = true) ↔
        ∀ entry ∈ properties, ∀ child, v.field? entry.1 = some child →
          r.acceptsBelow depth entry.2 child = true := by
      constructor
      · intro h entry hentry child
        exact h entry.1 entry.2 child hentry
      · intro h name sub child hentry
        exact h (name, sub) hentry child
    rw [hpairs, hfields]
    unfold PropertiesHold
    cases d.properties <;> simp

/-- The schema for arrays asks for what the keywords about arrays ask. -/
lemma accepts_arraySchema_iff (h : d.arraySchema d.nested = .ok s)
    (hsub : d.PartsMean r depth Holds) :
    r.accepts depth s v = true ↔ v.form = .array ∧
      (∀ least, d.minItems = some least → least ≤ v.elements.length) ∧
      (∀ most, d.maxItems = some most → v.elements.length ≤ most) ∧ d.ItemsHold Holds v := by
  obtain ⟨items, hitems, -, rfl⟩ := arraySchema_eq_ok_iff.mp h
  rw [Registry.accepts, Registry.matchesWithin_array, admitsLength_iff, and_assoc]
  refine and_congr_right fun _ => and_congr_right fun _ => and_congr_right fun _ => ?_
  unfold ItemsHold
  generalize hd : d.items = item at hitems ⊢
  cases hitems with
  | none => simp
  | some hdefines =>
    simp only [Option.some.injEq, forall_eq']
    exact forall_congr' fun child => imp_congr_right fun _ =>
      hsub _ _ child (.item hd) hdefines

/-- Keywords about values of one kind are there only for kinds within it. -/
def Fits (d : Definition) (kind : Option Kind) : Prop :=
  ∀ keyword k, d.has keyword = true → keyword.impliedKind? = some k →
    ∃ k', kind = some k' ∧ k'.within k = true

lemma Fits.value?_eq_none (h : d.Fits kind) {k : Kind} (hshape : k.isShape = true)
    (hne : kind ≠ some k) (keyword : Keyword) (hkeyword : keyword.impliedKind? = some k) :
    d.value? keyword = none := by
  by_contra hsome
  obtain ⟨k', hkind, hwithin⟩ := h keyword k (Option.isSome_iff_ne_none.mpr hsome) hkeyword
  refine hne (hkind.trans ?_)
  -- nothing else is within a kind with parts
  cases k <;> cases k' <;> simp_all [Kind.within, Kind.isShape]

lemma Fits.object (h : d.Fits kind) (hne : kind ≠ some .object) :
    d.required = none ∧ d.properties = none :=
  ⟨h.value?_eq_none rfl hne .required rfl, h.value?_eq_none rfl hne .properties rfl⟩

lemma Fits.array (h : d.Fits kind) (hne : kind ≠ some .array) :
    d.minItems = none ∧ d.maxItems = none ∧ d.items = none :=
  ⟨h.value?_eq_none rfl hne .minItems rfl, h.value?_eq_none rfl hne .maxItems rfl,
    h.value?_eq_none rfl hne .items rfl⟩

/-- What the keywords about the parts of a value ask for, together with the kinds that have
parts. -/
lemma forall_shapeSchemas_iff {shapes : List Schema}
    (h : d.shapeSchemas d.nested kind = .ok shapes) (hfits : d.Fits kind)
    (hsub : d.PartsMean r depth Holds) :
    (∀ s ∈ shapes, r.accepts depth s v = true) ↔
      (∀ k, kind = some k → k.isShape = true → k.admits v = true) ∧
        (∀ names, d.required = some names → ∀ name ∈ names, (v.field? name).isSome) ∧
        (∀ least, d.minItems = some least → least ≤ v.elements.length) ∧
        (∀ most, d.maxItems = some most → v.elements.length ≤ most) ∧
        d.PropertiesHold Holds v ∧ d.ItemsHold Holds v := by
  unfold shapeSchemas at h
  split at h
  · obtain ⟨s, hs, rfl⟩ := map_eq_ok_iff.mp h
    obtain ⟨hleast, hmost, hitems⟩ := hfits.array (by simp)
    simp [accepts_objectSchema_iff hs hsub, hleast, hmost, hitems, ItemsHold, Kind.isShape,
      Kind.admits]
  · obtain ⟨s, hs, rfl⟩ := map_eq_ok_iff.mp h
    obtain ⟨hrequired, hproperties⟩ := hfits.object (by simp)
    simp [accepts_arraySchema_iff hs hsub, hrequired, hproperties, PropertiesHold, Kind.isShape,
      Kind.admits]
  · next hobject harray =>
    cases h
    obtain ⟨hleast, hmost, hitems⟩ := hfits.array harray
    obtain ⟨hrequired, hproperties⟩ := hfits.object hobject
    have hkind : ∀ k, kind = some k → k.isShape = true → k.admits v = true := by
      rintro k rfl hshape
      cases k <;> simp_all [Kind.isShape]
    simpa [hleast, hmost, hitems, hrequired, hproperties, ItemsHold, PropertiesHold] using hkind

/-! ### The type -/

/-- What the keywords ask for together with a kind that they fit. -/
lemma accepts_kindSchema_iff (h : d.kindSchema d.nested kind = .ok s) (hfits : d.Fits kind)
    (hsub : d.PartsMean r depth Holds) :
    r.accepts depth s v = true ↔ (∀ k, kind = some k → k.admits v = true) ∧
      (d.FlatShapeHolds v ∧ d.PropertiesHold Holds v ∧ d.ItemsHold Holds v) ∧
      ChoicesHold d.choices v := by
  obtain ⟨shapes, hshapes, leaves, hleaves, rfl⟩ := kindSchema_eq_ok_iff.mp h
  have hshapes := forall_shapeSchemas_iff (v := v) hshapes hfits hsub
  have hleaves : (∀ s ∈ leaves, r.accepts depth s v = true) ↔ _ := forall_leafSchemas_iff hleaves
  simp only [Registry.accepts] at hshapes hleaves
  rw [Registry.accepts, Registry.matchesWithin_intersection, List.forall_mem_append, hshapes,
    hleaves]
  constructor
  · rintro ⟨⟨hshape, hrequired, hleast, hmost, hproperties, hitems⟩, hleaf, hpattern, hchoices,
      hminimum, hmaximum⟩
    refine ⟨fun k hk => ?_, ⟨⟨hrequired, hleast, hmost, hpattern, hminimum, hmaximum⟩,
      hproperties, hitems⟩, hchoices⟩
    cases hparts : k.isShape
    · exact hleaf k hk hparts
    · exact hshape k hk hparts
  · rintro ⟨hkind, ⟨hflat, hproperties, hitems⟩, hchoices⟩
    exact ⟨⟨fun k hk _ => hkind k hk, hflat.required, hflat.minItems, hflat.maxItems, hproperties,
      hitems⟩, fun k hk _ => hkind k hk, hflat.pattern, hchoices, hflat.minimum, hflat.maximum⟩

lemma fits_implied (h : d.impliedKind? = .ok kind) : d.Fits d.implied := by
  obtain ⟨-, hall⟩ := impliedKind?_eq_ok h
  intro keyword k hhas hkeyword
  exact ⟨k, hall keyword k hhas hkeyword, by simp [Kind.within]⟩

/-- The keywords fit each kind that agrees with the implied one. -/
lemma fits_of_agrees {k : Kind} (hfits : d.Fits d.implied) (hagrees : agrees k d.implied = true) :
    d.Fits (some k) := by
  intro keyword other hhas hkeyword
  obtain ⟨k', himplied, hwithin⟩ := hfits keyword other hhas hkeyword
  rw [himplied] at hagrees
  exact ⟨k, rfl, Kind.within_trans hagrees hwithin⟩

/-- The arm of a name asks for the kind and the enumeration, and for the shape keywords if they
are about that kind. -/
lemma accepts_armSchema_iff {name : String}
    (h : d.armSchema d.nested d.implied name = .ok s) (hfits : d.Fits d.implied)
    (hsub : d.PartsMean r depth Holds) :
    r.accepts depth s v = true ↔ ∃ k, Kind.ofName? name = some k ∧ k.admits v = true ∧
      (agrees k d.implied = true →
        d.FlatShapeHolds v ∧ d.PropertiesHold Holds v ∧ d.ItemsHold Holds v) ∧
      ChoicesHold d.choices v := by
  obtain ⟨k, hname, h⟩ := armSchema_eq_ok_iff.mp h
  simp only [hname, Option.some.injEq, exists_eq_left']
  split at h
  · next hagrees =>
    rw [accepts_kindSchema_iff h (fits_of_agrees hfits hagrees) hsub]
    simp [hagrees]
  · next hagrees =>
    subst h
    simp [Registry.accepts, Constraint.admits_iff, hagrees, PatternHolds, MinimumHolds,
      MaximumHolds]

/-- The schema for the type asks for what the `type`, the enumeration and the shape keywords ask
together. -/
lemma accepts_typeSchema_iff (himplied : d.impliedKind? = .ok kind)
    (h : d.typeSchema d.nested kind = .ok s) (hsub : d.PartsMean r depth Holds) :
    r.accepts depth s v = true ↔
      d.TypeHolds v (d.FlatShapeHolds v ∧ d.PropertiesHold Holds v ∧ d.ItemsHold Holds v) := by
  have hfits := fits_implied himplied
  obtain rfl := (impliedKind?_eq_ok himplied).1
  unfold TypeHolds
  split
  · next hnames =>
    rw [typeSchema_of_none hnames] at h
    exact accepts_kindSchema_iff h hfits hsub
  · next name hnames =>
    obtain ⟨k, hname, hagrees, h⟩ := (typeSchema_one_eq_ok_iff hnames).mp h
    rw [accepts_kindSchema_iff h (fits_of_agrees hfits hagrees) hsub]
    simp [hname]
  · next names hnames =>
    obtain ⟨-, arms, harms, rfl⟩ := (typeSchema_many_eq_ok_iff hnames).mp h
    rw [Registry.accepts, Registry.matchesWithin_union]
    exact exists_mem_iff_of_forall₂ harms fun name _ arm harm =>
      accepts_armSchema_iff harm hfits hsub

/-! ### The compositions -/

lemma forall_allOf_iff {all : List Schema}
    (h : compositionSchema .allOf .intersection d.nested.allOf = .ok all)
    (hsub : ∀ (sub : Definition) s, sub.PartOf d → sub.Defines s →
      (r.accepts depth s v = true ↔ Holds sub v)) :
    (∀ s ∈ all, r.accepts depth s v = true) ↔
      ∀ parts, d.allOf = some parts → ∀ part ∈ parts, Holds part v := by
  rcases compositionSchema_eq_ok_iff.mp h with ⟨hnone, rfl⟩ | ⟨parts, ss, hparts, hss, -, rfl⟩
  · simp [hnone]
  · simp only [List.mem_singleton, forall_eq, hparts, Option.some.injEq, forall_eq',
      Registry.accepts, Registry.matchesWithin_intersection]
    exact forall_mem_iff_of_forall₂ hss fun part hpart s hs =>
      hsub part s (.allOf hparts hpart) hs

lemma forall_anyOf_iff {any : List Schema}
    (h : compositionSchema .anyOf .union d.nested.anyOf = .ok any)
    (hsub : ∀ (sub : Definition) s, sub.PartOf d → sub.Defines s →
      (r.accepts depth s v = true ↔ Holds sub v)) :
    (∀ s ∈ any, r.accepts depth s v = true) ↔
      ∀ parts, d.anyOf = some parts → ∃ part ∈ parts, Holds part v := by
  rcases compositionSchema_eq_ok_iff.mp h with ⟨hnone, rfl⟩ | ⟨parts, ss, hparts, hss, -, rfl⟩
  · simp [hnone]
  · simp only [List.mem_singleton, forall_eq, hparts, Option.some.injEq, forall_eq',
      Registry.accepts, Registry.matchesWithin_union]
    exact exists_mem_iff_of_forall₂ hss fun part hpart s hs =>
      hsub part s (.anyOf hparts hpart) hs

end Groups

/-! ### The whole definition -/

/-- The schema of a definition matches what satisfies the definition. -/
theorem accepts_iff_satisfied (r : Registry) {d : Definition} {s : Schema} (depth : Nat)
    (v : Json) (h : d.schema = .ok s) : r.accepts depth s v = true ↔ d.Satisfied r depth v := by
  obtain ⟨kind, himplied, typed, htyped, all, hall, any, hany, rfl⟩ := schema_eq_ok_iff.mp h
  -- one level down the depth is smaller, and every part is a smaller definition
  have hsub : d.PartsMean r depth fun sub child =>
      0 < depth ∧ sub.Satisfied r (depth - 1) child := by
    intro sub s child hpart hs
    have hlt := hpart.sizeOf_lt
    cases depth with
    | zero => simp
    | succ depth =>
      rw [Registry.acceptsBelow_succ, accepts_iff_satisfied r depth child hs]
      simp
  have htype := accepts_typeSchema_iff (v := v) himplied htyped hsub
  have hpart : ∀ (sub : Definition) s, sub.PartOf d → sub.Defines s →
      (r.accepts depth s v = true ↔ sub.Satisfied r depth v) := by
    intro sub s hpart hs
    have hlt := hpart.sizeOf_lt
    exact accepts_iff_satisfied r depth v hs
  have hall := forall_allOf_iff hall hpart
  have hany := forall_anyOf_iff hany hpart
  have href : (∀ s ∈ (d.reference.map Schema.ref).toList, r.accepts depth s v = true) ↔
      ∀ name, d.reference = some name → r.accepts depth (.ref name) v = true := by
    cases d.reference <;> simp
  rw [satisfied_iff, ← href, ← htype, ← hall, ← hany]
  simp only [Registry.accepts, Registry.matchesWithin_intersection, List.forall_mem_append,
    List.mem_singleton, forall_eq, and_assoc]
  termination_by sizeOf d

/-- **Making a schema of a definition preserves its meaning.**  If a definition has a schema at
all, the schema matches the values that satisfy the definition.  In particular nothing that is left
out of compositions on the way changes what they match. -/
theorem schema_preserves_meaning (r : Registry) (depth : Nat) (v : Json) :
    (∀ (d : Definition) s, d.schema = .ok s →
        (r.accepts depth s v = true ↔ d.Satisfied r depth v)) ∧
      ∀ opened parts,
        r.matchesWithin depth opened (.intersection parts) v =
          r.matchesWithin depth opened (.allOf parts) v ∧
        r.matchesWithin depth opened (.union parts) v =
          r.matchesWithin depth opened (.anyOf parts) v := by
  constructor
  · intro d s h
    exact accepts_iff_satisfied r depth v h
  · intro opened parts
    exact ⟨r.matchesWithin_intersection_eq_allOf depth opened v parts,
      r.matchesWithin_union_eq_anyOf depth opened v parts⟩

/-- A node with two nodes in it or null, but besides a node or not empty. -/
def pair : Definition where
  kindNames := some (.many ["object", "null"])
  required := some ["left", "right"]
  properties := some [
    ("left", { reference := some "Node" }),
    ("right", { reference := some "Node" })]
  anyOf := some [{ reference := some "Node" }, { allOf := some [{ minItems := some 1 }] }]

/-- The parts that compositions do not need are gone. -/
def pairSchema : Schema :=
  .allOf [
    .anyOf [.object [("left", .ref "Node"), ("right", .ref "Node")] ["left", "right"],
      .ofKind .null],
    .anyOf [.ref "Node", .array none (some 1) none]]

/-- Null has an arm of its own in the type, but it is left with no part of the other composition. -/
theorem null_not_satisfied_pair :
    pair.schema = .ok pairSchema ∧ ¬ pair.Satisfied .empty 8 .null := by
  have hschema : pair.schema = .ok pairSchema := rfl
  have hiff := (schema_preserves_meaning .empty 8 .null).1 pair pairSchema hschema
  refine ⟨hschema, fun h => ?_⟩
  have hresolve : ∀ entry, Registry.empty.resolve "Node" ≠ .ok entry := by
    intro entry hentry
    obtain ⟨last, -, hlookup, -⟩ := Registry.resolve_eq_ok_iff.mp hentry
    cases hlookup
  have haccepts := hiff.mpr h
  simp [pairSchema, Registry.accepts, Registry.matchesWithin_array, Registry.matchesWithin_ref,
    Json.form, hresolve] at haccepts

end Definition

end TreeSchema
