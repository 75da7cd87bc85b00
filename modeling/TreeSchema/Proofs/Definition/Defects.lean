/-
Definitions that have no schema.

What can be wrong with a definition itself falls into two classes.

* A `KindDefect` is about kinds and compositions: a `type` that names no kind or is an empty list,
  keywords about values of different kinds or of another kind than the `type`, a composition without
  parts.
* A `ShapeDefect` is about what the shape keywords say: a pattern that is no regular expression, or
  bounds of which the lower one exceeds the upper one.

One would have it that a definition has no schema just when it, or a definition in it, is malformed
in one of these ways.  But where the `type` is a list of kinds and the shape keywords are about none
of these, the shape keywords constrain nothing.  Then no schema is made of them, and what is wrong
with them or inside of them is never noticed (`hasSchema_not_iff_malformed`).  With the shape
keywords of such definitions left out, the rule is exact (`hasNoSchema_iff`).
-/
import TreeSchema.Proofs.Definition.Meaning

namespace TreeSchema

open Relation

/-- The names of kinds in a `type`, one or several. -/
def KindNames.toList : KindNames → List String
  | .one name => [name]
  | .many names => names

namespace Definition

/-! ### What can be wrong -/

/-- The kinds or the compositions of a definition make no sense. -/
inductive KindDefect (d : Definition) : Prop where
  | unknownKind {names : KindNames} {name : String} (h : d.kindNames = some names)
      (hmem : name ∈ names.toList) (hname : Kind.ofName? name = none)
  | noKinds (h : d.kindNames = some (.many []))
  | noAllOf (h : d.allOf = some [])
  | noAnyOf (h : d.anyOf = some [])
  /-- Two keywords are about values of different kinds. -/
  | conflict {first second : Keyword} {k k' : Kind} (hfirst : d.has first = true)
      (hk : first.impliedKind? = some k) (hsecond : d.has second = true)
      (hk' : second.impliedKind? = some k') (hne : k ≠ k')
  /-- A keyword is about values of another kind than the `type`. -/
  | misplaced {name : String} {kind k : Kind} {keyword : Keyword}
      (h : d.kindNames = some (.one name)) (hname : Kind.ofName? name = some kind)
      (hhas : d.has keyword = true) (hk : keyword.impliedKind? = some k)
      (hnot : kind.within k = false)

/-- The shape keywords of a definition make no sense. -/
inductive ShapeDefect (d : Definition) : Prop where
  | pattern {source : String} (h : d.pattern = some source)
      (hsource : Pattern.ofSource? source = none)
  | lengths {least most : Nat} (hleast : d.minItems = some least) (hmost : d.maxItems = some most)
      (hlt : most < least)
  | bounds {minimum maximum : Binary64} (hminimum : d.minimum = some minimum)
      (hmaximum : d.maximum = some maximum) (hlt : maximum.precedes minimum = true)

/-- Something is wrong with a definition itself. -/
def Malformed (d : Definition) : Prop := d.KindDefect ∨ d.ShapeDefect

/-- The shape keywords constrain something, unless the `type` is a list of kinds none of which
they are about. -/
def ShapeMatters (d : Definition) : Prop :=
  ∀ names, d.kindNames = some (.many names) →
    ∃ name ∈ names, ∃ kind, Kind.ofName? name = some kind ∧ agrees kind d.implied = true

/-- Something is wrong with a definition itself, and not only with shape keywords that constrain
nothing. -/
def Flawed (d : Definition) : Prop := d.KindDefect ∨ d.ShapeMatters ∧ d.ShapeDefect

/-! ### Definitions in definitions -/

/-- The first definition stands in a shape keyword of the second one. -/
inductive InShapeOf (sub d : Definition) : Prop where
  | property {properties : List (String × Definition)} {name : String}
      (h : d.properties = some properties) (hmem : (name, sub) ∈ properties) : InShapeOf sub d
  | item (h : d.items = some sub) : InShapeOf sub d

/-- The first definition is a part of a composition in the second one. -/
inductive ComposedIn (sub d : Definition) : Prop where
  | allOf {parts : List Definition} (h : d.allOf = some parts) (hmem : sub ∈ parts) :
      ComposedIn sub d
  | anyOf {parts : List Definition} (h : d.anyOf = some parts) (hmem : sub ∈ parts) :
      ComposedIn sub d

/-- The first definition stands in the second one, and not only in shape keywords that constrain
nothing. -/
def TakenUpIn (sub d : Definition) : Prop :=
  d.ShapeMatters ∧ sub.InShapeOf d ∨ sub.ComposedIn d

lemma TakenUpIn.partOf {sub d : Definition} (h : sub.TakenUpIn d) : sub.PartOf d := by
  rcases h with ⟨-, hproperty | hitem⟩ | hall | hany
  · exact .property hproperty ‹_›
  · exact .item hitem
  · exact .allOf hall ‹_›
  · exact .anyOf hany ‹_›

/-- There is a schema for the definition. -/
def HasSchema (d : Definition) : Prop := ∃ s, d.Defines s

lemma exists_schema_eq_error_iff {d : Definition} :
    (∃ why, d.schema = .error why) ↔ ¬ d.HasSchema := by
  unfold HasSchema Defines
  cases d.schema <;> simp

variable {d : Definition} {kind : Option Kind}

/-! ### The shape keywords -/

lemma exists_patternOf_iff :
    (∃ pattern, d.patternOf = .ok pattern) ↔
      ∀ source, d.pattern = some source → Pattern.ofSource? source ≠ none := by
  unfold patternOf
  cases d.pattern with
  | none => simp
  | some source => cases hsource : Pattern.ofSource? source <;> simp [hsource]

lemma constraint_flaw?_eq_none_iff {pattern : Option Pattern} :
    (d.constraint kind pattern).flaw? = none ↔
      ∀ minimum maximum, d.minimum = some minimum → d.maximum = some maximum →
        maximum.precedes minimum = false := by
  simp only [Constraint.flaw?, constraint]
  cases d.minimum <;> cases d.maximum <;> simp

/-- The constraint to a value as a whole can be had if its pattern and its bounds make sense. -/
lemma exists_leafSchemas_iff :
    (∃ leaves, d.leafSchemas kind = .ok leaves) ↔
      (∀ source, d.pattern = some source → Pattern.ofSource? source ≠ none) ∧
        ∀ minimum maximum, d.minimum = some minimum → d.maximum = some maximum →
          maximum.precedes minimum = false := by
  simp only [leafSchemas]
  split
  · simp only [map_eq_ok_iff, leafSchema_eq_ok_iff, constraint_flaw?_eq_none_iff,
      ← exists_patternOf_iff]
    constructor
    · rintro ⟨_, _, ⟨pattern, hpattern, hbounds, -⟩, -⟩
      exact ⟨⟨pattern, hpattern⟩, hbounds⟩
    · rintro ⟨⟨pattern, hpattern⟩, hbounds⟩
      exact ⟨_, _, ⟨pattern, hpattern, hbounds, rfl⟩, rfl⟩
  · next hnone =>
    -- without such a keyword there is nothing that could make no sense
    simp only [hasLeafKeyword, has, value?, Bool.or_eq_true, Option.isSome_iff_ne_none, not_or,
      not_not] at hnone
    obtain ⟨-, ⟨⟨hpattern, -⟩, hminimum⟩, -⟩ := hnone
    simp [hpattern, hminimum]

lemma lengthFlaw?_eq_none_iff {least most : Option Nat} :
    Schema.lengthFlaw? least most = none ↔
      ∀ n m, least = some n → most = some m → n ≤ m := by
  cases least <;> cases most <;> simp [Schema.lengthFlaw?]

lemma exists_objectSchema_iff (hitems : d.items = none) :
    (∃ s, d.objectSchema d.nested = .ok s) ↔
      ∀ sub : Definition, sub.InShapeOf d → sub.HasSchema := by
  have hobject : (∃ s, d.objectSchema d.nested = .ok s) ↔
      ∃ properties, List.Forall₂ DefinesNamed (d.properties.getD []) properties := by
    simp only [objectSchema_eq_ok_iff]
    exact ⟨fun ⟨_, properties, h, _⟩ => ⟨properties, h⟩,
      fun ⟨properties, h⟩ => ⟨_, properties, h, rfl⟩⟩
  rw [hobject, exists_forall₂_iff]
  constructor
  · rintro h sub (⟨hproperties, hmem⟩ | hitem)
    · obtain ⟨defined, -, hdefines⟩ := h _ (by simpa [hproperties] using hmem)
      exact ⟨_, hdefines⟩
    · simp [hitems] at hitem
  · intro h entry hentry
    cases hproperties : d.properties with
    | none => simp [hproperties] at hentry
    | some properties =>
      rw [hproperties] at hentry
      obtain ⟨s, hs⟩ := h entry.2 (.property hproperties hentry)
      exact ⟨(entry.1, s), rfl, hs⟩

lemma exists_arraySchema_iff (hproperties : d.properties = none) :
    (∃ s, d.arraySchema d.nested = .ok s) ↔
      Schema.lengthFlaw? d.minItems d.maxItems = none ∧
        ∀ sub : Definition, sub.InShapeOf d → sub.HasSchema := by
  simp only [arraySchema_eq_ok_iff]
  constructor
  · rintro ⟨s, items, hitems, hlength, -⟩
    refine ⟨hlength, ?_⟩
    rintro sub (⟨h, -⟩ | h)
    · simp [hproperties] at h
    · rw [h] at hitems
      cases hitems with
      | some hs => exact ⟨_, hs⟩
  · rintro ⟨hlength, hsub⟩
    cases hitems : d.items with
    | none => exact ⟨_, none, .none, hlength, rfl⟩
    | some item =>
      obtain ⟨s, hs⟩ := hsub item (.item hitems)
      exact ⟨_, some s, .some hs, hlength, rfl⟩

/-- The schema for the parts of a value can be had if the lengths make sense and the parts have
schemas. -/
lemma exists_shapeSchemas_iff (hfits : d.Fits kind) :
    (∃ shapes, d.shapeSchemas d.nested kind = .ok shapes) ↔
      Schema.lengthFlaw? d.minItems d.maxItems = none ∧
        ∀ sub : Definition, sub.InShapeOf d → sub.HasSchema := by
  unfold shapeSchemas
  split
  · obtain ⟨hleast, -, hitems⟩ := hfits.array (by simp)
    rw [← exists_objectSchema_iff hitems]
    simp [hleast, Schema.lengthFlaw?]
  · obtain ⟨-, hproperties⟩ := hfits.object (by simp)
    rw [← exists_arraySchema_iff hproperties]
    simp
  · next hobject harray =>
    obtain ⟨hleast, -, hitems⟩ := hfits.array harray
    obtain ⟨-, hproperties⟩ := hfits.object hobject
    have hnone : ∀ sub : Definition, ¬ sub.InShapeOf d := by
      rintro sub (⟨h, -⟩ | h)
      · simp [hproperties] at h
      · simp [hitems] at h
    simp [hleast, Schema.lengthFlaw?, hnone]

lemma not_shapeDefect_iff :
    ¬ d.ShapeDefect ↔
      (∀ source, d.pattern = some source → Pattern.ofSource? source ≠ none) ∧
        Schema.lengthFlaw? d.minItems d.maxItems = none ∧
        ∀ minimum maximum, d.minimum = some minimum → d.maximum = some maximum →
          maximum.precedes minimum = false := by
  rw [lengthFlaw?_eq_none_iff]
  constructor
  · intro h
    refine ⟨fun source hd hsource => h (.pattern hd hsource), fun n m hn hm => ?_,
      fun n m hn hm => ?_⟩
    · exact Nat.le_of_not_lt fun hlt => h (.lengths hn hm hlt)
    · exact Bool.eq_false_iff.mpr fun hlt => h (.bounds hn hm hlt)
  · rintro ⟨hpattern, hlengths, hbounds⟩ (⟨h, hsource⟩ | ⟨hn, hm, hlt⟩ | ⟨hn, hm, hlt⟩)
    · exact hpattern _ h hsource
    · exact absurd (hlengths _ _ hn hm) (Nat.not_le_of_lt hlt)
    · simp [hbounds _ _ hn hm] at hlt

/-- What the shape keywords ask can be said if they and what is in them make sense. -/
lemma exists_kindSchema_iff (hfits : d.Fits kind) :
    (∃ s, d.kindSchema d.nested kind = .ok s) ↔
      ¬ d.ShapeDefect ∧ ∀ sub : Definition, sub.InShapeOf d → sub.HasSchema := by
  have hkind : (∃ s, d.kindSchema d.nested kind = .ok s) ↔
      (∃ shapes, d.shapeSchemas d.nested kind = .ok shapes) ∧
        ∃ leaves, d.leafSchemas kind = .ok leaves := by
    simp only [kindSchema_eq_ok_iff]
    exact ⟨fun ⟨_, shapes, hshapes, leaves, hleaves, _⟩ => ⟨⟨shapes, hshapes⟩, leaves, hleaves⟩,
      fun ⟨⟨shapes, hshapes⟩, leaves, hleaves⟩ => ⟨_, shapes, hshapes, leaves, hleaves, rfl⟩⟩
  rw [hkind, exists_shapeSchemas_iff hfits, exists_leafSchemas_iff, not_shapeDefect_iff]
  constructor
  · rintro ⟨⟨hlengths, hsub⟩, hpattern, hbounds⟩
    exact ⟨⟨hpattern, hlengths, hbounds⟩, hsub⟩
  · rintro ⟨⟨hpattern, hlengths, hbounds⟩, hsub⟩
    exact ⟨⟨hlengths, hsub⟩, hpattern, hbounds⟩

/-! ### The kinds -/

/-- All keywords about values of one kind are about the implied one. -/
def Uniform (d : Definition) : Prop :=
  ∀ keyword k, d.has keyword = true → keyword.impliedKind? = some k → d.implied = some k

/-- A kind is implied by some keyword. -/
lemma exists_keyword_of_implied {k : Kind} (h : d.implied = some k) :
    ∃ keyword, d.has keyword = true ∧ keyword.impliedKind? = some k := by
  obtain ⟨⟨keyword, _⟩, hhead, rfl⟩ := Option.map_eq_some_iff.mp h
  exact ⟨keyword, mem_shapeKeywords_iff.mp (List.mem_of_mem_head? hhead)⟩

lemma exists_impliedKind?_iff : (∃ k, d.impliedKind? = .ok k) ↔ d.Uniform := by
  constructor
  · rintro ⟨k, hk⟩
    exact (impliedKind?_eq_ok hk).2
  · intro h
    unfold impliedKind?
    split
    · exact ⟨none, rfl⟩
    · next keyword first rest hcons =>
      have hfirst : d.implied = some first := by simp [implied, hcons]
      split
      · next other second hfind =>
        -- a second kind would be implied besides the first one
        have hmem : (other, second) ∈ d.shapeKeywords := by
          rw [hcons]
          exact List.mem_cons_of_mem _ (List.mem_of_find?_eq_some hfind)
        obtain ⟨hhas, hkind⟩ := mem_shapeKeywords_iff.mp hmem
        have hne := List.find?_some hfind
        simp [Option.some.inj (hfirst.symm.trans (h other second hhas hkind))] at hne
      · exact ⟨some first, rfl⟩

lemma uniform_iff : d.Uniform ↔ ∀ first k second k', d.has first = true →
    first.impliedKind? = some k → d.has second = true → second.impliedKind? = some k' → k = k' := by
  constructor
  · intro h first k second k' hfirst hk hsecond hk'
    exact Option.some.inj ((h first k hfirst hk).symm.trans (h second k' hsecond hk'))
  · intro h keyword k hhas hk
    cases himplied : d.implied with
    | none =>
      have hmem := mem_shapeKeywords_iff.mpr ⟨hhas, hk⟩
      simp only [implied, Option.map_eq_none_iff, List.head?_eq_none_iff] at himplied
      simp [himplied] at hmem
    | some k' =>
      obtain ⟨other, hother, hk'⟩ := exists_keyword_of_implied himplied
      rw [h other k' keyword k hother hk' hhas hk]

/-- A kind agrees with the implied one if every keyword is about values of that kind. -/
lemma agrees_implied_iff (h : d.Uniform) {k : Kind} :
    agrees k d.implied = true ↔
      ∀ keyword k', d.has keyword = true → keyword.impliedKind? = some k' → k.within k' = true := by
  constructor
  · intro hagrees keyword k' hhas hk'
    simpa [h keyword k' hhas hk', agrees] using hagrees
  · intro hall
    cases himplied : d.implied with
    | none => rfl
    | some k' =>
      obtain ⟨keyword, hhas, hk'⟩ := exists_keyword_of_implied himplied
      exact hall keyword k' hhas hk'

/-! ### The type -/

section Typed

variable {name : String} {names : List String}

/-- A single kind and the shape keywords have a schema together if the keywords are about that kind
and make sense. -/
lemma exists_typeSchema_one_iff (hfits : d.Fits d.implied)
    (hnames : d.kindNames = some (.one name)) :
    (∃ s, d.typeSchema d.nested d.implied = .ok s) ↔
      ∃ k, Kind.ofName? name = some k ∧ agrees k d.implied = true ∧
        ¬ d.ShapeDefect ∧ ∀ sub : Definition, sub.InShapeOf d → sub.HasSchema := by
  simp only [typeSchema_one_eq_ok_iff hnames]
  rw [exists_comm]
  refine exists_congr fun k => ?_
  rw [exists_and_left, exists_and_left]
  refine and_congr_right fun _ => and_congr_right fun hagrees => ?_
  exact exists_kindSchema_iff (fits_of_agrees hfits hagrees)

/-- An arm has a schema if its name is that of a kind and the shape keywords, if they are about that
kind, make sense. -/
lemma exists_armSchema_iff (hfits : d.Fits d.implied) :
    (∃ s, d.armSchema d.nested d.implied name = .ok s) ↔
      ∃ k, Kind.ofName? name = some k ∧ (agrees k d.implied = true →
        ¬ d.ShapeDefect ∧ ∀ sub : Definition, sub.InShapeOf d → sub.HasSchema) := by
  simp only [armSchema_eq_ok_iff]
  rw [exists_comm]
  refine exists_congr fun k => ?_
  rw [exists_and_left]
  refine and_congr_right fun _ => ?_
  split
  · next hagrees => simp [hagrees, exists_kindSchema_iff (fits_of_agrees hfits hagrees)]
  · next hagrees => simp [hagrees]

/-- The arms of several kinds have schemas if the names are those of kinds and the shape keywords
make sense where they matter. -/
lemma exists_typeSchema_many_iff (hfits : d.Fits d.implied)
    (hnames : d.kindNames = some (.many names)) :
    (∃ s, d.typeSchema d.nested d.implied = .ok s) ↔
      names ≠ [] ∧ (∀ name ∈ names, Kind.ofName? name ≠ none) ∧
        (d.ShapeMatters →
          ¬ d.ShapeDefect ∧ ∀ sub : Definition, sub.InShapeOf d → sub.HasSchema) := by
  have hmatters : d.ShapeMatters ↔
      ∃ name ∈ names, ∃ k, Kind.ofName? name = some k ∧ agrees k d.implied = true := by
    simp [ShapeMatters, hnames]
  have harms : (∃ s, d.typeSchema d.nested d.implied = .ok s) ↔
      names ≠ [] ∧ ∀ name ∈ names, ∃ s, d.armSchema d.nested d.implied name = .ok s := by
    simp only [typeSchema_many_eq_ok_iff hnames, ← exists_forall₂_iff]
    exact ⟨fun ⟨_, hne, arms, harms, _⟩ => ⟨hne, arms, harms⟩,
      fun ⟨hne, arms, harms⟩ => ⟨_, hne, arms, harms, rfl⟩⟩
  rw [harms, hmatters]
  refine and_congr_right fun _ => ?_
  simp only [exists_armSchema_iff hfits]
  constructor
  · intro h
    refine ⟨fun name hmem hnone => ?_, ?_⟩
    · obtain ⟨k, hk, -⟩ := h name hmem
      simp [hnone] at hk
    · rintro ⟨name, hmem, k, hk, hagrees⟩
      obtain ⟨k', hk', hsound⟩ := h name hmem
      cases hk.symm.trans hk'
      exact hsound hagrees
  · rintro ⟨hkinds, hsound⟩ name hmem
    obtain ⟨k, hk⟩ := Option.ne_none_iff_exists'.mp (hkinds name hmem)
    exact ⟨k, hk, fun hagrees => hsound ⟨name, hmem, k, hk, hagrees⟩⟩

end Typed

/-- The `type` and the shape keywords have a schema together if the names are those of kinds, a
single one agrees with the keywords, and the shape keywords make sense where they matter. -/
lemma exists_typeSchema_iff (himplied : d.impliedKind? = .ok kind) :
    (∃ s, d.typeSchema d.nested kind = .ok s) ↔
      (∀ names, d.kindNames = some names →
        names ≠ .many [] ∧ ∀ name ∈ names.toList, Kind.ofName? name ≠ none) ∧
      (∀ name k, d.kindNames = some (.one name) → Kind.ofName? name = some k →
        agrees k d.implied = true) ∧
      (d.ShapeMatters → ¬ d.ShapeDefect ∧ ∀ sub : Definition, sub.InShapeOf d → sub.HasSchema) := by
  have hfits := fits_implied himplied
  obtain rfl := (impliedKind?_eq_ok himplied).1
  cases hnames : d.kindNames with
  | none =>
    rw [typeSchema_of_none hnames, exists_kindSchema_iff hfits]
    simp [ShapeMatters, hnames]
  | some names =>
    cases names with
    | one name =>
      rw [exists_typeSchema_one_iff hfits hnames]
      cases hname : Kind.ofName? name with
      | none => simp [KindNames.toList, hname]
      | some k =>
        have hone : (∀ name' k', name = name' → Kind.ofName? name' = some k' →
            agrees k' d.implied = true) ↔ agrees k d.implied = true :=
          ⟨fun h => h name k rfl hname,
            fun h _ _ heq hk => Option.some.inj (hname.symm.trans (heq ▸ hk)) ▸ h⟩
        simp [KindNames.toList, hname, ShapeMatters, hnames, hone]
    | many names =>
      rw [exists_typeSchema_many_iff hfits hnames]
      simp [KindNames.toList, and_assoc]

/-! ### Compositions -/

/-- A composition has a schema if it has parts and these have schemas. -/
lemma exists_compositionSchema_iff {keyword : ListKeyword} {compose : List Schema → Schema}
    {step : Nat → Schema.Step} {parts : Option (List Definition)} :
    (∃ ss, compositionSchema keyword compose (parts.map (partSchemas step 0)) = .ok ss) ↔
      parts ≠ some [] ∧ ∀ ds, parts = some ds → ∀ sub ∈ ds, sub.HasSchema := by
  simp only [compositionSchema_eq_ok_iff]
  cases parts with
  | none => simp
  | some ds =>
    have hparts : (∃ ss, List.Forall₂ Defines ds ss) ↔ ∀ sub ∈ ds, sub.HasSchema :=
      exists_forall₂_iff
    simp only [← hparts, Option.some.injEq, reduceCtorEq, false_and, false_or, ne_eq, forall_eq']
    constructor
    · rintro ⟨_, _, ss, rfl, hss, hne, -⟩
      refine ⟨?_, ss, hss⟩
      rintro rfl
      cases hss
      exact hne rfl
    · rintro ⟨hne, ss, hss⟩
      refine ⟨_, ds, ss, rfl, hss, ?_, rfl⟩
      rintro rfl
      cases hss
      exact hne rfl

/-! ### The whole definition -/

lemma not_kindDefect_iff :
    ¬ d.KindDefect ↔
      (∀ names, d.kindNames = some names →
        names ≠ .many [] ∧ ∀ name ∈ names.toList, Kind.ofName? name ≠ none) ∧
      d.allOf ≠ some [] ∧ d.anyOf ≠ some [] ∧ d.Uniform ∧
      (∀ name k, d.kindNames = some (.one name) → Kind.ofName? name = some k →
        agrees k d.implied = true) := by
  constructor
  · intro h
    have huniform : d.Uniform := uniform_iff.mpr fun first k second k' hfirst hk hsecond hk' =>
      not_not.mp fun hne => h (.conflict hfirst hk hsecond hk' hne)
    refine ⟨?_, fun hall => h (.noAllOf hall), fun hany => h (.noAnyOf hany), huniform, ?_⟩
    · rintro names hnames
      refine ⟨?_, fun name hmem hnone => h (.unknownKind hnames hmem hnone)⟩
      rintro rfl
      exact h (.noKinds hnames)
    · intro name k hnames hname
      refine (agrees_implied_iff huniform).mpr fun keyword k' hhas hk' => ?_
      exact eq_true_of_ne_false fun hnot => h (.misplaced hnames hname hhas hk' hnot)
  · rintro ⟨hkinds, hall, hany, huniform, hagrees⟩ hdefect
    cases hdefect with
    | unknownKind hnames hmem hnone => exact (hkinds _ hnames).2 _ hmem hnone
    | noKinds hnames => exact (hkinds _ hnames).1 rfl
    | noAllOf h => exact hall h
    | noAnyOf h => exact hany h
    | conflict hfirst hk hsecond hk' hne =>
      exact hne (uniform_iff.mp huniform _ _ _ _ hfirst hk hsecond hk')
    | misplaced hnames hname hhas hk hnot =>
      have hwithin := (agrees_implied_iff huniform).mp (hagrees _ _ hnames hname) _ _ hhas hk
      simp [hnot] at hwithin

/-- A definition has a schema if its three groups of keywords have schemas. -/
lemma hasSchema_iff_groups :
    d.HasSchema ↔
      (∃ kind, d.impliedKind? = .ok kind ∧ ∃ s, d.typeSchema d.nested kind = .ok s) ∧
        (∃ ss, compositionSchema .allOf .intersection d.nested.allOf = .ok ss) ∧
        ∃ ss, compositionSchema .anyOf .union d.nested.anyOf = .ok ss := by
  simp only [HasSchema, Defines, schema_eq_ok_iff]
  constructor
  · rintro ⟨_, kind, himplied, typed, htyped, all, hall, any, hany, -⟩
    exact ⟨⟨kind, himplied, typed, htyped⟩, ⟨all, hall⟩, any, hany⟩
  · rintro ⟨⟨kind, himplied, typed, htyped⟩, ⟨all, hall⟩, any, hany⟩
    exact ⟨_, kind, himplied, typed, htyped, all, hall, any, hany, rfl⟩

/-- The first group has a schema if the keywords imply one kind and fit the `type`. -/
lemma exists_typed_iff :
    (∃ kind, d.impliedKind? = .ok kind ∧ ∃ s, d.typeSchema d.nested kind = .ok s) ↔
      d.Uniform ∧
      (∀ names, d.kindNames = some names →
        names ≠ .many [] ∧ ∀ name ∈ names.toList, Kind.ofName? name ≠ none) ∧
      (∀ name k, d.kindNames = some (.one name) → Kind.ofName? name = some k →
        agrees k d.implied = true) ∧
      (d.ShapeMatters → ¬ d.ShapeDefect ∧ ∀ sub : Definition, sub.InShapeOf d → sub.HasSchema) := by
  rw [← exists_impliedKind?_iff]
  constructor
  · rintro ⟨kind, himplied, hs⟩
    exact ⟨⟨kind, himplied⟩, (exists_typeSchema_iff himplied).mp hs⟩
  · rintro ⟨⟨kind, himplied⟩, hs⟩
    exact ⟨kind, himplied, (exists_typeSchema_iff himplied).mpr hs⟩

/-- What is taken up stands in shape keywords that matter or in one of the compositions. -/
lemma forall_takenUpIn_iff {P : Definition → Prop} :
    (∀ sub : Definition, sub.TakenUpIn d → P sub) ↔
      (d.ShapeMatters → ∀ sub : Definition, sub.InShapeOf d → P sub) ∧
        (∀ ds, d.allOf = some ds → ∀ sub ∈ ds, P sub) ∧
        ∀ ds, d.anyOf = some ds → ∀ sub ∈ ds, P sub := by
  constructor
  · intro h
    exact ⟨fun hmatters sub hshape => h sub (.inl ⟨hmatters, hshape⟩),
      fun _ hds sub hmem => h sub (.inr (.allOf hds hmem)),
      fun _ hds sub hmem => h sub (.inr (.anyOf hds hmem))⟩
  · rintro ⟨hshape, hall, hany⟩ sub (⟨hmatters, hsub⟩ | ⟨hds, hmem⟩ | ⟨hds, hmem⟩)
    · exact hshape hmatters sub hsub
    · exact hall _ hds sub hmem
    · exact hany _ hds sub hmem

/-- A definition has a schema if nothing is wrong with it and the definitions taken up in it have
schemas. -/
lemma hasSchema_iff :
    d.HasSchema ↔ ¬ d.Flawed ∧ ∀ sub : Definition, sub.TakenUpIn d → sub.HasSchema := by
  have hflawed : ¬ d.Flawed ↔ ¬ d.KindDefect ∧ (d.ShapeMatters → ¬ d.ShapeDefect) := by
    simp [Flawed]
  rw [hasSchema_iff_groups, exists_typed_iff, hflawed, forall_takenUpIn_iff, not_kindDefect_iff]
  simp only [nested, exists_compositionSchema_iff]
  -- both sides say the same of the groups, this one group by group and that one defects first
  constructor
  · rintro ⟨⟨huniform, hkinds, hagrees, hshape⟩, ⟨hall, hallSub⟩, hany, hanySub⟩
    exact ⟨⟨⟨hkinds, hall, hany, huniform, hagrees⟩, fun hmatters => (hshape hmatters).1⟩,
      fun hmatters => (hshape hmatters).2, hallSub, hanySub⟩
  · rintro ⟨⟨⟨hkinds, hall, hany, huniform, hagrees⟩, hshape⟩, hshapeSub, hallSub, hanySub⟩
    exact ⟨⟨huniform, hkinds, hagrees, fun hmatters => ⟨hshape hmatters, hshapeSub hmatters⟩⟩,
      ⟨hall, hallSub⟩, hany, hanySub⟩

/-- **A definition has no schema just when something is wrong with it or with a definition that is
taken up in it, however deep.** -/
theorem hasNoSchema_iff (d : Definition) :
    (∃ why, d.schema = .error why) ↔
      ∃ q, ReflTransGen TakenUpIn q d ∧ q.Flawed := by
  rw [exists_schema_eq_error_iff]
  constructor
  · -- a definition in `d` is smaller than `d`
    induction hsize : sizeOf d using Nat.strongRecOn generalizing d with
    | _ size ih =>
      intro hnone
      rw [hasSchema_iff, not_and_or, not_not] at hnone
      rcases hnone with hflawed | hsub
      · exact ⟨d, .refl, hflawed⟩
      · obtain ⟨sub, hsub⟩ := not_forall.mp hsub
        obtain ⟨htaken, hnone⟩ := Classical.not_imp.mp hsub
        have hlt : sizeOf sub < size := hsize ▸ htaken.partOf.sizeOf_lt
        obtain ⟨q, hq, hflawed⟩ := ih _ hlt sub rfl hnone
        exact ⟨q, hq.tail htaken, hflawed⟩
  · -- what has a schema has nothing wrong in it, one step after the other
    rintro ⟨q, hq, hflawed⟩ hschema
    induction hq with
    | refl => exact (hasSchema_iff.mp hschema).1 hflawed
    | tail _ htaken ih => exact ih ((hasSchema_iff.mp hschema).2 _ htaken)

/-- A definition whose only shape keyword is idle: the property it describes has a composition
without parts, but the only kind it allows has no properties. -/
def idlyFlawed : Definition where
  kindNames := some (.many ["null"])
  properties := some [("left", { anyOf := some [] })]

/-- It does not take something malformed in a definition for it to have no schema, and a definition
may have one all the same. -/
theorem hasSchema_not_iff_malformed :
    ¬ ∀ d : Definition, (∃ why, d.schema = .error why) ↔
      ∃ q, ReflTransGen PartOf q d ∧ q.Malformed := by
  intro h
  have hpart : ({ anyOf := some [] } : Definition).PartOf idlyFlawed :=
    .property rfl List.mem_cons_self
  obtain ⟨why, hwhy⟩ := (h idlyFlawed).mpr ⟨_, .single hpart, .inl (.noAnyOf rfl)⟩
  have hschema : idlyFlawed.schema.isOk = true := by decide
  simp [hwhy, Except.isOk, Except.toBool] at hschema

end Definition

end TreeSchema
