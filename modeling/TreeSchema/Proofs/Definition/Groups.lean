/-
What the groups of keywords come to.

A definition becomes a schema group by group, and each group may fail.  This file tells, for
every step of that construction, what the schema looks like when the step succeeds.  The
schemas of nested definitions enter through `Definition.nested`, and the steps say of them
only that they are the schemas of the definitions at the same places.

The lemmas are all of the same form, `... = .ok s ↔ ...`, so that what a whole definition comes to
is found by rewriting.
-/
import TreeSchema.Definition.ToSchema
import TreeSchema.Proofs.Results

namespace TreeSchema

namespace Definition

open Schema (FlawAt Step)

variable {α : Type} {d : Definition} {kind : Option Kind} {name : String} {s : Schema}

/-! ### Checks -/

@[simp] lemma refuse_eq_ok_iff {flaw : Option Flaw} {u : Unit} :
    refuse flaw = .ok u ↔ flaw = none := by
  cases flaw <;> simp [refuse, fail]

@[simp] lemma fail_ne_ok {flaw : Flaw} {a : α} : (fail flaw : Except FlawAt α) ≠ .ok a := by
  simp [fail]

@[simp] lemma under_eq_ok_iff {step : Step} {result : Except FlawAt α} {a : α} :
    under step result = .ok a ↔ result = .ok a :=
  mapError_eq_ok_iff

lemma kindOfName_eq_ok_iff {kind : Kind} :
    kindOfName name = .ok kind ↔ Kind.ofName? name = some kind := by
  unfold kindOfName
  split <;> simp_all

/-! ### Nested definitions -/

lemma sizeOf_property_lt {d sub : Definition} {properties : List (String × Definition)}
    {name : String} (h : d.properties = some properties) (hmem : (name, sub) ∈ properties) :
    sizeOf sub < sizeOf d := by
  have hlt := List.sizeOf_lt_of_mem hmem
  cases d
  simp_all
  omega

lemma sizeOf_item_lt {d item : Definition} (h : d.items = some item) : sizeOf item < sizeOf d := by
  cases d
  simp_all
  omega

lemma sizeOf_allOf_lt {d part : Definition} {parts : List Definition} (h : d.allOf = some parts)
    (hmem : part ∈ parts) : sizeOf part < sizeOf d := by
  have hlt := List.sizeOf_lt_of_mem hmem
  cases d
  simp_all
  omega

lemma sizeOf_anyOf_lt {d part : Definition} {parts : List Definition} (h : d.anyOf = some parts)
    (hmem : part ∈ parts) : sizeOf part < sizeOf d := by
  have hlt := List.sizeOf_lt_of_mem hmem
  cases d
  simp_all
  omega

/-- The first definition stands in the second one. -/
inductive PartOf (sub d : Definition) : Prop where
  | property {properties : List (String × Definition)} {name : String}
      (h : d.properties = some properties) (hmem : (name, sub) ∈ properties) : PartOf sub d
  | item (h : d.items = some sub) : PartOf sub d
  | allOf {parts : List Definition} (h : d.allOf = some parts) (hmem : sub ∈ parts) : PartOf sub d
  | anyOf {parts : List Definition} (h : d.anyOf = some parts) (hmem : sub ∈ parts) : PartOf sub d

lemma PartOf.sizeOf_lt {sub d : Definition} (h : sub.PartOf d) : sizeOf sub < sizeOf d := by
  cases h with
  | property h hmem => exact sizeOf_property_lt h hmem
  | item h => exact sizeOf_item_lt h
  | allOf h hmem => exact sizeOf_allOf_lt h hmem
  | anyOf h hmem => exact sizeOf_anyOf_lt h hmem

/-- What the definitions in a definition define. -/
def nested (d : Definition) : Nested where
  properties := d.properties.map propertySchemas
  items := d.items.map fun item => under .items item.schema
  allOf := d.allOf.map (partSchemas .allOf 0)
  anyOf := d.anyOf.map (partSchemas .anyOf 0)

lemma schema_eq_schemaWith (d : Definition) : d.schema = d.schemaWith d.nested := by
  obtain ⟨_, _, _, _, _, _, _, properties, _, items, _, _, allOf, anyOf⟩ := d
  cases properties <;> cases items <;> cases allOf <;> cases anyOf <;> rfl

/-- Definitions and the schemas that they define. -/
abbrev Defines (d : Definition) (s : Schema) : Prop := d.schema = .ok s

/-- A named definition and the schema that it defines, under the same name. -/
def DefinesNamed (entry : String × Definition) (defined : String × Schema) : Prop :=
  entry.1 = defined.1 ∧ entry.2.Defines defined.2

lemma propertySchemas_eq_ok_iff {entries : List (String × Definition)}
    {schemas : List (String × Schema)} :
    propertySchemas entries = .ok schemas ↔ List.Forall₂ DefinesNamed entries schemas := by
  induction entries generalizing schemas with
  | nil => simp [propertySchemas, eq_comm]
  | cons entry rest ih =>
    obtain ⟨name, d⟩ := entry
    rw [propertySchemas]
    constructor
    · intro h
      split at h
      · cases h
      · next s hs =>
        obtain ⟨schemas, hrest, rfl⟩ := map_eq_ok_iff.mp h
        exact .cons ⟨rfl, under_eq_ok_iff.mp hs⟩ (ih.mp hrest)
    · rintro (_ | @⟨_, defined, _, schemas, ⟨hname, hs⟩, hrest⟩)
      have hs : under (.property name) d.schema = .ok defined.2 := under_eq_ok_iff.mpr hs
      rw [hs, ih.mpr hrest, show name = defined.1 from hname]
      rfl

lemma partSchemas_eq_ok_iff {step : Nat → Step} {index : Nat} {parts : List Definition}
    {schemas : List Schema} :
    partSchemas step index parts = .ok schemas ↔ List.Forall₂ Defines parts schemas := by
  induction parts generalizing index schemas with
  | nil => simp [partSchemas, eq_comm]
  | cons part rest ih =>
    rw [partSchemas]
    constructor
    · intro h
      split at h
      · cases h
      · next s hs =>
        obtain ⟨schemas, hrest, rfl⟩ := map_eq_ok_iff.mp h
        exact .cons (under_eq_ok_iff.mp hs) (ih.mp hrest)
    · rintro (_ | @⟨_, s, _, schemas, hs, hrest⟩)
      have hs : under (step index) part.schema = .ok s := under_eq_ok_iff.mpr hs
      rw [hs, ih.mpr hrest]
      rfl

/-! ### The implied kind -/

/-- The kind that the keywords are about: that of the first one that is about a single kind. -/
def implied (d : Definition) : Option Kind := d.shapeKeywords.head?.map Prod.snd

lemma mem_shapeKeywords_iff {keyword : Keyword} {kind : Kind} :
    (keyword, kind) ∈ d.shapeKeywords ↔
      d.has keyword = true ∧ keyword.impliedKind? = some kind := by
  simp only [shapeKeywords, List.mem_filterMap, List.mem_filter, Option.map_eq_some_iff,
    Prod.mk.injEq]
  constructor
  · rintro ⟨_, ⟨-, hhas⟩, _, hkind, rfl, rfl⟩
    exact ⟨hhas, hkind⟩
  · rintro ⟨hhas, hkind⟩
    exact ⟨keyword, ⟨(Keyword.mem_implying_iff keyword).mpr (by simp [hkind]), hhas⟩, kind,
      hkind, rfl, rfl⟩

/-- When no two keywords are about different kinds, each of them is about the implied kind. -/
lemma impliedKind?_eq_ok (h : d.impliedKind? = .ok kind) :
    kind = d.implied ∧ ∀ keyword kind', d.has keyword = true →
      keyword.impliedKind? = some kind' → d.implied = some kind' := by
  unfold impliedKind? at h
  split at h
  · next hnil =>
    cases h
    refine ⟨by simp [implied, hnil], fun keyword kind' hhas hkind => ?_⟩
    have hmem := mem_shapeKeywords_iff.mpr ⟨hhas, hkind⟩
    simp [hnil] at hmem
  · next keyword first rest hcons =>
    split at h
    · simp at h
    · next hsame =>
      -- no keyword behind the first one is about another kind
      cases h
      have himplied : d.implied = some first := by simp [implied, hcons]
      refine ⟨himplied.symm, fun keyword' kind' hhas hkind => ?_⟩
      have hmem := mem_shapeKeywords_iff.mpr ⟨hhas, hkind⟩
      rw [hcons] at hmem
      rcases List.mem_cons.mp hmem with heq | hrest
      · rw [himplied, (Prod.mk.inj heq).2]
      · have heq := List.find?_eq_none.mp hsame _ hrest
        simp only [bne_iff_ne, ne_eq, not_not] at heq
        rw [himplied, heq]

/-! ### Groups -/

lemma patternOf_eq_ok_iff {pattern : Option Pattern} :
    d.patternOf = .ok pattern ↔
      Option.Rel (fun source p => Pattern.ofSource? source = some p) d.pattern pattern := by
  unfold patternOf
  constructor
  · intro h
    split at h
    · next hnone =>
      cases h
      rw [hnone]
      exact .none
    · next source hsource =>
      split at h
      · next p hp =>
        cases h
        rw [hsource]
        exact .some hp
      · simp at h
  · intro h
    cases hd : d.pattern with
    | none =>
      rw [hd] at h
      cases h
      rfl
    | some source =>
      rw [hd] at h
      cases h with
      | some hp => simp [hp]

/-- What the keywords ask of a value as a whole. -/
def constraint (d : Definition) (kind : Option Kind) (pattern : Option Pattern) : Constraint :=
  ⟨kind, pattern, d.choices, d.minimum, d.maximum⟩

lemma leafSchema_eq_ok_iff :
    d.leafSchema kind = .ok s ↔ ∃ pattern, d.patternOf = .ok pattern ∧
      (d.constraint kind pattern).flaw? = none ∧ .leaf (d.constraint kind pattern) = s := by
  simp [leafSchema, constraint]

lemma objectSchema_eq_ok_iff :
    d.objectSchema d.nested = .ok s ↔ ∃ properties,
      List.Forall₂ DefinesNamed (d.properties.getD []) properties ∧
        .object properties (Schema.requireAll (d.required.getD [])) = s := by
  have hnested : d.nested.properties.getD (.ok []) = propertySchemas (d.properties.getD []) := by
    cases hproperties : d.properties <;> simp [nested, hproperties, propertySchemas]
  simp [objectSchema, hnested, propertySchemas_eq_ok_iff]

lemma arraySchema_eq_ok_iff :
    d.arraySchema d.nested = .ok s ↔ ∃ items, Option.Rel Defines d.items items ∧
      Schema.lengthFlaw? d.minItems d.maxItems = none ∧
        .array items d.minItems d.maxItems = s := by
  unfold arraySchema
  cases hitems : d.items with
  | none =>
    simp only [nested, hitems, Option.map_none, pure_bind, bind_eq_ok_iff, refuse_eq_ok_iff,
      pure_eq_ok_iff, exists_const]
    constructor
    · intro h
      exact ⟨none, .none, h⟩
    · rintro ⟨items, hitems, h⟩
      cases hitems
      exact h
  | some item =>
    simp only [nested, hitems, Option.map_some, bind_eq_ok_iff, map_eq_ok_iff, under_eq_ok_iff,
      refuse_eq_ok_iff, pure_eq_ok_iff, exists_const]
    constructor
    · rintro ⟨_, ⟨s, hs, rfl⟩, h⟩
      exact ⟨some s, .some hs, h⟩
    · rintro ⟨_, @⟨_, s, hs⟩, h⟩
      exact ⟨some s, ⟨s, hs, rfl⟩, h⟩

lemma kindSchema_eq_ok_iff {nested : Nested} :
    d.kindSchema nested kind = .ok s ↔ ∃ shapes, d.shapeSchemas nested kind = .ok shapes ∧
      ∃ leaves, d.leafSchemas kind = .ok leaves ∧ .intersection (shapes ++ leaves) = s := by
  simp [kindSchema]

lemma armSchema_eq_ok_iff {nested : Nested} {implied : Option Kind} :
    d.armSchema nested implied name = .ok s ↔ ∃ kind, Kind.ofName? name = some kind ∧
      if agrees kind implied then d.kindSchema nested (some kind) = .ok s
      else .leaf { kind := some kind, choices := d.choices } = s := by
  simp only [armSchema, bind_eq_ok_iff, kindOfName_eq_ok_iff]
  refine exists_congr fun kind => and_congr_right fun _ => ?_
  split <;> simp

/-! ### The type -/

section Typed

variable {nested : Nested} {implied : Option Kind}

lemma typeSchema_of_none (hnames : d.kindNames = none) :
    d.typeSchema nested implied = d.kindSchema nested implied := by
  simp [typeSchema, hnames]

lemma typeSchema_one_eq_ok_iff (hnames : d.kindNames = some (.one name)) :
    d.typeSchema nested implied = .ok s ↔ ∃ kind, Kind.ofName? name = some kind ∧
      agrees kind implied = true ∧ d.kindSchema nested (some kind) = .ok s := by
  simp only [typeSchema, hnames, bind_eq_ok_iff, kindOfName_eq_ok_iff]
  refine exists_congr fun kind => and_congr_right fun _ => ?_
  cases implied with
  | none => simp [agrees]
  | some other => cases hwithin : kind.within other <;> simp [agrees, hwithin]

lemma typeSchema_many_eq_ok_iff {names : List String} (hnames : d.kindNames = some (.many names)) :
    d.typeSchema nested implied = .ok s ↔ names ≠ [] ∧ ∃ arms,
      List.Forall₂ (fun name arm => d.armSchema nested implied name = .ok arm) names arms ∧
        .union arms = s := by
  cases names with
  | nil => simp [typeSchema, hnames]
  | cons name names =>
    simp only [typeSchema, hnames, bind_eq_ok_iff, mapM_eq_ok_iff, pure_eq_ok_iff, ne_eq,
      reduceCtorEq, not_false_eq_true, true_and]

end Typed

/-! ### The whole definition -/

lemma compositionSchema_eq_ok_iff {keyword : ListKeyword} {compose : List Schema → Schema}
    {step : Nat → Step} {parts : Option (List Definition)} {schemas : List Schema} :
    compositionSchema keyword compose (parts.map (partSchemas step 0)) = .ok schemas ↔
      (parts = none ∧ schemas = []) ∨ ∃ ds ss, parts = some ds ∧ List.Forall₂ Defines ds ss ∧
        ss ≠ [] ∧ schemas = [compose ss] := by
  cases parts with
  | none => simp [compositionSchema, eq_comm]
  | some ds =>
    simp only [compositionSchema, Option.map_some, bind_eq_ok_iff, partSchemas_eq_ok_iff]
    constructor
    · rintro ⟨ss, hss, h⟩
      split at h
      · simp at h
      · next hne => exact .inr ⟨ds, ss, rfl, hss, by simpa using hne, (pure_eq_ok_iff.mp h).symm⟩
    · rintro (⟨hnone, -⟩ | ⟨_, ss, ⟨⟩, hss, hne, rfl⟩)
      · cases hnone
      · exact ⟨ss, hss, by simp [hne]⟩

/-- **A definition is the intersection of its groups.** -/
theorem schema_eq_ok_iff :
    d.schema = .ok s ↔ ∃ implied, d.impliedKind? = .ok implied ∧
      ∃ typed, d.typeSchema d.nested implied = .ok typed ∧
      ∃ all, compositionSchema .allOf .intersection d.nested.allOf = .ok all ∧
      ∃ some_, compositionSchema .anyOf .union d.nested.anyOf = .ok some_ ∧
        .intersection ((d.reference.map Schema.ref).toList ++ [typed] ++ all ++ some_) = s := by
  simp [schema_eq_schemaWith, schemaWith]

end Definition

end TreeSchema
