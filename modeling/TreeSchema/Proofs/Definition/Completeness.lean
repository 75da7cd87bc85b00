/-
Schemas in normal form have definitions.

What a definition defines is valid and in normal form (`schema_normal`).  This file is about the
other direction: a schema in normal form is written with keywords again (`Schema.definition`), and
that definition defines the schema or one that is like it (`exists_schema_definition`).  Patterns
are the reason why it need not be the schema itself.  They are written by their source, and a
pattern that is made for one text is not the one that its source is read as, but admits the same.

This is not done for every constraint at the leaves.  It has to ask for something, a pattern or a
bound has to come with the kind that it implies, and the kinds of objects and arrays are left to the
schemas of their parts (`Constraint.InForm`).
-/
import TreeSchema.Proofs.Definition.Normal
import TreeSchema.Proofs.Schema.Alike

namespace TreeSchema

/-! ### Writing schemas with keywords -/

/-- The definition of a constraint.  A pattern implies its kind. -/
def Constraint.definition (c : Constraint) : Definition where
  kindNames := if c.pattern.isSome then none else c.kind.map fun kind => .one kind.name
  pattern := c.pattern.map Pattern.source
  choices := c.choices
  minimum := c.minimum
  maximum := c.maximum

/-- The definition of an array. -/
def Definition.ofArray (item : Option Definition) (least most : Option Nat) : Definition where
  kindNames := some (.one Kind.array.name)
  items := item
  minItems := least
  maxItems := most

namespace Schema

mutual

/-- The definition of a schema.  It may be left to its fields to tell that an object is one, and so
it is done with the parts of an intersection. -/
def definition (bare : Bool) : Schema → Definition
  | .any => {}
  | .ref name => { reference := some name }
  | .leaf c => c.definition
  | .object properties required =>
    { kindNames := if bare && !properties.isEmpty then none else some (.one Kind.object.name)
      properties := if properties.isEmpty then none else some (propertyDefinitions properties)
      required := if required.isEmpty then none else some required }
  | .array items least most =>
    .ofArray (match items with
      | some item => some (item.definition false)
      | none => none) least most
  | .allOf parts => { allOf := some (partDefinitions true parts) }
  | .anyOf parts => { anyOf := some (partDefinitions false parts) }

/-- The definitions of the schemas of fields. -/
def propertyDefinitions : List (String × Schema) → List (String × Definition)
  | [] => []
  | (name, s) :: rest => (name, s.definition false) :: propertyDefinitions rest

/-- The definitions of the parts of a composition. -/
def partDefinitions (bare : Bool) : List Schema → List Definition
  | [] => []
  | s :: rest => s.definition bare :: partDefinitions bare rest

end

lemma propertyDefinitions_eq_map (properties : List (String × Schema)) :
    propertyDefinitions properties =
      properties.map fun property => (property.1, property.2.definition false) := by
  induction properties with
  | nil => rfl
  | cons property properties ih => rw [propertyDefinitions, ih, List.map_cons]

lemma partDefinitions_eq_map (bare : Bool) (parts : List Schema) :
    partDefinitions bare parts = parts.map (definition bare) := by
  induction parts with
  | nil => rfl
  | cons part parts ih => rw [partDefinitions, ih, List.map_cons]

lemma definition_array {items : Option Schema} {least most : Option Nat} {bare : Bool} :
    definition bare (.array items least most) =
      .ofArray (items.map (definition false)) least most := by
  cases items <;> rfl

end Schema

/-! ### What can be written -/

/-- The source of the pattern is read as a pattern that admits the same texts. -/
def Pattern.IsReadable (p : Pattern) : Prop :=
  ∃ q, ofSource? p.source = some q ∧ ∀ text, q.admits text = p.admits text

/-- The constraint is one that keywords ask for. -/
structure Constraint.InForm (c : Constraint) : Prop where
  /-- Something is asked for. -/
  asks : c.kind.isSome = true ∨ c.choices.isSome = true
  /-- The kinds of objects and arrays are asked for by the schemas of their parts. -/
  leaf : ∀ kind, c.kind = some kind → kind.isShape = false
  pattern : c.pattern.isSome = true → c.kind = some .string
  bounds : c.minimum.isSome = true ∨ c.maximum.isSome = true →
    c.kind = some .integer ∨ c.kind = some .number
  flawless : c.flaw? = none

lemma Constraint.InForm.unbounded {c : Constraint} (h : c.InForm)
    (hinteger : c.kind ≠ some .integer) (hnumber : c.kind ≠ some .number) :
    c.minimum = none ∧ c.maximum = none := by
  by_contra hsome
  have hbound : c.minimum.isSome = true ∨ c.maximum.isSome = true := by
    simpa only [Option.isSome_iff_ne_none, ne_eq, not_and_or] using hsome
  exact (h.bounds hbound).elim hinteger hnumber

namespace Schema

/-- The schema can be written with keywords: it has the form that definitions give to schemas, and
its patterns are readable. -/
inductive Definable : Schema → Prop where
  | any : Definable .any
  | ref (name : String) : Definable (.ref name)
  | leaf {c : Constraint} (hform : c.InForm) (hreadable : ∀ p, c.pattern = some p → p.IsReadable) :
      Definable (.leaf c)
  | object {properties : List (String × Schema)} {required : List String}
      (hnames : (Entries.names properties).Nodup) (hrequired : required.Nodup)
      (hproperties : ∀ property ∈ properties, Definable property.2) :
      Definable (.object properties required)
  | array {items : Option Schema} {least most : Option Nat}
      (hlength : lengthFlaw? least most = none)
      (hitems : ∀ item, items = some item → Definable item) : Definable (.array items least most)
  | allOf {parts : List Schema} (hnormal : NormalConjuncts parts)
      (hparts : ∀ part ∈ parts, Definable part) : Definable (.allOf parts)
  | anyOf {parts : List Schema} (hnormal : NormalDisjuncts parts)
      (hparts : ∀ part ∈ parts, Definable part) : Definable (.anyOf parts)

section Forms

variable {properties : List (String × Schema)} {required : List String} {items : Option Schema}
  {least most : Option Nat} {parts : List Schema}

lemma definable_object_iff : Definable (.object properties required) ↔
    (Entries.names properties).Nodup ∧ required.Nodup ∧
      ∀ property ∈ properties, property.2.Definable := by
  constructor
  · rintro (_ | _ | _ | ⟨hnames, hrequired, hproperties⟩)
    exact ⟨hnames, hrequired, hproperties⟩
  · rintro ⟨hnames, hrequired, hproperties⟩
    exact .object hnames hrequired hproperties

lemma definable_array_iff : Definable (.array items least most) ↔
    lengthFlaw? least most = none ∧ ∀ item, items = some item → item.Definable := by
  constructor
  · rintro (_ | _ | _ | _ | ⟨hlength, hitems⟩)
    exact ⟨hlength, hitems⟩
  · rintro ⟨hlength, hitems⟩
    exact .array hlength hitems

lemma definable_allOf_iff :
    Definable (.allOf parts) ↔ NormalConjuncts parts ∧ ∀ part ∈ parts, part.Definable := by
  constructor
  · rintro (_ | _ | _ | _ | _ | ⟨hnormal, hparts⟩)
    exact ⟨hnormal, hparts⟩
  · rintro ⟨hnormal, hparts⟩
    exact .allOf hnormal hparts

lemma definable_anyOf_iff :
    Definable (.anyOf parts) ↔ NormalDisjuncts parts ∧ ∀ part ∈ parts, part.Definable := by
  constructor
  · rintro (_ | _ | _ | _ | _ | _ | ⟨hnormal, hparts⟩)
    exact ⟨hnormal, hparts⟩
  · rintro ⟨hnormal, hparts⟩
    exact .anyOf hnormal hparts

end Forms

end Schema

namespace Definition

open Schema (Alike NormalConjuncts NormalDisjuncts)

variable {d : Definition} {nested : Nested} {pattern : Option Pattern} {s typed : Schema}

/-! ### Types -/

/-- A definition without a reference and compositions has the schema of its type. -/
lemma schema_of_typed {implied : Option Kind} (hreference : d.reference = none)
    (hallOf : d.allOf = none) (hanyOf : d.anyOf = none) (himplied : d.impliedKind? = .ok implied)
    (htyped : d.typeSchema d.nested implied = .ok typed) :
    d.schema = .ok (.intersection [typed]) := by
  refine schema_eq_ok_iff.mpr ⟨implied, himplied, typed, htyped, [], ?_, [], ?_, ?_⟩
  · rw [Definition.nested, hallOf]
    rfl
  · rw [Definition.nested, hanyOf]
    rfl
  · rw [hreference]
    rfl

/-- A kind may be given by its name, unless other keywords imply it. -/
lemma typeSchema_of_kind {kind : Kind} {implied : Option Kind}
    (hagrees : agrees kind implied = true)
    (hnames : d.kindNames = some (.one kind.name) ∨ d.kindNames = none ∧ implied = some kind)
    (hs : d.kindSchema nested (some kind) = .ok s) : d.typeSchema nested implied = .ok s := by
  rcases hnames with hone | ⟨hnone, rfl⟩
  · exact (typeSchema_one_eq_ok_iff hone).mpr ⟨kind, Kind.ofName?_name kind, hagrees, hs⟩
  · rw [typeSchema_of_none hnone, hs]

/-- Where only the parts of objects or arrays are asked for, there is nothing besides them. -/
lemma schema_of_shape {kind : Kind} {isImplied : Bool} (hreference : d.reference = none)
    (hallOf : d.allOf = none) (hanyOf : d.anyOf = none) (hleaf : d.hasLeafKeyword = false)
    (himplied : d.impliedKind? = .ok (if isImplied then some kind else none))
    (hnames : d.kindNames = some (.one kind.name) ∨ d.kindNames = none ∧ isImplied = true)
    (hkind : kind.isShape = true) (hself : s.conjuncts = [s])
    (hshape : d.shapeSchemas d.nested (some kind) = .ok [s]) : d.schema = .ok s := by
  have hs : Schema.intersection [s] = s := by
    rw [Schema.intersection, List.flatMap_singleton, hself]
  have hleaves : d.leafSchemas (some kind) = .ok [] := by
    simp [leafSchemas, Option.filter, hkind, hleaf]
  have htyped := kindSchema_eq_ok_iff.mpr ⟨[s], hshape, [], hleaves, hs⟩
  rw [← hs]
  refine schema_of_typed hreference hallOf hanyOf himplied (typeSchema_of_kind ?_ ?_ htyped)
  · cases isImplied with
    | true => cases kind <;> rfl
    | false => rfl
  · exact hnames.imp_right fun hnone => ⟨hnone.1, if_pos hnone.2⟩

/-- Where only the value as a whole is asked for, there is nothing besides its constraint. -/
lemma kindSchema_of_leaf {kind : Option Kind} (nested : Nested)
    (hleaf : ∀ k, kind = some k → k.isShape = false)
    (hasks : kind.isSome = true ∨ d.hasLeafKeyword = true) (hpattern : d.patternOf = .ok pattern)
    (hflaw : (d.constraint kind pattern).flaw? = none) :
    d.kindSchema nested kind = .ok (.leaf (d.constraint kind pattern)) := by
  have hshapes : d.shapeSchemas nested kind = .ok [] := by
    unfold shapeSchemas
    split
    · exact absurd (hleaf _ rfl) (by decide)
    · exact absurd (hleaf _ rfl) (by decide)
    · rfl
  have hkind : (kind.filter fun k => !k.isShape) = kind := by
    cases kind with
    | none => rfl
    | some k => simp [Option.filter, hleaf k rfl]
  have hschema : d.leafSchema kind = .ok (.leaf (d.constraint kind pattern)) :=
    leafSchema_eq_ok_iff.mpr ⟨pattern, hpattern, hflaw, rfl⟩
  have hleaves : d.leafSchemas kind = .ok [.leaf (d.constraint kind pattern)] := by
    rw [leafSchemas, hkind, if_pos (by simpa using hasks), hschema]
    rfl
  exact kindSchema_eq_ok_iff.mpr ⟨_, hshapes, _, hleaves, rfl⟩

/-! ### Leaves -/

/-- The keywords of a constraint come to its kind. -/
lemma typeSchema_definition {c : Constraint} (h : c.InForm) :
    ∃ implied, c.definition.impliedKind? = .ok implied ∧
      ∀ nested s, c.definition.kindSchema nested c.kind = .ok s →
        c.definition.typeSchema nested implied = .ok s := by
  obtain ⟨kind, pattern, choices, minimum, maximum⟩ := c
  cases pattern with
  | some p =>
    obtain rfl : kind = some .string := h.pattern rfl
    obtain ⟨rfl, rfl⟩ := h.unbounded nofun nofun
    exact ⟨some .string, rfl, fun _ _ hs => hs⟩
  | none =>
    cases kind with
    | some k =>
      refine ⟨if minimum.isSome || maximum.isSome then some .number else none, ?_, ?_⟩
      · cases minimum <;> cases maximum <;> rfl
      · intro nested s hs
        refine typeSchema_of_kind ?_ (.inl rfl) hs
        split
        · next hsome =>
          have hkind := h.bounds (by simpa using hsome)
          simp only [Option.some.injEq] at hkind
          rcases hkind with rfl | rfl <;> rfl
        · rfl
    | none =>
      -- without a kind there are only choices
      obtain ⟨rfl, rfl⟩ := h.unbounded nofun nofun
      exact ⟨none, rfl, fun _ _ hs => hs⟩

/-- The definition of a constraint defines that constraint, with what its pattern is read as. -/
lemma schema_definition_leaf {c : Constraint} (h : c.InForm)
    (hpattern : c.definition.patternOf = .ok pattern) :
    c.definition.schema = .ok (.leaf { c with pattern := pattern }) := by
  have hasks : c.kind.isSome = true ∨ c.definition.hasLeafKeyword = true := by
    refine h.asks.imp_right fun hchoices => ?_
    have henum : c.definition.has .enum = true := hchoices
    simp [hasLeafKeyword, henum]
  obtain ⟨implied, himplied, htyped⟩ := typeSchema_definition h
  have hkind := kindSchema_of_leaf c.definition.nested h.leaf hasks hpattern h.flawless
  exact schema_of_typed rfl rfl rfl himplied (htyped _ _ hkind)

/-! ### Objects and arrays -/

lemma requireAll_of_nodup {names : List String} (h : names.Nodup) :
    Schema.requireAll names = names := by
  have hfoldl : ∀ required : List String, (required ++ names).Nodup →
      names.foldl Schema.require required = required ++ names := by
    clear h
    induction names with
    | nil => simp
    | cons name names ih =>
      intro required hnodup
      have hnew : name ∉ required := fun hmem =>
        (List.nodup_append.mp hnodup).2.2 name hmem name List.mem_cons_self rfl
      rw [List.append_cons] at hnodup ⊢
      rw [List.foldl_cons, Schema.require, if_neg (by simpa using hnew), ih _ hnodup]
  exact hfoldl [] h

lemma schema_definition_object {properties properties' : List (String × Schema)}
    {required : List String} (bare : Bool) (hrequired : required.Nodup)
    (hproperties : List.Forall₂ DefinesNamed (Schema.propertyDefinitions properties) properties') :
    ((Schema.object properties required).definition bare).schema =
      .ok (.object properties' required) := by
  have hshape := objectSchema_eq_ok_iff (d := (Schema.object properties required).definition bare)
    |>.mpr ⟨properties', by cases properties <;> exact hproperties, rfl⟩
  have hrequired : Schema.requireAll
      (((Schema.object properties required).definition bare).required.getD []) = required := by
    cases required with
    | nil => rfl
    | cons name names => exact requireAll_of_nodup hrequired
  -- the keyword `type` is left out only where there are fields, and these imply the kind
  have himplied : ((Schema.object properties required).definition bare).impliedKind? =
      .ok (if !properties.isEmpty || !required.isEmpty then some .object else none) := by
    cases bare <;> cases properties <;> cases required <;> rfl
  refine schema_of_shape rfl rfl rfl rfl himplied ?_ rfl rfl ?_
  · cases bare <;> cases properties <;> simp [Schema.definition]
  · rw [shapeSchemas, hshape, hrequired]
    rfl

lemma schema_ofArray {item : Option Definition} {items : Option Schema} {least most : Option Nat}
    (hlength : Schema.lengthFlaw? least most = none) (hitems : Option.Rel Defines item items) :
    (ofArray item least most).schema = .ok (.array items least most) := by
  have hshape := arraySchema_eq_ok_iff (d := ofArray item least most)
    |>.mpr ⟨items, hitems, hlength, rfl⟩
  have himplied : (ofArray item least most).impliedKind? =
      .ok (if item.isSome || least.isSome || most.isSome then some .array else none) := by
    cases item <;> cases least <;> cases most <;> rfl
  refine schema_of_shape rfl rfl rfl rfl himplied (.inl rfl) rfl rfl ?_
  rw [shapeSchemas, hshape]
  rfl

/-! ### Compositions -/

lemma intersection_eq_allOf {parts several : List Schema}
    (hflat : parts.flatMap Schema.conjuncts = several) (hlength : 2 ≤ several.length) :
    Schema.intersection parts = .allOf several := by
  rw [Schema.intersection, hflat]
  match several, hlength with
  | _ :: _ :: _, _ => rfl

/-- What is in normal form is an intersection as it stands. -/
lemma intersection_of_normal {parts : List Schema} (h : NormalConjuncts parts) :
    Schema.intersection parts = .allOf parts := by
  have hself : ∀ part ∈ parts, part.conjuncts = [part] := by
    intro part hpart
    obtain ⟨hany, hallOf⟩ := h.2 part hpart
    cases part with
    | any => exact absurd rfl hany
    | allOf inner => exact absurd rfl (hallOf inner)
    | _ => rfl
  have hflat : parts.flatMap Schema.conjuncts = parts := by
    rw [List.flatMap_congr hself, List.flatMap_singleton']
  exact intersection_eq_allOf hflat h.1

/-- What is in normal form is a union as it stands. -/
lemma union_of_normal {parts : List Schema} (h : NormalDisjuncts parts) :
    Schema.union parts = .anyOf parts := by
  have hself : ∀ part ∈ parts, part.isAny = false ∧ part.disjuncts = [part] := by
    intro part hpart
    obtain ⟨hany, hanyOf⟩ := h.2 part hpart
    cases part with
    | any => exact absurd rfl hany
    | anyOf inner => exact absurd rfl (hanyOf inner)
    | _ => exact ⟨rfl, rfl⟩
  have hproper : parts.any Schema.isAny = false := by
    simpa using fun part hpart => (hself part hpart).1
  have hflat : parts.flatMap Schema.disjuncts = parts := by
    rw [List.flatMap_congr fun part hpart => (hself part hpart).2, List.flatMap_singleton']
  rw [Schema.union, hproper, hflat]
  obtain ⟨hlength, -⟩ := h
  match parts, hlength with
  | _ :: _ :: _, _ => rfl

lemma schema_allOf {parts : List Definition} {ss : List Schema}
    (hparts : List.Forall₂ Defines parts ss) (hnormal : NormalConjuncts ss) :
    ({ allOf := some parts } : Definition).schema = .ok (.allOf ss) := by
  have hne : ss ≠ [] := by
    rintro rfl
    simpa using hnormal.1
  have hall := intersection_of_normal hnormal
  refine schema_eq_ok_iff.mpr ⟨none, rfl, .any, rfl, [.allOf ss], ?_, [], rfl, ?_⟩
  · exact compositionSchema_eq_ok_iff.mpr (.inr ⟨parts, ss, rfl, hparts, hne, by rw [hall]⟩)
  · exact intersection_eq_allOf (List.append_nil ss) hnormal.1

lemma schema_anyOf {parts : List Definition} {ss : List Schema}
    (hparts : List.Forall₂ Defines parts ss) (hnormal : NormalDisjuncts ss) :
    ({ anyOf := some parts } : Definition).schema = .ok (.anyOf ss) := by
  have hne : ss ≠ [] := by
    rintro rfl
    simpa using hnormal.1
  have hsome := union_of_normal hnormal
  refine schema_eq_ok_iff.mpr ⟨none, rfl, .any, rfl, [], rfl, [.anyOf ss], ?_, rfl⟩
  exact compositionSchema_eq_ok_iff.mpr (.inr ⟨parts, ss, rfl, hparts, hne, by rw [hsome]⟩)

end Definition

namespace Schema

open Definition (Defines DefinesNamed)

variable {s : Schema} {ss ts : List Schema}

/-! ### Schemas that are like one in normal form -/

lemma Alike.any_iff {s t : Schema} (h : Alike s t) : s = .any ↔ t = .any := by
  cases h <;> simp

lemma normalConjuncts_of_alike (hlike : List.Forall₂ Alike ss ts) (h : NormalConjuncts ts) :
    NormalConjuncts ss := by
  refine ⟨hlike.length_eq ▸ h.1, fun part hpart => ?_⟩
  obtain ⟨other, hother, hpair⟩ := exists_right_of_forall₂ hlike hpart
  obtain ⟨hany, hallOf⟩ := h.2 other hother
  refine ⟨fun heq => hany (hpair.any_iff.mp heq), ?_⟩
  rintro inner rfl
  cases hpair with
  | refl => exact hallOf inner rfl
  | @allOf _ inner' => exact hallOf inner' rfl

lemma normalDisjuncts_of_alike (hlike : List.Forall₂ Alike ss ts) (h : NormalDisjuncts ts) :
    NormalDisjuncts ss := by
  refine ⟨hlike.length_eq ▸ h.1, fun part hpart => ?_⟩
  obtain ⟨other, hother, hpair⟩ := exists_right_of_forall₂ hlike hpart
  obtain ⟨hany, hanyOf⟩ := h.2 other hother
  refine ⟨fun heq => hany (hpair.any_iff.mp heq), ?_⟩
  rintro inner rfl
  cases hpair with
  | refl => exact hanyOf inner rfl
  | @anyOf _ inner' => exact hanyOf inner' rfl

lemma alike_getElem? (hlike : List.Forall₂ Alike ss ts) (i : Nat) (s t : Schema)
    (hs : ss[i]? = some s) (ht : ts[i]? = some t) : Alike s t := by
  obtain ⟨hi, rfl⟩ := List.getElem?_eq_some_iff.mp hs
  obtain ⟨hj, rfl⟩ := List.getElem?_eq_some_iff.mp ht
  exact hlike.get hi hj

/-! ### Every part -/

/-- What the definition of a schema defines is like the schema. -/
def IsDefined (bare : Bool) (s s' : Schema) : Prop :=
  (s.definition bare).Defines s' ∧ Alike s' s

lemma exists_partsDefined {bare : Bool} {parts : List Schema}
    (h : ∀ part ∈ parts, ∃ s', part.IsDefined bare s') :
    ∃ parts', List.Forall₂ Defines (partDefinitions bare parts) parts' ∧
      List.Forall₂ Alike parts' parts := by
  obtain ⟨parts', hparts⟩ := exists_forall₂_iff.mpr h
  refine ⟨parts', ?_, ?_⟩
  · rw [partDefinitions_eq_map, List.forall₂_map_left_iff]
    exact hparts.imp fun _ _ hpart => hpart.1
  · exact (hparts.imp fun _ _ hpart => hpart.2).flip

lemma exists_propertiesDefined {properties : List (String × Schema)}
    (h : ∀ property ∈ properties, ∃ s', property.2.IsDefined false s') :
    ∃ properties', List.Forall₂ DefinesNamed (propertyDefinitions properties) properties' ∧
      List.Forall₂ (fun property' property => property'.1 = property.1 ∧
        Alike property'.2 property.2) properties' properties := by
  have hnamed : ∀ property ∈ properties, ∃ property' : String × Schema,
      property'.1 = property.1 ∧ property.2.IsDefined false property'.2 := by
    intro property hmem
    obtain ⟨s', hs'⟩ := h property hmem
    exact ⟨(property.1, s'), rfl, hs'⟩
  obtain ⟨properties', hproperties⟩ := exists_forall₂_iff.mpr hnamed
  refine ⟨properties', ?_, ?_⟩
  · rw [propertyDefinitions_eq_map, List.forall₂_map_left_iff]
    exact hproperties.imp fun _ _ hpair => ⟨hpair.1.symm, hpair.2.1⟩
  · exact (hproperties.imp fun _ _ hpair => ⟨hpair.1, hpair.2.2⟩).flip

/-- What the source of a readable pattern is read as serves as well. -/
lemma exists_patternOf {c : Constraint} (h : ∀ p, c.pattern = some p → p.IsReadable) :
    ∃ pattern, c.definition.patternOf = .ok pattern ∧
      Alike (.leaf { c with pattern := pattern }) (.leaf c) := by
  obtain ⟨kind, written, choices, minimum, maximum⟩ := c
  cases written with
  | none => exact ⟨none, rfl, .refl _⟩
  | some p =>
    obtain ⟨q, hq, hadmits⟩ := h p rfl
    refine ⟨some q, Definition.patternOf_eq_ok_iff.mpr (.some hq), .leaf fun v => ?_⟩
    rw [Bool.eq_iff_iff, Constraint.admits_iff, Constraint.admits_iff]
    simp [Constraint.PatternHolds, hadmits]

/-- **A schema in normal form whose patterns are readable has a definition,** which defines the
schema or one that is like it. -/
theorem exists_schema_definition {s : Schema} (h : s.Definable) (bare : Bool) :
    ∃ s', (s.definition bare).schema = .ok s' ∧ Alike s' s := by
  induction h generalizing bare with
  | any => exact ⟨.any, rfl, .refl _⟩
  | ref name => exact ⟨.ref name, rfl, .refl _⟩
  | leaf hform hreadable =>
    obtain ⟨pattern, hpattern, hlike⟩ := exists_patternOf hreadable
    exact ⟨_, Definition.schema_definition_leaf hform hpattern, hlike⟩
  | @object properties required hnodup hrequired _ ih =>
    obtain ⟨properties', hdefines, hlike⟩ :=
      exists_propertiesDefined fun property hmem => ih property hmem false
    refine ⟨.object properties' required,
      Definition.schema_definition_object bare hrequired hdefines, ?_⟩
    have hnames : Entries.names properties' = Entries.names properties :=
      (Entries.names_eq_of_forall₂ (fun _ _ hpair => hpair.1) hlike).symm
    refine .object (fun name => by rw [hnames]) fun name s t hs ht => ?_
    obtain ⟨⟨_, t'⟩, ht', rfl, hpair⟩ := exists_right_of_forall₂ hlike hs
    -- the names are different, so it is the schema of that name
    rw [Option.some.inj ((Entries.get?_of_mem hnodup ht).symm.trans
      (Entries.get?_of_mem hnodup ht'))]
    exact hpair
  | @array items least most hlength _ ih =>
    rw [definition_array]
    cases items with
    | none => exact ⟨_, Definition.schema_ofArray hlength .none, .refl _⟩
    | some item =>
      obtain ⟨item', hdefines, hlike⟩ := ih item rfl false
      refine ⟨_, Definition.schema_ofArray hlength (.some hdefines), .array rfl ?_⟩
      rintro _ _ ⟨⟩ ⟨⟩
      exact hlike
  | allOf hnormal _ ih =>
    obtain ⟨parts', hdefines, hlike⟩ := exists_partsDefined fun part hmem => ih part hmem true
    exact ⟨.allOf parts',
      Definition.schema_allOf hdefines (normalConjuncts_of_alike hlike hnormal),
      .allOf hlike.length_eq (alike_getElem? hlike)⟩
  | anyOf hnormal _ ih =>
    obtain ⟨parts', hdefines, hlike⟩ := exists_partsDefined fun part hmem => ih part hmem false
    exact ⟨.anyOf parts',
      Definition.schema_anyOf hdefines (normalDisjuncts_of_alike hlike hnormal),
      .anyOf hlike.length_eq (alike_getElem? hlike)⟩

end Schema

end TreeSchema
