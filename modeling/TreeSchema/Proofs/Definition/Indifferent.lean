/-
Definitions that ask for nothing.

Some definitions define the schema of all values.  They are told by their keywords
(`eq_any_iff`): only compositions may be there, all parts of an intersection have to ask for
nothing, and so has some part of a union.  A kind is always something to ask for, be it named or
implied.
-/
import TreeSchema.Proofs.Definition.Defects
import TreeSchema.Proofs.Definition.Normal
import TreeSchema.Proofs.Definition.References

namespace TreeSchema

namespace Schema

variable {parts : List Schema}

/-- An intersection of normal schemas asks for nothing if no part asks for something. -/
lemma intersection_eq_any_iff (h : ∀ part ∈ parts, part.Normal) :
    intersection parts = .any ↔ ∀ part ∈ parts, part = .any := by
  have hflat : ∀ s ∈ parts.flatMap conjuncts, s ≠ .any :=
    List.forall_mem_flatMap.mpr fun part hpart s hs => ((h part hpart).conjuncts hs).2.1
  constructor
  · intro heq
    have hnil : parts.flatMap conjuncts = [] := by
      unfold intersection at heq
      split at heq
      · next hnil => exact hnil
      · next one hone => exact absurd heq (hflat one (by simp [hone]))
      · cases heq
    intro part hpart
    have hempty := List.flatMap_eq_nil_iff.mp hnil part hpart
    cases part with
    | any => rfl
    | allOf inner =>
      obtain ⟨⟨hlength, -⟩, -⟩ := everywhere_allOf_iff.mp (h _ hpart)
      rw [show inner = [] from hempty] at hlength
      simp at hlength
    | _ => cases hempty
  · intro hall
    have hnil : parts.flatMap conjuncts = [] :=
      List.flatMap_eq_nil_iff.mpr fun part hpart => by rw [hall part hpart, conjuncts]
    simp [intersection, hnil]

/-- A union of normal schemas asks for nothing if some part does. -/
lemma union_eq_any_iff (h : ∀ part ∈ parts, part.Normal) :
    union parts = .any ↔ ∃ part ∈ parts, part = .any := by
  rw [← any_isAny_iff]
  refine ⟨fun heq => ?_, fun hany => by simp [union, hany]⟩
  by_contra hany
  have hproper : ∀ part ∈ parts, part.isAny = false := by simpa using hany
  rw [union, if_neg hany] at heq
  split at heq
  · next one hone =>
    have hmem : one ∈ parts.flatMap disjuncts := by simp [hone]
    obtain ⟨part, hpart, hs⟩ := List.mem_flatMap.mp hmem
    exact ((h part hpart).disjuncts (hproper part hpart) hs).2.1 heq
  · cases heq

end Schema

namespace Definition

variable {d : Definition} {kind : Option Kind} {name : String} {s : Schema}

/-! ### Definitions that ask for nothing -/

/-- There are no keywords but the identity and the compositions. -/
def Bare (d : Definition) : Prop :=
  ∀ keyword, d.has keyword = true → keyword ∈ [Keyword.id, .allOf, .anyOf]

/-- The definition asks for nothing: it has no keywords but compositions, all parts of an
intersection ask for nothing, and some part of a union does. -/
inductive AsksNothing : Definition → Prop where
  | bare {d : Definition} (hbare : d.Bare)
      (hall : ∀ parts, d.allOf = some parts → ∀ part ∈ parts, AsksNothing part)
      (hany : d.anyOf = none) : AsksNothing d
  | union {d part : Definition} {parts : List Definition} (hbare : d.Bare)
      (hall : ∀ parts, d.allOf = some parts → ∀ part ∈ parts, AsksNothing part)
      (hany : d.anyOf = some parts) (hmem : part ∈ parts) (hpart : AsksNothing part) :
      AsksNothing d

lemma asksNothing_iff :
    d.AsksNothing ↔ d.Bare ∧
      (∀ parts, d.allOf = some parts → ∀ part ∈ parts, part.AsksNothing) ∧
      ∀ parts, d.anyOf = some parts → ∃ part ∈ parts, part.AsksNothing := by
  constructor
  · rintro (⟨hbare, hall, hany⟩ | ⟨hbare, hall, hany, hmem, hpart⟩)
    · exact ⟨hbare, hall, by simp [hany]⟩
    · refine ⟨hbare, hall, fun parts hparts => ?_⟩
      obtain rfl := Option.some.inj (hany.symm.trans hparts)
      exact ⟨_, hmem, hpart⟩
  · rintro ⟨hbare, hall, hany⟩
    cases hparts : d.anyOf with
    | none => exact .bare hbare hall hparts
    | some parts =>
      obtain ⟨part, hmem, hpart⟩ := hany parts hparts
      exact .union hbare hall hparts hmem hpart

lemma implied_eq_none_iff :
    d.implied = none ↔ ∀ keyword k, d.has keyword = true → keyword.impliedKind? ≠ some k := by
  constructor
  · intro h keyword k hhas hk
    have hmem := mem_shapeKeywords_iff.mpr ⟨hhas, hk⟩
    simp only [implied, Option.map_eq_none_iff, List.head?_eq_none_iff] at h
    simp [h] at hmem
  · intro h
    by_contra hsome
    obtain ⟨k, hk⟩ := Option.ne_none_iff_exists'.mp hsome
    obtain ⟨keyword, hhas, hkeyword⟩ := exists_keyword_of_implied hk
    exact h keyword k hhas hkeyword

/-- There is no reference, no `type`, no keyword about one kind and none about a value as a
whole. -/
lemma bare_iff :
    d.Bare ↔ d.reference = none ∧ d.kindNames = none ∧ d.implied = none ∧
      d.hasLeafKeyword = false := by
  have habsent : ∀ keyword, d.has keyword = false ↔ d.value? keyword = none := fun keyword => by
    simp [has]
  constructor
  · intro h
    have hnot : ∀ keyword, keyword ∉ [Keyword.id, .allOf, .anyOf] → d.has keyword = false :=
      fun keyword hkeyword => Bool.eq_false_iff.mpr fun hhas => hkeyword (h keyword hhas)
    refine ⟨(habsent .reference).mp (hnot _ (by decide)), (habsent .type).mp (hnot _ (by decide)),
      implied_eq_none_iff.mpr fun keyword k hhas hk => ?_, ?_⟩
    · have hkeyword := h keyword hhas
      cases keyword <;> simp_all [Keyword.impliedKind?]
    · simp [hasLeafKeyword, hnot]
  · rintro ⟨hreference, htype, himplied, hleaf⟩ keyword hhas
    have hshape := implied_eq_none_iff.mp himplied keyword
    simp only [hasLeafKeyword, Bool.or_eq_false_iff] at hleaf
    cases keyword <;> simp_all [Keyword.impliedKind?, has, value?]

/-! ### What definitions that ask for nothing define -/

/-- There is a schema for the parts of a value just if the kind has parts. -/
lemma shapeSchemas_cases {shapes : List Schema} (h : d.shapeSchemas d.nested kind = .ok shapes) :
    (kind.any Kind.isShape = false ∧ shapes = []) ∨
      kind.any Kind.isShape = true ∧ ∃ shape, shapes = [shape] ∧ shape.conjuncts = [shape] := by
  unfold shapeSchemas at h
  split at h
  · obtain ⟨shape, hshape, rfl⟩ := map_eq_ok_iff.mp h
    obtain ⟨properties, -, rfl⟩ := objectSchema_eq_ok_iff.mp hshape
    exact .inr ⟨rfl, _, rfl, rfl⟩
  · obtain ⟨shape, hshape, rfl⟩ := map_eq_ok_iff.mp h
    obtain ⟨items, -, -, rfl⟩ := arraySchema_eq_ok_iff.mp hshape
    exact .inr ⟨rfl, _, rfl, rfl⟩
  · next hobject harray =>
    cases h
    refine .inl ⟨?_, rfl⟩
    cases kind with
    | none => rfl
    | some k => cases k <;> first | rfl | exact absurd rfl hobject | exact absurd rfl harray

/-- There is a constraint to a value as a whole just if the kind has no parts or a keyword asks for
one. -/
lemma leafSchemas_cases {leaves : List Schema} (h : d.leafSchemas kind = .ok leaves) :
    ((kind = none ∨ kind.any Kind.isShape = true) ∧ d.hasLeafKeyword = false ∧ leaves = []) ∨
      (∃ c, leaves = [.leaf c]) ∧
        ((∃ k, kind = some k ∧ k.isShape = false) ∨ d.hasLeafKeyword = true) := by
  simp only [leafSchemas] at h
  split at h
  · next hasked =>
    obtain ⟨leaf, hleaf, rfl⟩ := map_eq_ok_iff.mp h
    obtain ⟨pattern, -, -, rfl⟩ := leafSchema_eq_ok_iff.mp hleaf
    refine .inr ⟨⟨_, rfl⟩, ?_⟩
    cases kind <;> simp_all
  · next hnone =>
    cases h
    refine .inl ⟨?_, ?_⟩
    · cases kind <;> simp_all
    · simp_all

/-- What the keywords ask of a value of a kind is something if there is a kind, or a keyword about a
value as a whole. -/
lemma kindSchema_eq_any_iff (h : d.kindSchema d.nested kind = .ok s) :
    s = .any ↔ kind = none ∧ d.hasLeafKeyword = false := by
  obtain ⟨shapes, hshapes, leaves, hleaves, rfl⟩ := kindSchema_eq_ok_iff.mp h
  rcases shapeSchemas_cases hshapes with ⟨hkind, rfl⟩ | ⟨hkind, shape, rfl, hshape⟩
  · rcases leafSchemas_cases hleaves with ⟨hnone, hleaf, rfl⟩ | ⟨⟨c, rfl⟩, hasked⟩
    · have hkind : kind = none := hnone.resolve_right (by simp [hkind])
      simp [Schema.intersection, hkind, hleaf]
    · refine iff_of_false (by simp [Schema.intersection, Schema.conjuncts]) ?_
      rintro ⟨rfl, hleaf⟩
      simp [hleaf] at hasked
  · refine iff_of_false ?_ (by rintro ⟨rfl, -⟩; cases hkind)
    rcases leafSchemas_cases hleaves with ⟨-, -, rfl⟩ | ⟨⟨c, rfl⟩, -⟩
    · have hflat : ([shape] ++ []).flatMap Schema.conjuncts = [shape] := by simpa using hshape
      rw [Schema.intersection, hflat]
      rintro rfl
      cases hshape
    · have hflat : ([shape] ++ [Schema.leaf c]).flatMap Schema.conjuncts = [shape, .leaf c] :=
        congrArg (· ++ [Schema.leaf c]) hshape
      rw [Schema.intersection, hflat]
      simp

/-- A kind that is named is asked for. -/
lemma armSchema_ne_any {implied : Option Kind} (h : d.armSchema d.nested implied name = .ok s) :
    s ≠ .any := by
  obtain ⟨k, -, h⟩ := armSchema_eq_ok_iff.mp h
  split at h
  · rw [ne_eq, kindSchema_eq_any_iff h]
    simp
  · rw [← h]
    simp

lemma armSchema_normal {implied : Option Kind} (h : d.armSchema d.nested implied name = .ok s) :
    s.Normal := by
  have hsub : d.PartsDefine Schema.Normal := fun _ _ _ hs => (schema_normal hs).2
  obtain ⟨k, -, h⟩ := armSchema_eq_ok_iff.mp h
  split at h
  · exact carries_normal.kindSchema trivial hsub h
  · rw [← h]
    exact Schema.everywhere_leaf_iff.mpr trivial

/-- The `type` and the shape keywords ask for nothing if there are none. -/
lemma typeSchema_eq_any_iff (himplied : d.impliedKind? = .ok kind)
    (h : d.typeSchema d.nested kind = .ok s) :
    s = .any ↔ d.kindNames = none ∧ d.implied = none ∧ d.hasLeafKeyword = false := by
  obtain ⟨rfl, -⟩ := impliedKind?_eq_ok himplied
  cases hnames : d.kindNames with
  | none =>
    rw [typeSchema_of_none hnames] at h
    simp [kindSchema_eq_any_iff h]
  | some names =>
    refine iff_of_false ?_ (by simp)
    cases names with
    | one name =>
      obtain ⟨k, -, -, h⟩ := (typeSchema_one_eq_ok_iff hnames).mp h
      simp [kindSchema_eq_any_iff h]
    | many names =>
      obtain ⟨-, arms, harms, rfl⟩ := (typeSchema_many_eq_ok_iff hnames).mp h
      have hne : ∀ arm ∈ arms, arm ≠ .any :=
        forall_mem_of_forall₂ harms fun _ _ _ harm => armSchema_ne_any harm
      have hnormal : ∀ arm ∈ arms, arm.Normal :=
        forall_mem_of_forall₂ harms fun _ _ _ harm => armSchema_normal harm
      rw [Schema.union_eq_any_iff hnormal]
      rintro ⟨arm, hmem, heq⟩
      exact hne arm hmem heq

section Composed

variable (hpart : ∀ (sub : Definition) t, sub.PartOf d → sub.Defines t →
  (t = .any ↔ sub.AsksNothing))
include hpart

/-- The schema for the parts of an intersection asks for nothing if all of them do. -/
lemma allOf_eq_any_iff {all : List Schema}
    (h : compositionSchema .allOf .intersection d.nested.allOf = .ok all) :
    (∀ s ∈ all, s.Normal) ∧ ((∀ s ∈ all, s = .any) ↔
      ∀ parts, d.allOf = some parts → ∀ part ∈ parts, part.AsksNothing) := by
  rcases compositionSchema_eq_ok_iff.mp h with ⟨hnone, rfl⟩ | ⟨parts, ss, hparts, hss, -, rfl⟩
  · simp [hnone]
  · have hnormal : ∀ s ∈ ss, s.Normal :=
      forall_mem_of_forall₂ hss fun _ _ _ hs => (schema_normal hs).2
    have hany : (∀ s ∈ ss, s = .any) ↔ ∀ part ∈ parts, part.AsksNothing :=
      forall_mem_iff_of_forall₂ hss fun part hmem s hs => hpart part s (.allOf hparts hmem) hs
    simp only [List.forall_mem_singleton, hparts, Option.some.injEq, forall_eq']
    rw [Schema.intersection_eq_any_iff hnormal, hany]
    exact ⟨Schema.Normal.intersection hnormal, Iff.rfl⟩

/-- The schema for the parts of a union asks for nothing if one of them does. -/
lemma anyOf_eq_any_iff {any : List Schema}
    (h : compositionSchema .anyOf .union d.nested.anyOf = .ok any) :
    (∀ s ∈ any, s.Normal) ∧ ((∀ s ∈ any, s = .any) ↔
      ∀ parts, d.anyOf = some parts → ∃ part ∈ parts, part.AsksNothing) := by
  rcases compositionSchema_eq_ok_iff.mp h with ⟨hnone, rfl⟩ | ⟨parts, ss, hparts, hss, hne, rfl⟩
  · simp [hnone]
  · have hnormal : ∀ s ∈ ss, s.Normal :=
      forall_mem_of_forall₂ hss fun _ _ _ hs => (schema_normal hs).2
    have hany : (∃ s ∈ ss, s = .any) ↔ ∃ part ∈ parts, part.AsksNothing :=
      exists_mem_iff_of_forall₂ hss fun part hmem s hs => hpart part s (.anyOf hparts hmem) hs
    simp only [List.forall_mem_singleton, hparts, Option.some.injEq, forall_eq']
    rw [Schema.union_eq_any_iff hnormal, hany]
    exact ⟨Schema.Normal.union hne hnormal, Iff.rfl⟩

end Composed

/-- **A definition defines the schema of all values just when it asks for nothing.** -/
theorem eq_any_iff {d : Definition} {s : Schema} (h : d.Defines s) : s = .any ↔ d.AsksNothing := by
  have hpart : ∀ (sub : Definition) t, sub.PartOf d → sub.Defines t →
      (t = .any ↔ sub.AsksNothing) := by
    intro sub t hpart ht
    have hlt := hpart.sizeOf_lt
    exact eq_any_iff ht
  have hsub : d.PartsDefine Schema.Normal := fun _ _ _ hs => (schema_normal hs).2
  obtain ⟨kind, himplied, typed, htyped, all, hall, any, hany, rfl⟩ := schema_eq_ok_iff.mp h
  obtain ⟨hallNormal, hall⟩ := allOf_eq_any_iff hpart hall
  obtain ⟨hanyNormal, hany⟩ := anyOf_eq_any_iff hpart hany
  have hreference : (∀ s ∈ (d.reference.map Schema.ref).toList, s.Normal) ∧
      ((∀ s ∈ (d.reference.map Schema.ref).toList, s = .any) ↔ d.reference = none) := by
    cases d.reference <;> simp [Schema.InNormalForm]
  have hnormal : ∀ s ∈ (d.reference.map Schema.ref).toList ++ [typed] ++ all ++ any, s.Normal := by
    simp only [List.forall_mem_append, List.forall_mem_singleton]
    have htyped := carries_normal.typeSchema trivial hsub htyped
    exact ⟨⟨⟨hreference.1, htyped⟩, hallNormal⟩, hanyNormal⟩
  rw [Schema.intersection_eq_any_iff hnormal, asksNothing_iff, bare_iff]
  simp only [List.forall_mem_append, List.forall_mem_singleton, hreference.2, hall, hany,
    typeSchema_eq_any_iff himplied htyped, and_assoc]
termination_by sizeOf d

end Definition

end TreeSchema
