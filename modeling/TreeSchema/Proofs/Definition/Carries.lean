/-
Properties that definitions pass on to their schemas.

To find that all schemas of definitions have a property, it is enough to look at the forms of
schemas that the groups of keywords are made into, one at a time, and never at how the groups
are put together.  `Definition.Carries` lists what there is to look at, and `Carries.schema`
is the induction over definitions, done once for all properties.

The first such property is to have no flaw (`schema_flawless`).  So what a definition defines need
not be checked any more.
-/
import TreeSchema.Proofs.Definition.Groups
import TreeSchema.Proofs.Schema.Flawless

namespace TreeSchema

namespace Definition

/-- What the definitions in a definition define has a property. -/
def PartsDefine (d : Definition) (P : Schema → Prop) : Prop :=
  ∀ (sub : Definition) s, sub.PartOf d → sub.Defines s → P s

/-- Definitions of one sort give schemas of one sort, as far as each step of the construction is
concerned. -/
structure Carries (Q : Definition → Prop) (P : Schema → Prop) : Prop where
  part : ∀ {sub d}, Q d → sub.PartOf d → Q sub
  ref : ∀ {d name}, Q d → d.reference = some name → P (.ref name)
  leaf : ∀ {d c}, Q d → c.choices = d.choices → c.flaw? = none → P (.leaf c)
  object : ∀ {d properties required}, Q d →
    List.Forall₂ DefinesNamed (d.properties.getD []) properties →
    (∀ property ∈ properties, P property.2) → P (.object properties required)
  array : ∀ {items least most}, Schema.lengthFlaw? least most = none →
    (∀ item, items = some item → P item) → P (.array items least most)
  intersection : ∀ {parts}, (∀ part ∈ parts, P part) → P (.intersection parts)
  union : ∀ {parts}, parts ≠ [] → (∀ part ∈ parts, P part) → P (.union parts)

namespace Carries

variable {Q : Definition → Prop} {P : Schema → Prop} {d : Definition} {s : Schema}
  {kind : Option Kind}

lemma objectSchema (h : Carries Q P) (hd : Q d)
    (hsub : d.PartsDefine P) (hs : d.objectSchema d.nested = .ok s) : P s := by
  obtain ⟨properties, hproperties, rfl⟩ := objectSchema_eq_ok_iff.mp hs
  refine h.object hd hproperties ?_
  refine forall_mem_of_forall₂ hproperties fun entry hentry defined hdefines => ?_
  cases hd : d.properties with
  | none => simp [hd] at hentry
  | some entries =>
    rw [hd] at hentry
    exact hsub entry.2 defined.2 (.property hd hentry) hdefines.2

lemma arraySchema (h : Carries Q P) (hsub : d.PartsDefine P)
    (hs : d.arraySchema d.nested = .ok s) : P s := by
  obtain ⟨items, hitems, hlength, rfl⟩ := arraySchema_eq_ok_iff.mp hs
  refine h.array hlength ?_
  rintro item rfl
  generalize hd : d.items = written at hitems
  cases hitems with
  | some hdefines => exact hsub _ item (.item hd) hdefines

lemma kindSchema (h : Carries Q P) (hd : Q d)
    (hsub : d.PartsDefine P) (hs : d.kindSchema d.nested kind = .ok s) : P s := by
  obtain ⟨shapes, hshapes, leaves, hleaves, rfl⟩ := kindSchema_eq_ok_iff.mp hs
  refine h.intersection (List.forall_mem_append.mpr ⟨?_, ?_⟩)
  · unfold shapeSchemas at hshapes
    split at hshapes
    · obtain ⟨shape, hshape, rfl⟩ := map_eq_ok_iff.mp hshapes
      simpa using h.objectSchema hd hsub hshape
    · obtain ⟨shape, hshape, rfl⟩ := map_eq_ok_iff.mp hshapes
      simpa using h.arraySchema hsub hshape
    · cases hshapes
      simp
  · simp only [leafSchemas] at hleaves
    split at hleaves
    · obtain ⟨leaf, hleaf, rfl⟩ := map_eq_ok_iff.mp hleaves
      obtain ⟨pattern, -, hflaw, rfl⟩ := leafSchema_eq_ok_iff.mp hleaf
      simpa using h.leaf hd rfl hflaw
    · cases hleaves
      simp

lemma typeSchema (h : Carries Q P) (hd : Q d)
    (hsub : d.PartsDefine P) (hs : d.typeSchema d.nested kind = .ok s) : P s := by
  cases hnames : d.kindNames with
  | none =>
    rw [typeSchema_of_none hnames] at hs
    exact h.kindSchema hd hsub hs
  | some names =>
    cases names with
    | one name =>
      obtain ⟨k, -, -, hkind⟩ := (typeSchema_one_eq_ok_iff hnames).mp hs
      exact h.kindSchema hd hsub hkind
    | many names =>
      obtain ⟨hne, arms, harms, rfl⟩ := (typeSchema_many_eq_ok_iff hnames).mp hs
      -- there are as many arms as names, and a list of no names is refused
      refine h.union (fun hnil => ?_) (forall_mem_of_forall₂ harms fun name _ arm harm => ?_)
      · rw [hnil] at harms
        exact hne (List.forall₂_nil_right_iff.mp harms)
      · obtain ⟨k, -, harm⟩ := armSchema_eq_ok_iff.mp harm
        split at harm
        · exact h.kindSchema hd hsub harm
        · subst harm
          exact h.leaf hd rfl rfl

/-- **What carries over at each step carries over to the whole schema.** -/
theorem schema (h : Carries Q P) {d : Definition} {s : Schema} (hd : Q d)
    (hs : d.schema = .ok s) : P s := by
  have hsub : d.PartsDefine P := by
    intro sub s hpart hs
    have hlt := hpart.sizeOf_lt
    exact schema h (h.part hd hpart) hs
  obtain ⟨kind, -, typed, htyped, all, hall, any, hany, rfl⟩ := schema_eq_ok_iff.mp hs
  have hreference : ∀ part ∈ (d.reference.map Schema.ref).toList, P part := by
    cases hname : d.reference with
    | none => simp
    | some name => simpa using h.ref hd hname
  have htype := h.typeSchema hd hsub htyped
  have hall : ∀ part ∈ all, P part := by
    rcases compositionSchema_eq_ok_iff.mp hall with ⟨-, rfl⟩ | ⟨parts, ss, hparts, hss, -, rfl⟩
    · simp
    · simpa using h.intersection (forall_mem_of_forall₂ hss fun part hmem s hs =>
        hsub part s (.allOf hparts hmem) hs)
  have hany : ∀ part ∈ any, P part := by
    rcases compositionSchema_eq_ok_iff.mp hany with ⟨-, rfl⟩ | ⟨parts, ss, hparts, hss, hne, rfl⟩
    · simp
    · simpa using h.union hne (forall_mem_of_forall₂ hss fun part hmem s hs =>
        hsub part s (.anyOf hparts hmem) hs)
  refine h.intersection ?_
  simp only [List.forall_mem_append, List.forall_mem_singleton]
  exact ⟨⟨⟨hreference, htype⟩, hall⟩, hany⟩
  termination_by sizeOf d

end Carries

/-- Without any condition on definitions, their schemas have no flaw at each step. -/
lemma carries_flawless : Carries (fun _ => True) Schema.Flawless where
  part := fun _ _ => trivial
  ref := fun _ _ => Schema.flawless_ref _
  leaf := fun _ _ hflaw => Schema.flawless_leaf_iff.mpr hflaw
  object := fun _ _ hproperties => Schema.flawless_object_iff.mpr hproperties
  array := fun hlength hitems => Schema.flawless_array_iff.mpr ⟨hlength, hitems⟩
  intersection := .intersection
  union := .union

/-- **What a definition defines has no flaw.** -/
theorem schema_flawless {d : Definition} {s : Schema} (h : d.schema = .ok s) : s.Flawless :=
  carries_flawless.schema trivial h

end Definition

end TreeSchema
