/-
References that are kept.

A schema refers to nothing but what its definition refers to (`refersTo_of_mem_references`).  Most
of it is kept, but there are two places where a reference is written in vain, as nothing there makes
a difference to what is accepted.

* The shape keywords constrain only those kinds of a `type` that they are about.  If the `type` is a
  list with no such kind, what is in them is left out.
* A union with a part that asks for nothing accepts everything.  So all its parts are left out, the
  other ones too.

What asks for nothing can be told by its keywords (`eq_any_iff`).  A reference is kept if, on the
way from the whole definition to where it is written, no step leads into one of the two places
(`mem_references_iff`).
-/
import TreeSchema.Proofs.Definition.Indifferent

namespace TreeSchema

open Relation

namespace Definition

variable {d sub : Definition} {kind : Option Kind} {name : String} {s : Schema}

/-- The first definition stands in the second one where references are kept: in shape keywords that
constrain something, in an intersection, or in a union no part of which asks for nothing. -/
inductive KeptIn (sub d : Definition) : Prop where
  | shape (hmatters : d.ShapeMatters) (hsub : sub.InShapeOf d) : KeptIn sub d
  | allOf {parts : List Definition} (h : d.allOf = some parts) (hmem : sub ∈ parts) : KeptIn sub d
  | anyOf {parts : List Definition} (h : d.anyOf = some parts) (hmem : sub ∈ parts)
      (hasks : ∀ part ∈ parts, ¬ part.AsksNothing) : KeptIn sub d

/-- The name stands in a reference that is kept, of the definition or of one in it. -/
def Keeps (d : Definition) (name : String) : Prop :=
  ∃ q : Definition, ReflTransGen KeptIn q d ∧ q.reference = some name

/-- The definition has a schema that refers to the name. -/
def Yields (d : Definition) (name : String) : Prop := ∃ s, d.Defines s ∧ name ∈ s.references

lemma KeptIn.takenUpIn (h : sub.KeptIn d) : sub.TakenUpIn d := by
  cases h with
  | shape hmatters hsub => exact .inl ⟨hmatters, hsub⟩
  | allOf h hmem => exact .inr (.allOf h hmem)
  | anyOf h hmem _ => exact .inr (.anyOf h hmem)

lemma Keeps.of_part (h : sub.Keeps name) (hsub : sub.KeptIn d) : d.Keeps name := by
  obtain ⟨q, hq, hreference⟩ := h
  exact ⟨q, hq.tail hsub, hreference⟩

lemma Defines.yields_iff (h : d.Defines s) : name ∈ s.references ↔ d.Yields name := by
  refine ⟨fun hname => ⟨s, h, hname⟩, ?_⟩
  rintro ⟨t, ht, hname⟩
  rwa [Except.ok.inj (h.symm.trans ht)]

/-! ### The shape keywords -/

lemma mem_references_objectSchema_iff (hitems : d.items = none)
    (h : d.objectSchema d.nested = .ok s) :
    name ∈ s.references ↔ ∃ sub : Definition, sub.InShapeOf d ∧ sub.Yields name := by
  obtain ⟨properties, hproperties, rfl⟩ := objectSchema_eq_ok_iff.mp h
  rw [Schema.references, Schema.mem_propertyReferences_iff,
    exists_mem_iff_of_forall₂ hproperties fun _ _ _ hdefines => hdefines.2.yields_iff]
  constructor
  · rintro ⟨entry, hentry, hname⟩
    cases hd : d.properties with
    | none => simp [hd] at hentry
    | some entries =>
      rw [hd] at hentry
      exact ⟨entry.2, .property hd hentry, hname⟩
  · rintro ⟨sub, ⟨hd, hmem⟩ | hitem, hname⟩
    · exact ⟨(_, sub), by simpa [hd] using hmem, hname⟩
    · cases hitems.symm.trans hitem

lemma mem_references_arraySchema_iff (hproperties : d.properties = none)
    (h : d.arraySchema d.nested = .ok s) :
    name ∈ s.references ↔ ∃ sub : Definition, sub.InShapeOf d ∧ sub.Yields name := by
  obtain ⟨items, hitems, -, rfl⟩ := arraySchema_eq_ok_iff.mp h
  have hshape : ∀ sub : Definition, sub.InShapeOf d ↔ d.items = some sub := fun sub =>
    ⟨fun hsub => by cases hsub <;> simp_all, .item⟩
  simp only [hshape]
  generalize d.items = written at hitems
  cases hitems with
  | none => simp [Schema.references]
  | some hdefines => simp [Schema.references, hdefines.yields_iff]

/-- What the shape keywords refer to is what stands in them. -/
lemma mem_references_shapeSchemas_iff {shapes : List Schema} (hfits : d.Fits kind)
    (h : d.shapeSchemas d.nested kind = .ok shapes) :
    (∃ s ∈ shapes, name ∈ s.references) ↔
      ∃ sub : Definition, sub.InShapeOf d ∧ sub.Yields name := by
  unfold shapeSchemas at h
  split at h
  · obtain ⟨shape, hshape, rfl⟩ := map_eq_ok_iff.mp h
    obtain ⟨-, -, hitems⟩ := hfits.array (by simp)
    simpa using mem_references_objectSchema_iff hitems hshape
  · obtain ⟨shape, hshape, rfl⟩ := map_eq_ok_iff.mp h
    obtain ⟨-, hproperties⟩ := hfits.object (by simp)
    simpa using mem_references_arraySchema_iff hproperties hshape
  · next hobject harray =>
    cases h
    obtain ⟨-, -, hitems⟩ := hfits.array harray
    obtain ⟨-, hproperties⟩ := hfits.object hobject
    refine iff_of_false (by simp) ?_
    rintro ⟨sub, ⟨h, -⟩ | h, -⟩
    · simp [hproperties] at h
    · simp [hitems] at h

lemma mem_references_kindSchema_iff (hfits : d.Fits kind)
    (h : d.kindSchema d.nested kind = .ok s) :
    name ∈ s.references ↔ ∃ sub : Definition, sub.InShapeOf d ∧ sub.Yields name := by
  obtain ⟨shapes, hshapes, leaves, hleaves, rfl⟩ := kindSchema_eq_ok_iff.mp h
  rw [Schema.mem_references_intersection_iff, ← mem_references_shapeSchemas_iff hfits hshapes]
  -- a constraint to a value as a whole refers to nothing
  have hnone : ¬ ∃ s ∈ leaves, name ∈ s.references := by
    rcases leafSchemas_cases hleaves with ⟨-, -, rfl⟩ | ⟨⟨c, rfl⟩, -⟩ <;> simp [Schema.references]
  simp only [List.mem_append, or_and_right, exists_or, hnone, or_false]

/-- The arms that agree with the implied kind refer to what stands in the shape keywords, and the
others to nothing. -/
lemma mem_references_armSchema_iff {arm : String} (hfits : d.Fits d.implied)
    (h : d.armSchema d.nested d.implied arm = .ok s) :
    name ∈ s.references ↔ (∃ k, Kind.ofName? arm = some k ∧ agrees k d.implied = true) ∧
      ∃ sub : Definition, sub.InShapeOf d ∧ sub.Yields name := by
  obtain ⟨k, hk, h⟩ := armSchema_eq_ok_iff.mp h
  simp only [hk, Option.some.injEq, exists_eq_left']
  split at h
  · next hagrees =>
    simp [mem_references_kindSchema_iff (fits_of_agrees hfits hagrees) h, hagrees]
  · next hagrees =>
    subst h
    simp [Schema.references, hagrees]

/-- What stands in the shape keywords is kept as far as these matter. -/
lemma mem_references_typeSchema_iff (himplied : d.impliedKind? = .ok kind)
    (h : d.typeSchema d.nested kind = .ok s) :
    name ∈ s.references ↔
      d.ShapeMatters ∧ ∃ sub : Definition, sub.InShapeOf d ∧ sub.Yields name := by
  have hfits := fits_implied himplied
  obtain ⟨rfl, -⟩ := impliedKind?_eq_ok himplied
  cases hnames : d.kindNames with
  | none =>
    rw [typeSchema_of_none hnames] at h
    simp [mem_references_kindSchema_iff hfits h, ShapeMatters, hnames]
  | some names =>
    cases names with
    | one one =>
      obtain ⟨k, -, hagrees, h⟩ := (typeSchema_one_eq_ok_iff hnames).mp h
      simp [mem_references_kindSchema_iff (fits_of_agrees hfits hagrees) h, ShapeMatters, hnames]
    | many names =>
      obtain ⟨-, arms, harms, rfl⟩ := (typeSchema_many_eq_ok_iff hnames).mp h
      have hproper : ∀ arm ∈ arms, arm ≠ .any :=
        forall_mem_of_forall₂ harms fun _ _ _ harm => armSchema_ne_any harm
      have hmatters : d.ShapeMatters ↔
          ∃ arm ∈ names, ∃ k, Kind.ofName? arm = some k ∧ agrees k d.implied = true := by
        simp [ShapeMatters, hnames]
      rw [Schema.mem_references_union_iff, and_iff_right hproper, hmatters,
        exists_mem_iff_of_forall₂ harms fun _ _ _ harm => mem_references_armSchema_iff hfits harm]
      simp only [← and_assoc, exists_and_right]

/-! ### The whole definition -/

lemma mem_references_allOf_iff {all : List Schema}
    (h : compositionSchema .allOf .intersection d.nested.allOf = .ok all) :
    (∃ s ∈ all, name ∈ s.references) ↔
      ∃ parts, d.allOf = some parts ∧ ∃ part ∈ parts, part.Yields name := by
  rcases compositionSchema_eq_ok_iff.mp h with ⟨hnone, rfl⟩ | ⟨parts, ss, hparts, hss, -, rfl⟩
  · simp [hnone]
  · have hyields : (∃ s ∈ ss, name ∈ s.references) ↔ ∃ part ∈ parts, part.Yields name :=
      exists_mem_iff_of_forall₂ hss fun _ _ _ hs => hs.yields_iff
    simp [hparts, Schema.mem_references_intersection_iff, hyields]

lemma mem_references_anyOf_iff {any : List Schema}
    (h : compositionSchema .anyOf .union d.nested.anyOf = .ok any) :
    (∃ s ∈ any, name ∈ s.references) ↔
      ∃ parts, d.anyOf = some parts ∧ (∀ part ∈ parts, ¬ part.AsksNothing) ∧
        ∃ part ∈ parts, part.Yields name := by
  rcases compositionSchema_eq_ok_iff.mp h with ⟨hnone, rfl⟩ | ⟨parts, ss, hparts, hss, -, rfl⟩
  · simp [hnone]
  · have hyields : (∃ s ∈ ss, name ∈ s.references) ↔ ∃ part ∈ parts, part.Yields name :=
      exists_mem_iff_of_forall₂ hss fun _ _ _ hs => hs.yields_iff
    have hasks : (∀ s ∈ ss, s ≠ .any) ↔ ∀ part ∈ parts, ¬ part.AsksNothing :=
      forall_mem_iff_of_forall₂ hss fun _ _ _ hs => not_congr (eq_any_iff hs)
    simp [hparts, Schema.mem_references_union_iff, hyields, hasks]

/-- What is kept in a definition stands in its shape keywords, if they matter, or in one of its
compositions, if that is not absorbed. -/
lemma exists_keptIn_iff {P : Definition → Prop} :
    (∃ sub : Definition, sub.KeptIn d ∧ P sub) ↔
      (d.ShapeMatters ∧ ∃ sub : Definition, sub.InShapeOf d ∧ P sub) ∨
      (∃ parts, d.allOf = some parts ∧ ∃ part ∈ parts, P part) ∨
      ∃ parts, d.anyOf = some parts ∧ (∀ part ∈ parts, ¬ part.AsksNothing) ∧
        ∃ part ∈ parts, P part := by
  constructor
  · rintro ⟨sub, ⟨hmatters, hshape⟩ | ⟨hparts, hmem⟩ | ⟨hparts, hmem, hasks⟩, hsub⟩
    · exact .inl ⟨hmatters, sub, hshape, hsub⟩
    · exact .inr (.inl ⟨_, hparts, sub, hmem, hsub⟩)
    · exact .inr (.inr ⟨_, hparts, hasks, sub, hmem, hsub⟩)
  · rintro (⟨hmatters, sub, hshape, hsub⟩ | ⟨parts, hparts, sub, hmem, hsub⟩ |
      ⟨parts, hparts, hasks, sub, hmem, hsub⟩)
    · exact ⟨sub, .shape hmatters hshape, hsub⟩
    · exact ⟨sub, .allOf hparts hmem, hsub⟩
    · exact ⟨sub, .anyOf hparts hmem hasks, hsub⟩

/-- A name in a schema is that of the reference of the definition, or it is kept from below. -/
lemma mem_references_iff_here_or_below (h : d.Defines s) :
    name ∈ s.references ↔
      d.reference = some name ∨ ∃ sub : Definition, sub.KeptIn d ∧ sub.Yields name := by
  obtain ⟨kind, himplied, typed, htyped, all, hall, any, hany, rfl⟩ := schema_eq_ok_iff.mp h
  have hreference : (∃ s ∈ (d.reference.map Schema.ref).toList, name ∈ s.references) ↔
      d.reference = some name := by
    cases d.reference <;> simp [Schema.references, eq_comm]
  rw [Schema.mem_references_intersection_iff, exists_keptIn_iff,
    ← mem_references_typeSchema_iff himplied htyped, ← mem_references_allOf_iff hall,
    ← mem_references_anyOf_iff hany, ← hreference]
  simp only [List.mem_append, List.mem_singleton, or_and_right, exists_or, exists_eq_left, or_assoc]

/-- **A schema refers to what its definition keeps.** -/
theorem mem_references_iff (h : d.Defines s) : name ∈ s.references ↔ d.Keeps name := by
  constructor
  · -- a definition in `d` is smaller than `d`
    induction hsize : sizeOf d using Nat.strongRecOn generalizing d s with
    | _ size ih =>
      intro hname
      rcases (mem_references_iff_here_or_below h).mp hname with hhere | ⟨sub, hsub, t, ht, hname⟩
      · exact ⟨d, .refl, hhere⟩
      · have hlt : sizeOf sub < size := hsize ▸ hsub.takenUpIn.partOf.sizeOf_lt
        exact (ih _ hlt ht rfl hname).of_part hsub
  · rintro ⟨q, hq, hreference⟩
    induction hq generalizing s with
    | refl => exact (mem_references_iff_here_or_below h).mpr (.inl hreference)
    | @tail sub d _ hsub ih =>
      -- what is kept in a definition with a schema has one too
      obtain ⟨t, ht⟩ := (hasSchema_iff.mp ⟨s, h⟩).2 sub hsub.takenUpIn
      exact (mem_references_iff_here_or_below h).mpr (.inr ⟨sub, hsub, t, ht, ih ht⟩)

end Definition

end TreeSchema
