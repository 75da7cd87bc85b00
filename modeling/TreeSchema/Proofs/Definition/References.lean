/-
What definitions refer to.

A definition refers to the name of its reference and to whatever the definitions in it refer to.
Its schema refers to no other names (`refersTo_of_mem_references`): the compositions that
the keywords are made into may leave parts out, but they put nothing in.  An intersection leaves out
no part that refers to something (`mem_references_intersection_iff`), and a union does so only if it
leaves out all of them (`mem_references_union_iff`).
-/
import TreeSchema.Proofs.Definition.Carries
import TreeSchema.Proofs.Schema.References

namespace TreeSchema

namespace Schema

variable {name : String} {s : Schema} {parts : List Schema}

/-! ### Compositions -/

lemma mem_references_of_mem_conjuncts {s part : Schema} (hmem : part ∈ s.conjuncts)
    (hname : name ∈ part.references) : name ∈ s.references := by
  cases s with
  | any => cases hmem
  | allOf parts => exact mem_references_allOf hmem hname
  | _ =>
    obtain rfl := List.mem_singleton.mp hmem
    exact hname

lemma mem_references_of_mem_disjuncts {s part : Schema} (hmem : part ∈ s.disjuncts)
    (hname : name ∈ part.references) : name ∈ s.references := by
  cases s with
  | anyOf parts => exact mem_references_anyOf hmem hname
  | _ =>
    obtain rfl := List.mem_singleton.mp hmem
    exact hname

/-- An intersection refers to nothing but what its parts refer to. -/
lemma exists_mem_references_of_intersection (h : name ∈ (intersection parts).references) :
    ∃ part ∈ parts, name ∈ part.references := by
  have hflat : ∀ s ∈ parts.flatMap conjuncts, name ∈ s.references →
      ∃ part ∈ parts, name ∈ part.references := by
    intro s hs hname
    obtain ⟨part, hpart, hmem⟩ := List.mem_flatMap.mp hs
    exact ⟨part, hpart, mem_references_of_mem_conjuncts hmem hname⟩
  unfold intersection at h
  split at h
  · simp [references] at h
  · next s hone => exact hflat s (by simp [hone]) h
  · obtain ⟨s, hs, hname⟩ := mem_partReferences_iff.mp (by simpa only [references] using h)
    exact hflat s hs hname

/-- A union refers to nothing but what its parts refer to. -/
lemma exists_mem_references_of_union (h : name ∈ (union parts).references) :
    ∃ part ∈ parts, name ∈ part.references := by
  have hflat : ∀ s ∈ parts.flatMap disjuncts, name ∈ s.references →
      ∃ part ∈ parts, name ∈ part.references := by
    intro s hs hname
    obtain ⟨part, hpart, hmem⟩ := List.mem_flatMap.mp hs
    exact ⟨part, hpart, mem_references_of_mem_disjuncts hmem hname⟩
  unfold union at h
  split at h
  · simp [references] at h
  · split at h
    · next s hone => exact hflat s (by simp [hone]) h
    · obtain ⟨s, hs, hname⟩ := mem_partReferences_iff.mp (by simpa only [references] using h)
      exact hflat s hs hname

lemma exists_mem_conjuncts_of_mem_references (h : name ∈ s.references) :
    ∃ part ∈ s.conjuncts, name ∈ part.references := by
  cases s with
  | any => simp [references] at h
  | allOf parts =>
    rw [references] at h
    exact mem_partReferences_iff.mp h
  | _ => exact ⟨_, List.mem_singleton_self _, h⟩

lemma exists_mem_disjuncts_of_mem_references (h : name ∈ s.references) :
    ∃ part ∈ s.disjuncts, name ∈ part.references := by
  cases s with
  | anyOf parts =>
    rw [references] at h
    exact mem_partReferences_iff.mp h
  | _ => exact ⟨_, List.mem_singleton_self _, h⟩

/-- An intersection refers to all that its parts refer to. -/
lemma mem_references_intersection_iff :
    name ∈ (intersection parts).references ↔ ∃ part ∈ parts, name ∈ part.references := by
  refine ⟨exists_mem_references_of_intersection, ?_⟩
  rintro ⟨part, hpart, hname⟩
  obtain ⟨s, hs, hname⟩ := exists_mem_conjuncts_of_mem_references hname
  have hmem : s ∈ parts.flatMap conjuncts := List.mem_flatMap.mpr ⟨part, hpart, hs⟩
  unfold intersection
  split
  · next hnil => simp [hnil] at hmem
  · next one hone =>
    obtain rfl := List.mem_singleton.mp (hone ▸ hmem)
    exact hname
  · exact mem_references_allOf hmem hname

lemma any_isAny_iff : parts.any isAny = true ↔ ∃ part ∈ parts, part = .any := by
  simp only [List.any_eq_true]
  refine exists_congr fun part => and_congr_right fun _ => ?_
  cases part <;> simp [isAny]

/-- A union refers to all that its parts refer to, unless it is absorbed by one of them. -/
lemma mem_references_union_iff :
    name ∈ (union parts).references ↔
      (∀ part ∈ parts, part ≠ .any) ∧ ∃ part ∈ parts, name ∈ part.references := by
  by_cases hany : parts.any isAny = true
  · obtain ⟨part, hpart, heq⟩ := any_isAny_iff.mp hany
    simp only [union, hany, if_true, references, List.not_mem_nil, false_iff]
    exact fun h => h.1 part hpart heq
  · have hproper : ∀ part ∈ parts, part ≠ .any := fun part hpart heq =>
      hany (any_isAny_iff.mpr ⟨part, hpart, heq⟩)
    refine ⟨fun h => ⟨hproper, exists_mem_references_of_union h⟩, ?_⟩
    rintro ⟨-, part, hpart, hname⟩
    obtain ⟨s, hs, hname⟩ := exists_mem_disjuncts_of_mem_references hname
    have hmem : s ∈ parts.flatMap disjuncts := List.mem_flatMap.mpr ⟨part, hpart, hs⟩
    rw [union, if_neg hany]
    split
    · next one hone =>
      obtain rfl := List.mem_singleton.mp (hone ▸ hmem)
      exact hname
    · exact mem_references_anyOf hmem hname

end Schema

namespace Definition

/-- The name stands in a reference of the definition, or of a definition in it. -/
inductive RefersTo : Definition → String → Prop where
  | here {d : Definition} {name : String} (hname : d.reference = some name) : RefersTo d name
  | part {sub d : Definition} {name : String} (hpart : sub.PartOf d) (hsub : RefersTo sub name) :
      RefersTo d name

/-- At each step, definitions that refer to names of a set give schemas that do. -/
lemma carries_references (names : Set String) :
    Carries (fun d => ∀ name, d.RefersTo name → name ∈ names)
      (fun s => ∀ name ∈ s.references, name ∈ names) where
  part := fun hd hpart name hname => hd name (.part hpart hname)
  ref := fun hd href name hname => by
    obtain rfl := List.mem_singleton.mp (by simpa only [Schema.references] using hname)
    exact hd name (.here href)
  leaf := fun _ _ _ name hname => by simp [Schema.references] at hname
  object := fun _ _ hproperties name hname => by
    obtain ⟨property, hmem, hname⟩ :=
      Schema.mem_propertyReferences_iff.mp (by simpa only [Schema.references] using hname)
    exact hproperties property hmem name hname
  array := by
    intro items least most _ hitems name hname
    cases items with
    | none => simp [Schema.references] at hname
    | some item => exact hitems item rfl name (by simpa only [Schema.references] using hname)
  intersection := fun hparts name hname => by
    obtain ⟨part, hmem, hname⟩ := Schema.exists_mem_references_of_intersection hname
    exact hparts part hmem name hname
  union := fun _ hparts name hname => by
    obtain ⟨part, hmem, hname⟩ := Schema.exists_mem_references_of_union hname
    exact hparts part hmem name hname

/-- **A schema refers only to what its definition refers to.** -/
theorem refersTo_of_mem_references {d : Definition} {s : Schema} {name : String}
    (h : d.schema = .ok s) (hname : name ∈ s.references) : d.RefersTo name :=
  (carries_references {name | d.RefersTo name}).schema (fun _ hd => hd) h name hname

end Definition

end TreeSchema
