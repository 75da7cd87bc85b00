/-
Compositions in normal form match the same values.

`Schema.intersection` and `Schema.union` leave out what adds nothing: a part that
admits everything, the composition around a single part, a composition of the same sort around
some of the parts.  None of it can be told from the plain composition by matching, whatever names
are opened (`matchesWithin_intersection_eq_allOf`, `matchesWithin_union_eq_anyOf`).
-/
import TreeSchema.Proofs.Matching.Equations
import TreeSchema.Schema.Composition

namespace TreeSchema

namespace Registry

variable (r : Registry) (depth : Nat) (opened : List String) (v : Json)

/-- What a schema adds to an intersection asks for as much as the schema. -/
lemma forall_conjuncts_iff (s : Schema) :
    (∀ part ∈ s.conjuncts, r.matchesWithin depth opened part v = true) ↔
      r.matchesWithin depth opened s v = true := by
  cases s <;> simp [Schema.conjuncts]

/-- What a schema adds to a union admits as much as the schema. -/
lemma exists_disjuncts_iff (s : Schema) :
    (∃ part ∈ s.disjuncts, r.matchesWithin depth opened part v = true) ↔
      r.matchesWithin depth opened s v = true := by
  cases s <;> simp [Schema.disjuncts]

lemma matchesWithin_of_isAny {s : Schema} (h : s.isAny = true) :
    r.matchesWithin depth opened s v = true := by
  cases s <;> simp_all [Schema.isAny]

/-- A value matches an intersection if it matches every part. -/
theorem matchesWithin_intersection (parts : List Schema) :
    r.matchesWithin depth opened (.intersection parts) v = true ↔
      ∀ part ∈ parts, r.matchesWithin depth opened part v = true := by
  have hparts : (∀ s ∈ parts.flatMap Schema.conjuncts, r.matchesWithin depth opened s v = true) ↔
      ∀ part ∈ parts, r.matchesWithin depth opened part v = true := by
    simp only [List.forall_mem_flatMap, forall_conjuncts_iff]
  rw [← hparts, Schema.intersection]
  split
  · next hnil => simp [hnil]
  · next s hone => simp [hone]
  · next several _ _ => exact matchesWithin_allOf ..

/-- A value matches a union if it matches some part. -/
theorem matchesWithin_union (parts : List Schema) :
    r.matchesWithin depth opened (.union parts) v = true ↔
      ∃ part ∈ parts, r.matchesWithin depth opened part v = true := by
  rw [Schema.union]
  split
  · next hany =>
    obtain ⟨part, hmem, hpart⟩ := List.any_eq_true.mp hany
    exact iff_of_true (matchesWithin_any ..)
      ⟨part, hmem, matchesWithin_of_isAny r depth opened v hpart⟩
  · have hparts : (∃ s ∈ parts.flatMap Schema.disjuncts, r.matchesWithin depth opened s v = true) ↔
        ∃ part ∈ parts, r.matchesWithin depth opened part v = true := by
      constructor
      · rintro ⟨s, hs, hmatch⟩
        obtain ⟨part, hpart, hs⟩ := List.mem_flatMap.mp hs
        exact ⟨part, hpart, (exists_disjuncts_iff ..).mp ⟨s, hs, hmatch⟩⟩
      · rintro ⟨part, hpart, hmatch⟩
        obtain ⟨s, hs, hmatch⟩ := (exists_disjuncts_iff ..).mpr hmatch
        exact ⟨s, List.mem_flatMap.mpr ⟨part, hpart, hs⟩, hmatch⟩
    rw [← hparts]
    split
    · next s hone => simp [hone]
    · exact matchesWithin_anyOf ..

/-- The normal form of an intersection is matched like the plain intersection. -/
theorem matchesWithin_intersection_eq_allOf (parts : List Schema) :
    r.matchesWithin depth opened (.intersection parts) v =
      r.matchesWithin depth opened (.allOf parts) v := by
  rw [Bool.eq_iff_iff, matchesWithin_intersection, matchesWithin_allOf]

/-- The normal form of a union is matched like the plain union. -/
theorem matchesWithin_union_eq_anyOf (parts : List Schema) :
    r.matchesWithin depth opened (.union parts) v =
      r.matchesWithin depth opened (.anyOf parts) v := by
  rw [Bool.eq_iff_iff, matchesWithin_union, matchesWithin_anyOf]

end Registry

end TreeSchema
