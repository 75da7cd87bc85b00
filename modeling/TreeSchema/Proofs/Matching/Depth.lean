/-
The limit of depth.

Matching goes down into fields and elements only so far, and what would have to be looked at below
the limit does not match.  The limit takes effect in the midst of intersections and unions and
behind references, so a higher limit changes which parts are looked at and which names are opened.
It does not change any answer for the worse: conformance within a depth is conformance within every
greater one (`ConformsWithin.mono`).  And it changes no answer at all where the limit is at least
the height of the value, because there the limit is never felt.
-/
import TreeSchema.Proofs.Matching.Conformance

namespace TreeSchema

namespace Registry

variable {r : Registry} {depth deeper : Nat} {s : Schema} {v : Json}

/-- What conforms within a depth conforms within every greater depth. -/
lemma ConformsWithin.mono (h : r.ConformsWithin depth s v) (hle : depth ≤ deeper) :
    r.ConformsWithin deeper s v := by
  induction h generalizing deeper with
  | any => exact .any
  | ref hlookup _ ih => exact .ref hlookup (ih hle)
  | leaf hadmits => exact .leaf hadmits
  | object hform hrequired hlevel _ ih =>
    -- one level further down there is still at least as much depth left
    refine .object hform hrequired (fun name sub child hmem hfield => ?_)
      (fun name sub child hmem hfield => ih name sub child hmem hfield ?_)
    · exact Nat.lt_of_lt_of_le (hlevel name sub child hmem hfield) hle
    · exact Nat.sub_le_sub_right hle 1
  | array hform hlength hlevel _ ih =>
    refine .array hform hlength (fun item hitem child hchild => ?_)
      (fun item hitem child hchild => ih item hitem child hchild ?_)
    · exact Nat.lt_of_lt_of_le (hlevel item hitem child hchild) hle
    · exact Nat.sub_le_sub_right hle 1
  | allOf _ ih => exact .allOf fun part hpart => ih part hpart hle
  | anyOf hmem _ ih => exact .anyOf hmem (ih hle)

/-- A higher limit loses no match. -/
lemma accepts_of_le (hle : depth ≤ deeper) (h : r.accepts depth s v = true) :
    r.accepts deeper s v = true := by
  rw [accepts_iff_conformsWithin] at h ⊢
  exact h.mono hle

/-- Limits that are not felt give the same answer. -/
lemma accepts_eq_of_height_le (hdepth : v.height ≤ depth) (hdeeper : v.height ≤ deeper) :
    r.accepts depth s v = r.accepts deeper s v := by
  rw [Bool.eq_iff_iff, accepts_iff_conforms r s hdepth, accepts_iff_conforms r s hdeeper]

/-- **The limit only hides matches, and only of values that are higher than it.**

* What matches within a limit matches within every higher one.
* Limits that are at least the height of a value give the same answer for it.
* So where two limits give different answers, it is the lower one that denies the match, and the
  value is higher than that. -/
theorem accepts_depth (r : Registry) (s : Schema) (v : Json) (depth deeper : Nat) :
    (depth ≤ deeper → r.accepts depth s v = true → r.accepts deeper s v = true) ∧
    (v.height ≤ depth → v.height ≤ deeper → r.accepts depth s v = r.accepts deeper s v) ∧
    (depth ≤ deeper → r.accepts depth s v ≠ r.accepts deeper s v →
      r.accepts depth s v = false ∧ r.accepts deeper s v = true ∧ depth < v.height) := by
  refine ⟨accepts_of_le, accepts_eq_of_height_le, fun hle hne => ?_⟩
  have hlow : depth < v.height := by
    by_contra hnot
    have hheight : v.height ≤ depth := Nat.le_of_not_lt hnot
    exact hne (accepts_eq_of_height_le hheight (Nat.le_trans hheight hle))
  cases hdepth : r.accepts depth s v with
  | true => exact absurd (hdepth.trans (accepts_of_le hle hdepth).symm) hne
  | false =>
    rw [hdepth] at hne
    have hdeeper : r.accepts deeper s v = true := by simpa using hne.symm
    exact ⟨rfl, hdeeper, hlow⟩

/-- Arrays of arrays of arrays, and so on. -/
def nests : Registry where
  entries := [("Nest", { schema := .array (some (.ref "Nest")) none none })]

/-- Two arrays in an array, with another one in the second. -/
def nest : Json := .array [.array [], .array [.array []]]

lemma nests_conforms_array_iff {elements : List Json} :
    nests.ConformsWithin depth (.ref "Nest") (.array elements) ↔ ∀ child ∈ elements,
      0 < depth ∧ nests.ConformsWithin (depth - 1) (.ref "Nest") child := by
  constructor
  · intro h child hchild
    cases h with
    | ref hlookup hentry =>
      cases hlookup
      cases hentry with
      | array _ _ hlevel helements =>
        exact ⟨hlevel _ rfl child hchild, helements _ rfl child hchild⟩
  · intro h
    refine .ref rfl (.array rfl rfl (fun _ _ child hchild => (h child hchild).1) ?_)
    intro item hitem child hchild
    cases hitem
    exact (h child hchild).2

/-- Nothing is below the second level of the nest.  So one level is too few, and nine levels are as
good as two. -/
theorem nests_accepts_nest :
    nest.height = 2 ∧ nests.accepts 2 (.ref "Nest") nest = true ∧
      nests.accepts 9 (.ref "Nest") nest = true ∧ nests.accepts 1 (.ref "Nest") nest = false ∧
      nests.accepts 2 (.ref "Nest") nest = nests.accepts 9 (.ref "Nest") nest := by
  have hheight : nest.height = 2 := by decide
  have htwo : nests.accepts 2 (.ref "Nest") nest = true := by
    simp [accepts_iff_conformsWithin, nest, nests_conforms_array_iff]
  have hdiffer : nests.accepts 1 (.ref "Nest") nest ≠ nests.accepts 2 (.ref "Nest") nest := by
    rw [htwo]
    simp [accepts_iff_conformsWithin, nest, nests_conforms_array_iff]
  obtain ⟨hmore, hsame, -⟩ := accepts_depth nests (.ref "Nest") nest 2 9
  obtain ⟨-, -, hhides⟩ := accepts_depth nests (.ref "Nest") nest 1 2
  exact ⟨hheight, htwo, hmore (by decide) htwo, (hhides (by decide) hdiffer).1,
    hsame (by decide) (by decide)⟩

end Registry

end TreeSchema
