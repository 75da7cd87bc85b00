/-
The comparison of an enumeration is an equivalence.

Among keyed values the comparison does not depend on which of the two is called the literal.  This
is not plain from the way objects are compared: the fields of the literal are looked up in the
value, and of the other fields only the number counts.  But a literal and a value with as many
fields have the same names, if none of these comes twice (`perm_names_of_admit`), so to look up the
fields of the value in the literal finds the same pairs.

The comparison also holds of any two values that are equal as data.  Equal data is compared by the
same look-up, with numbers kept apart more strictly.
-/
import TreeSchema.Proofs.Json.Alike

namespace TreeSchema

lemma Number.equalsLiteral_symm {a b : Number} (h : a.equalsLiteral b = true) :
    b.equalsLiteral a = true := by
  simp only [equalsLiteral, Binary64.sameRank, beq_iff_eq] at h ⊢
  exact h.symm

lemma Number.equalsLiteral_trans {a b c : Number} (hab : a.equalsLiteral b = true)
    (hbc : b.equalsLiteral c = true) : a.equalsLiteral c = true := by
  simp only [equalsLiteral, Binary64.sameRank, beq_iff_eq] at hab hbc ⊢
  exact hab.trans hbc

/-- Equal numbers are rounded to doubles that share a place. -/
lemma Number.equalsLiteral_of_same {a b : Number} (h : a.same b = true) :
    b.equalsLiteral a = true := by
  cases a with
  | integer i =>
    cases b with
    | integer j =>
      obtain rfl : i = j := by simpa [same] using h
      simp [equalsLiteral, Binary64.sameRank]
    | double y => cases h
  | double x =>
    cases b with
    | integer j => cases h
    | double y =>
      have hrank : x.rank = y.rank := by simpa [same, Binary64.sameRank] using h
      simp [equalsLiteral, toBinary64, Binary64.sameRank, hrank]

namespace Json

variable {a b c : Json}

/-! ### Symmetry and transitivity -/

/-- The value may be taken as the literal and the literal as the value. -/
lemma literalAdmits_symm (ha : a.Keyed) (hb : b.Keyed) (h : literalAdmits b a = true) :
    literalAdmits a b = true := by
  induction hb generalizing a with
  | null =>
    cases a with
    | null => rfl
    | _ => cases h
  | bool value =>
    cases a with
    | bool w =>
      obtain rfl : w = value := by simpa [literalAdmits] using h
      simp [literalAdmits]
    | _ => cases h
  | number value =>
    cases a with
    | number n =>
      rw [literalAdmits] at h ⊢
      exact Number.equalsLiteral_symm h
    | _ => cases h
  | string value =>
    cases a with
    | string text =>
      obtain rfl : text = value := by simpa [literalAdmits] using h
      simp [literalAdmits]
    | _ => cases h
  | @array literals _ ih =>
    cases ha with
    | @array vs hvs =>
      rw [literalAdmits, literalsAdmit_iff, List.forall₂_iff_get] at h ⊢
      obtain ⟨hlength, helements⟩ := h
      refine ⟨hlength.symm, fun i hi hj => ?_⟩
      exact ih _ (List.getElem_mem hj) (hvs _ (List.getElem_mem hi)) (helements i hj hi)
    | _ => cases h
  | @object literals hnames _ ih =>
    cases ha with
    | @object fields hnames' hfields =>
      rw [literalAdmits, Bool.and_eq_true, beq_iff_eq] at h ⊢
      obtain ⟨hlength, hadmit⟩ := h
      refine ⟨hlength.symm, fieldLiteralsAdmit_iff.mpr ?_⟩
      rintro ⟨name, v⟩ hfield
      -- a field of the value has a name of the literal, under which the literal has found it
      have hperm := perm_names_of_admit hnames hlength hadmit
      have hname : name ∈ Entries.names literals :=
        hperm.mem_iff.mpr (Entries.mem_names_of_mem hfield)
      obtain ⟨⟨_, literal⟩, hliteral, rfl⟩ := List.mem_map.mp hname
      obtain ⟨v', hv', hadmits⟩ := fieldLiteralsAdmit_iff.mp hadmit _ hliteral
      obtain rfl : v' = v := Option.some.inj (hv'.symm.trans (Entries.get?_of_mem hnames' hfield))
      exact ⟨literal, Entries.get?_of_mem hnames hliteral,
        ih _ hliteral (hfields _ hfield) hadmits⟩
    | _ => cases h

lemma literalAdmits_trans (hc : c.Keyed) (hbc : literalAdmits c b = true)
    (hab : literalAdmits b a = true) : literalAdmits c a = true := by
  induction hc generalizing a b with
  | null =>
    cases b with
    | null => exact hab
    | _ => cases hbc
  | bool value =>
    cases b with
    | bool w =>
      obtain rfl : w = value := by simpa [literalAdmits] using hbc
      exact hab
    | _ => cases hbc
  | number value =>
    cases b with
    | number m =>
      cases a with
      | number n =>
        rw [literalAdmits] at hab hbc ⊢
        exact Number.equalsLiteral_trans hab hbc
      | _ => cases hab
    | _ => cases hbc
  | string value =>
    cases b with
    | string text =>
      obtain rfl : text = value := by simpa [literalAdmits] using hbc
      exact hab
    | _ => cases hbc
  | @array zs _ ih =>
    cases b with
    | array ys =>
      cases a with
      | array xs =>
        rw [literalAdmits, literalsAdmit_iff, List.forall₂_iff_get] at hab hbc ⊢
        obtain ⟨hxy, hab⟩ := hab
        obtain ⟨hyz, hbc⟩ := hbc
        refine ⟨hyz.trans hxy, fun i hz hx => ?_⟩
        have hy : i < ys.length := hyz ▸ hz
        exact ih _ (List.getElem_mem hz) (hbc i hz hy) (hab i hy hx)
      | _ => cases hab
    | _ => cases hbc
  | @object zs _ _ ih =>
    cases b with
    | object ys =>
      cases a with
      | object xs =>
        rw [literalAdmits, Bool.and_eq_true, beq_iff_eq, fieldLiteralsAdmit_iff] at hab hbc ⊢
        obtain ⟨hxy, hab⟩ := hab
        obtain ⟨hyz, hbc⟩ := hbc
        refine ⟨hxy.trans hyz, fun field hfield => ?_⟩
        obtain ⟨y, hy, hadmits⟩ := hbc field hfield
        obtain ⟨x, hx, hadmits'⟩ := hab _ (Entries.get?_mem hy)
        exact ⟨x, hx, ih field hfield hadmits hadmits'⟩
      | _ => cases hab
    | _ => cases hbc

/-! ### Equal data -/

lemma sameElements_iff {vs ws : List Json} :
    sameElements vs ws = true ↔ List.Forall₂ (fun v w => v.same w = true) vs ws := by
  induction vs generalizing ws with
  | nil => cases ws <;> simp [sameElements]
  | cons v rest ih => cases ws <;> simp [sameElements, ih]

lemma sameFields_iff {left right : List (String × Json)} :
    sameFields left right = true ↔ ∀ field ∈ left, ∃ w,
      Entries.get? right field.1 = some w ∧ field.2.same w = true := by
  induction left with
  | nil => simp [sameFields]
  | cons field rest ih =>
    obtain ⟨name, v⟩ := field
    rw [sameFields, Bool.and_eq_true, ih, List.forall_mem_cons]
    refine and_congr_left fun _ => ?_
    cases Entries.get? right name <;> simp

/-- Each of two equal values admits the other one as a literal. -/
lemma literalAdmits_of_same (ha : a.Keyed) (h : a.same b = true) : literalAdmits a b = true := by
  induction ha generalizing b with
  | null =>
    cases b with
    | null => rfl
    | _ => cases h
  | bool value =>
    cases b with
    | bool w =>
      obtain rfl : value = w := by simpa [same] using h
      simp [literalAdmits]
    | _ => cases h
  | number value =>
    cases b with
    | number n =>
      rw [same] at h
      rw [literalAdmits]
      exact Number.equalsLiteral_of_same h
    | _ => cases h
  | string value =>
    cases b with
    | string text =>
      obtain rfl : value = text := by simpa [same] using h
      simp [literalAdmits]
    | _ => cases h
  | @array vs _ ih =>
    cases b with
    | array ws =>
      rw [same, sameElements_iff, List.forall₂_iff_get] at h
      rw [literalAdmits, literalsAdmit_iff, List.forall₂_iff_get]
      obtain ⟨hlength, helements⟩ := h
      exact ⟨hlength, fun i hi hj => ih _ (List.getElem_mem hi) (helements i hi hj)⟩
    | _ => cases h
  | @object vs _ _ ih =>
    cases b with
    | object ws =>
      rw [same, Bool.and_eq_true, beq_iff_eq, sameFields_iff] at h
      rw [literalAdmits, Bool.and_eq_true, beq_iff_eq, fieldLiteralsAdmit_iff]
      obtain ⟨hlength, hfields⟩ := h
      refine ⟨hlength.symm, fun field hfield => ?_⟩
      obtain ⟨w, hw, hsame⟩ := hfields field hfield
      exact ⟨w, hw, ih field hfield hsame⟩
    | _ => cases h

/-- **The comparison of an enumeration is an equivalence on keyed values that holds of equal
data.** -/
theorem equalsLiteral_equivalence (ha : a.Keyed) (hb : b.Keyed) (hc : c.Keyed) :
    a.equalsLiteral a = true ∧
      a.equalsLiteral b = b.equalsLiteral a ∧
      (a.equalsLiteral b = true → b.equalsLiteral c = true → a.equalsLiteral c = true) ∧
      (a.same b = true → a.equalsLiteral b = true) := by
  refine ⟨?_, ?_, ?_, ?_⟩
  · exact literalAdmits_of_same ha ha.same_self
  · rw [Bool.eq_iff_iff]
    exact ⟨literalAdmits_symm ha hb, literalAdmits_symm hb ha⟩
  · exact fun hab hbc => literalAdmits_trans hc hbc hab
  · exact fun h => literalAdmits_symm hb ha (literalAdmits_of_same ha h)

/-- A point in the plane. -/
def point : Json :=
  .object [("x", .number (.integer 1)),
    ("at", .array [.null, .object [("y", .number (.double ⟨0⟩))]])]

/-- The point with its fields in another order and a zero with a sign. -/
def reordered : Json :=
  .object [("at", .array [.null, .object [("y", .number (.double ⟨0x8000000000000000⟩))]]),
    ("x", .number (.integer 1))]

/-- The point with the other form of each number. -/
def restated : Json :=
  .object [("at", .array [.null, .object [("y", .number (.integer 0))]]),
    ("x", .number (.double ⟨0x3ff0000000000000⟩))]

/-- The point is the same as the reordered one and equals the restated one. -/
theorem point_equals_restated :
    (point.Keyed ∧ reordered.Keyed ∧ restated.Keyed) ∧
      point.equalsLiteral point = true ∧
      point.equalsLiteral reordered = reordered.equalsLiteral point ∧
      point.equalsLiteral restated = true := by
  have hat : ∀ y, Keyed (.array [.null, .object [("y", .number y)]]) := by
    intro y
    refine .array (List.forall_mem_cons.mpr ⟨.null, List.forall_mem_singleton.mpr ?_⟩)
    exact .object (by simp) (List.forall_mem_singleton.mpr (.number _))
  have hpoint : point.Keyed := by
    refine .object (by decide) (List.forall_mem_cons.mpr ⟨.number _, ?_⟩)
    exact List.forall_mem_singleton.mpr (hat _)
  have hother : ∀ x y, Keyed (.object [("at", .array [.null, .object [("y", .number y)]]),
      ("x", .number x)]) := by
    intro x y
    refine .object (by simp) (List.forall_mem_cons.mpr ⟨hat _, ?_⟩)
    exact List.forall_mem_singleton.mpr (.number _)
  have hreordered : reordered.Keyed := hother _ _
  have hrestated : restated.Keyed := hother _ _
  obtain ⟨hrefl, hsymm, htrans, hsame⟩ := equalsLiteral_equivalence hpoint hreordered hrestated
  have hequals : point.equalsLiteral reordered = true := hsame rfl
  exact ⟨⟨hpoint, hreordered, hrestated⟩, hrefl, hsymm, htrans hequals (by rfl)⟩

end Json

end TreeSchema
