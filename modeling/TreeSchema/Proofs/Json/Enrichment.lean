/-
Further fields.

A value is enriched by fields of certain names if these are added to any of the objects in it, at
any depth and in any place among the fields that are there.  `Json.Enriched` says this by what can
be seen of a value: elements stay in their places, no field gets lost, only fields of the given
names are new, and what is in a field or element is enriched in turn.  The rules
`Enriched.array_cons`, `Enriched.object_cons` and `Enriched.object_add` build an enriched value
field by field.

What was there stays there, so a value and an enriched one differ only in their objects.  A literal
without objects therefore equals both or neither (`Enriched.equalsLiteral_eq`).
-/
import Mathlib.Data.Set.Defs
import TreeSchema.Json.Equality
import TreeSchema.Proofs.Entries
import TreeSchema.Proofs.Results

namespace TreeSchema

namespace Json

/-- The second value is the first one with further fields in some of its objects, and these have
names of a set.  The order of fields does not count. -/
inductive Enriched (names : Set String) : Json → Json → Prop where
  | refl (v : Json) : Enriched names v v
  | array {vs ws : List Json} (hlength : vs.length = ws.length)
      (helements : ∀ (i : Nat) v w, vs[i]? = some v → ws[i]? = some w → Enriched names v w) :
      Enriched names (.array vs) (.array ws)
  | object {vs ws : Entries Json}
      (hkept : ∀ name, (vs.get? name).isSome → (ws.get? name).isSome)
      (hnew : ∀ name, (ws.get? name).isSome → (vs.get? name).isSome ∨ name ∈ names)
      (hfields : ∀ name v w, vs.get? name = some v → ws.get? name = some w → Enriched names v w) :
      Enriched names (.object vs) (.object ws)

/-- There is no object in the value. -/
inductive ObjectFree : Json → Prop where
  | null : ObjectFree .null
  | bool (value : Bool) : ObjectFree (.bool value)
  | number (value : Number) : ObjectFree (.number value)
  | string (value : String) : ObjectFree (.string value)
  | array {elements : List Json} (h : ∀ v ∈ elements, ObjectFree v) : ObjectFree (.array elements)

variable {names : Set String}

namespace Enriched

variable {v w : Json} {vs ws : Entries Json} {name : String}

/-! ### What an enriched value looks like -/

lemma form_eq (h : Enriched names v w) : v.form = w.form := by
  cases h <;> rfl

lemma isIntegral_eq (h : Enriched names v w) : v.isIntegral = w.isIntegral := by
  cases h <;> rfl

lemma string?_eq (h : Enriched names v w) : v.string? = w.string? := by
  cases h <;> rfl

lemma double?_eq (h : Enriched names v w) : v.double? = w.double? := by
  cases h <;> rfl

/-- Elements are enriched one by one. -/
lemma elements (h : Enriched names v w) :
    List.Forall₂ (Enriched names) v.elements w.elements := by
  cases h with
  | refl => exact List.forall₂_same.mpr fun child _ => .refl child
  | array hlength helements => exact forall₂_of_getElem? hlength helements
  | object => exact .nil

lemma object_iff : Enriched names (.object vs) (.object ws) ↔
    (∀ name v, vs.get? name = some v → ∃ w, ws.get? name = some w ∧ Enriched names v w) ∧
      ∀ name, (ws.get? name).isSome → (vs.get? name).isSome ∨ name ∈ names := by
  constructor
  · intro h
    cases h with
    | refl => exact ⟨fun name v hv => ⟨v, hv, .refl v⟩, fun name hname => .inl hname⟩
    | object hkept hnew hfields =>
      refine ⟨fun name v hv => ?_, hnew⟩
      obtain ⟨w, hw⟩ := Option.isSome_iff_exists.mp (hkept name (Option.isSome_of_eq_some hv))
      exact ⟨w, hw, hfields name v w hv hw⟩
  · rintro ⟨hkept, hnew⟩
    refine .object (fun name hname => ?_) hnew fun name v w hv hw => ?_
    · obtain ⟨v, hv⟩ := Option.isSome_iff_exists.mp hname
      obtain ⟨w, hw, -⟩ := hkept name v hv
      exact Option.isSome_of_eq_some hw
    · obtain ⟨w', hw', h⟩ := hkept name v hv
      obtain rfl := Option.some.inj (hw.symm.trans hw')
      exact h

/-- The fields that were there are still there. -/
lemma field {child : Json} (h : Enriched names v w) (hchild : v.field? name = some child) :
    ∃ other, w.field? name = some other ∧ Enriched names child other := by
  cases h with
  | refl => exact ⟨child, hchild, .refl child⟩
  | array => cases hchild
  | object hkept hnew hfields =>
    -- the premises of the rule say less directly what `object_iff` says
    have henriched : Enriched names _ _ := .object hkept hnew hfields
    exact (object_iff.mp henriched).1 name child hchild

/-- The fields that are there now were there before, but for the names of the set. -/
lemma field_of_not_mem {child : Json} (h : Enriched names v w) (hname : name ∉ names)
    (hchild : w.field? name = some child) :
    ∃ other, v.field? name = some other ∧ Enriched names other child := by
  cases h with
  | refl => exact ⟨child, hchild, .refl child⟩
  | array => cases hchild
  | object _ hnew hfields =>
    have hold := (hnew name (Option.isSome_of_eq_some hchild)).resolve_right hname
    obtain ⟨other, hother⟩ := Option.isSome_iff_exists.mp hold
    exact ⟨other, hother, hfields name other child hother hchild⟩

/-! ### Adding fields -/

/-- An array begins with an enriched element. -/
lemma array_cons {elements others : List Json} (h : Enriched names v w)
    (hrest : Enriched names (.array elements) (.array others)) :
    Enriched names (.array (v :: elements)) (.array (w :: others)) := by
  obtain ⟨hlength, hget⟩ := List.forall₂_iff_get.mp (List.Forall₂.cons h hrest.elements)
  refine .array hlength fun i x y hx hy => ?_
  obtain ⟨hi, rfl⟩ := List.getElem?_eq_some_iff.mp hx
  obtain ⟨hj, rfl⟩ := List.getElem?_eq_some_iff.mp hy
  exact hget i hi hj

/-- An object begins with an enriched field. -/
lemma object_cons (h : Enriched names v w) (hrest : Enriched names (.object vs) (.object ws)) :
    Enriched names (.object ((name, v) :: vs)) (.object ((name, w) :: ws)) := by
  rw [object_iff] at hrest ⊢
  obtain ⟨hkept, hnew⟩ := hrest
  constructor
  · intro other x hx
    by_cases hname : name = other
    · rw [Entries.get?, if_pos hname] at hx ⊢
      cases hx
      exact ⟨w, rfl, h⟩
    · rw [Entries.get?, if_neg hname] at hx ⊢
      exact hkept other x hx
  · intro other hother
    by_cases hname : name = other
    · exact .inl (by simp [Entries.get?, hname])
    · rw [Entries.get?, if_neg hname] at hother ⊢
      exact hnew other hother

/-- An object begins with a field that was not there before. -/
lemma object_add (new : Json) (hname : name ∈ names) (hfresh : vs.get? name = none)
    (hrest : Enriched names (.object vs) (.object ws)) :
    Enriched names (.object vs) (.object ((name, new) :: ws)) := by
  rw [object_iff] at hrest ⊢
  obtain ⟨hkept, hnew⟩ := hrest
  constructor
  · intro other x hx
    -- the new field does not hide any that was there
    have hne : name ≠ other := by
      rintro rfl
      cases hfresh.symm.trans hx
    rw [Entries.get?, if_neg hne]
    exact hkept other x hx
  · intro other hother
    by_cases heq : name = other
    · exact .inr (heq ▸ hname)
    · rw [Entries.get?, if_neg heq] at hother
      exact hnew other hother

end Enriched

/-! ### Literals without objects -/

lemma literalsAdmit_eq_of_forall₂ {vs ws literals : List Json}
    (h : List.Forall₂ (fun v w => ∀ literal : Json, literal.ObjectFree →
      literalAdmits literal v = literalAdmits literal w) vs ws)
    (hliterals : ∀ literal ∈ literals, literal.ObjectFree) :
    literalsAdmit literals vs = literalsAdmit literals ws := by
  induction h generalizing literals with
  | nil => rfl
  | cons hfirst _ ih =>
    cases literals with
    | nil => rfl
    | cons literal rest =>
      obtain ⟨hliteral, hrest⟩ := List.forall_mem_cons.mp hliterals
      rw [literalsAdmit, literalsAdmit, hfirst literal hliteral, ih hrest]

/-- A literal without objects equals a value and an enriched one, or neither of them. -/
theorem Enriched.equalsLiteral_eq {v w literal : Json} (h : Enriched names v w)
    (hliteral : literal.ObjectFree) : v.equalsLiteral literal = w.equalsLiteral literal := by
  unfold equalsLiteral
  induction h generalizing literal with
  | refl => rfl
  | @array vs ws hlength _ ih =>
    cases hliteral with
    | array hliterals =>
      have helements : List.Forall₂ (fun v w => ∀ literal : Json, literal.ObjectFree →
          literalAdmits literal v = literalAdmits literal w) vs ws :=
        forall₂_of_getElem? hlength fun i v w hv hw literal hfree => ih i v w hv hw hfree
      rw [literalAdmits, literalAdmits, literalsAdmit_eq_of_forall₂ helements hliterals]
    | _ => rfl
  | object =>
    -- only a literal that is an object could equal an object
    cases hliteral <;> rfl

end Json

end TreeSchema
