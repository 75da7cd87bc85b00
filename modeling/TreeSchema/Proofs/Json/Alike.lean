/-
Values that an enumeration cannot tell apart.

An enumeration compares numbers by size and objects by name, so `1` equals `1.0` and the order
of fields does not count.  `Json.Alike` says the same by one rule for each form of value, and
symmetrically: the comparison itself takes a value and a literal and looks the fields of the
literal up in the value.  Alike values have the same form, the same texts and numbers of the
same size, and their fields and elements are alike.

What the comparison identifies is alike (`alike_of_equalsLiteral`).  That takes two properties
of the values that texts are read as: the literal is keyed, and both values are bounded.  A number
that is too long for sixty-four bits could be rounded to infinity, which is no integer.
-/
import TreeSchema.Proofs.Binary64.Integral
import TreeSchema.Proofs.Json.Bounded
import TreeSchema.Proofs.Json.Keyed

namespace TreeSchema

/-- Numbers of the same size both have a fractional part, or neither has. -/
lemma Number.isIntegral_eq_of_equalsLiteral {a b : Number} (ha : a.Fits) (hb : b.Fits)
    (h : a.equalsLiteral b = true) : a.isIntegral = b.isIntegral := by
  have hrank := Binary64.isIntegral_eq_of_sameRank h
  cases a with
  | integer i =>
    have hi : (Binary64.ofInt i).isIntegral = true := Binary64.isIntegral_ofInt ha.1 ha.2
    cases b with
    | integer j => rfl
    | double y => exact hi.symm.trans hrank
  | double x =>
    cases b with
    | integer j =>
      have hj : (Binary64.ofInt j).isIntegral = true := Binary64.isIntegral_ofInt hb.1 hb.2
      exact hrank.trans hj
    | double y => exact hrank

namespace Json

/-- Values of the same structure, the order of fields and the form of numbers apart. -/
inductive Alike : Json → Json → Prop where
  | null : Alike .null .null
  | bool (value : Bool) : Alike (.bool value) (.bool value)
  | number {a b : Number} (hsize : a.toBinary64.rank = b.toBinary64.rank)
      (hintegral : a.isIntegral = b.isIntegral) : Alike (.number a) (.number b)
  | string (value : String) : Alike (.string value) (.string value)
  | array {vs ws : List Json} (hlength : vs.length = ws.length)
      (helements : ∀ (i : Nat) v w, vs[i]? = some v → ws[i]? = some w → Alike v w) :
      Alike (.array vs) (.array ws)
  | object {vs ws : Entries Json} (hlength : vs.length = ws.length)
      (hnames : ∀ name, (vs.get? name).isSome = (ws.get? name).isSome)
      (hfields : ∀ name v w, vs.get? name = some v → ws.get? name = some w → Alike v w) :
      Alike (.object vs) (.object ws)

namespace Alike

variable {v w : Json}

lemma symm (h : Alike v w) : Alike w v := by
  induction h with
  | null => exact .null
  | bool value => exact .bool value
  | number hsize hintegral => exact .number hsize.symm hintegral.symm
  | string value => exact .string value
  | array hlength _ ih => exact .array hlength.symm fun i w v hw hv => ih i v w hv hw
  | object hlength hnames _ ih =>
    exact .object hlength.symm (fun name => (hnames name).symm)
      fun name w v hw hv => ih name v w hv hw

lemma form_eq (h : Alike v w) : v.form = w.form := by
  cases h <;> rfl

lemma isIntegral_eq (h : Alike v w) : v.isIntegral = w.isIntegral := by
  cases h with
  | number _ hintegral => exact hintegral
  | _ => rfl

lemma length_elements_eq (h : Alike v w) : v.elements.length = w.elements.length := by
  cases h with
  | array hlength _ => exact hlength
  | _ => rfl

lemma isSome_field?_eq (h : Alike v w) (name : String) :
    (v.field? name).isSome = (w.field? name).isSome := by
  cases h with
  | object _ hnames _ => exact hnames name
  | _ => rfl

/-- Fields of the same name are alike. -/
lemma field {name : String} {child : Json} (h : Alike v w) (hchild : w.field? name = some child) :
    ∃ other, v.field? name = some other ∧ Alike other child := by
  have hsome : (v.field? name).isSome = true := by
    rw [h.isSome_field?_eq, hchild, Option.isSome_some]
  obtain ⟨other, hother⟩ := Option.isSome_iff_exists.mp hsome
  refine ⟨other, hother, ?_⟩
  cases h with
  | object _ _ hfields => exact hfields name other child hother hchild
  | _ => cases hchild

/-- Elements in the same place are alike. -/
lemma element {child : Json} (h : Alike v w) (hchild : child ∈ w.elements) :
    ∃ other ∈ v.elements, Alike other child := by
  cases h with
  | @array vs ws hlength helements =>
    obtain ⟨i, hi, rfl⟩ := List.mem_iff_getElem.mp hchild
    have hi' : i < vs.length := hlength ▸ hi
    exact ⟨vs[i], List.getElem_mem hi', helements i _ _ (List.getElem?_eq_getElem hi')
      (List.getElem?_eq_getElem hi)⟩
  | _ => cases hchild

end Alike

/-! ### The comparison of an enumeration -/

lemma literalsAdmit_iff {literals vs : List Json} :
    literalsAdmit literals vs = true ↔
      List.Forall₂ (fun literal v => literalAdmits literal v = true) literals vs := by
  induction literals generalizing vs with
  | nil => cases vs <;> simp [literalsAdmit]
  | cons literal rest ih => cases vs <;> simp [literalsAdmit, ih]

lemma fieldLiteralsAdmit_iff {literals fields : List (String × Json)} :
    fieldLiteralsAdmit literals fields = true ↔ ∀ field ∈ literals, ∃ v,
      Entries.get? fields field.1 = some v ∧ literalAdmits field.2 v = true := by
  induction literals with
  | nil => simp [fieldLiteralsAdmit]
  | cons field rest ih =>
    obtain ⟨name, literal⟩ := field
    rw [fieldLiteralsAdmit, Bool.and_eq_true, ih, List.forall_mem_cons]
    refine and_congr_left fun _ => ?_
    cases Entries.get? fields name <;> simp

/-- An object that has all fields of a literal, and no more of them, has the same names. -/
lemma perm_names_of_admit {literals fields : List (String × Json)}
    (hnames : (Entries.names literals).Nodup) (hlength : fields.length = literals.length)
    (h : fieldLiteralsAdmit literals fields = true) :
    (Entries.names literals).Perm (Entries.names fields) := by
  refine Entries.perm_names hnames hlength fun name hname => ?_
  obtain ⟨field, hfield, rfl⟩ := List.mem_map.mp hname
  obtain ⟨v, hv, -⟩ := fieldLiteralsAdmit_iff.mp h field hfield
  exact Entries.mem_names_of_mem (Entries.get?_mem hv)

/-- **What the comparison identifies is alike.** -/
theorem alike_of_equalsLiteral {v w : Json} (hkeyed : w.Keyed) (hv : v.Bounded) (hw : w.Bounded)
    (h : v.equalsLiteral w = true) : Alike v w := by
  unfold equalsLiteral at h
  induction hkeyed generalizing v with
  | null =>
    cases v with
    | null => exact .null
    | _ => cases h
  | bool value =>
    cases v with
    | bool b =>
      obtain rfl : b = value := by simpa [literalAdmits] using h
      exact .bool b
    | _ => cases h
  | number value =>
    cases v with
    | number n =>
      cases hv with
      | number hn =>
        cases hw with
        | number hvalue =>
          have hequals : n.equalsLiteral value = true := by simpa [literalAdmits] using h
          have hsize : n.toBinary64.rank = value.toBinary64.rank := by
            simpa [Number.equalsLiteral, Binary64.sameRank] using hequals
          exact .number hsize (Number.isIntegral_eq_of_equalsLiteral hn hvalue hequals)
    | _ => cases h
  | string value =>
    cases v with
    | string text =>
      obtain rfl : text = value := by simpa [literalAdmits] using h
      exact .string text
    | _ => cases h
  | @array ws _ ih =>
    cases v with
    | array vs =>
      rw [literalAdmits, literalsAdmit_iff, List.forall₂_iff_get] at h
      obtain ⟨hlength, helements⟩ := h
      cases hv with
      | array hvs =>
        cases hw with
        | array hws =>
          refine .array hlength.symm fun i x y hx hy => ?_
          obtain ⟨hi, rfl⟩ := List.getElem?_eq_some_iff.mp hx
          obtain ⟨hj, rfl⟩ := List.getElem?_eq_some_iff.mp hy
          exact ih _ (List.getElem_mem hj) (hvs _ (List.getElem_mem hi))
            (hws _ (List.getElem_mem hj)) (helements i hj hi)
    | _ => cases h
  | @object ws hnames _ ih =>
    cases v with
    | object vs =>
      rw [literalAdmits, Bool.and_eq_true, beq_iff_eq] at h
      obtain ⟨hlength, hfields⟩ := h
      have hperm := perm_names_of_admit hnames hlength hfields
      cases hv with
      | object hvs =>
        cases hw with
        | object hws =>
          refine .object hlength (fun name => ?_) fun name x y hx hy => ?_
          · rw [Bool.eq_iff_iff, Entries.isSome_get?_iff, Entries.isSome_get?_iff, hperm.mem_iff]
          · have hmem := Entries.get?_mem hy
            obtain ⟨x', hx', hadmits⟩ := fieldLiteralsAdmit_iff.mp hfields _ hmem
            obtain rfl : x = x' := Option.some.inj (hx.symm.trans hx')
            exact ih _ hmem (hvs _ (Entries.get?_mem hx)) (hws _ hmem) hadmits
    | _ => cases h

/-- Alike values equal the same literals. -/
theorem Alike.equalsLiteral {v w literal : Json} (h : Alike v w)
    (hv : v.equalsLiteral literal = true) : w.equalsLiteral literal = true := by
  unfold Json.equalsLiteral at hv ⊢
  induction h generalizing literal with
  | null => exact hv
  | bool value => exact hv
  | @number a b hsize _ =>
    cases literal with
    | number n =>
      simpa [literalAdmits, Number.equalsLiteral, Binary64.sameRank, hsize] using hv
    | _ => cases hv
  | string value => exact hv
  | @array vs ws hlength _ ih =>
    cases literal with
    | array literals =>
      rw [literalAdmits, literalsAdmit_iff, List.forall₂_iff_get] at hv ⊢
      obtain ⟨hliterals, helements⟩ := hv
      refine ⟨hliterals.trans hlength, fun i hi hw => ?_⟩
      have hv : i < vs.length := hlength ▸ hw
      exact ih i vs[i] ws[i] (List.getElem?_eq_getElem hv) (List.getElem?_eq_getElem hw)
        (helements i hi hv)
    | _ => cases hv
  | @object vs ws hlength hnames _ ih =>
    cases literal with
    | object literals =>
      rw [literalAdmits, Bool.and_eq_true, beq_iff_eq, fieldLiteralsAdmit_iff] at hv ⊢
      obtain ⟨hliterals, hfields⟩ := hv
      refine ⟨hlength ▸ hliterals, fun field hfield => ?_⟩
      obtain ⟨x, hx, hadmits⟩ := hfields field hfield
      have hsome : (ws.get? field.1).isSome = true := by rw [← hnames, hx, Option.isSome_some]
      obtain ⟨y, hy⟩ := Option.isSome_iff_exists.mp hsome
      exact ⟨y, hy, ih field.1 x y hx hy hadmits⟩
    | _ => cases hv

end Json

end TreeSchema
