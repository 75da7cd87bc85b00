/-
Values whose fields have different names.

The fields of an object are a list, and the type does not keep a name from coming twice.  In a
keyed value no name does, at any level.  The values that texts are read as are keyed, because
a field that is read again takes the place of the first one (`keyed_of_ofTextBeginning`).  And
comparing values by looking up the fields of one in the other is an equality only among keyed
values: these are the same as themselves (`Keyed.same_self`).
-/
import TreeSchema.Json.Equality
import TreeSchema.Proofs.Json.Reading

namespace TreeSchema

lemma Number.same_self (n : Number) : n.same n = true := by
  cases n <;> simp [same, Binary64.sameRank]

namespace Json

/-- No object in the value has two fields of the same name. -/
inductive Keyed : Json → Prop where
  | null : Keyed .null
  | bool (value : Bool) : Keyed (.bool value)
  | number (value : Number) : Keyed (.number value)
  | string (value : String) : Keyed (.string value)
  | array {elements : List Json} (helements : ∀ v ∈ elements, Keyed v) : Keyed (.array elements)
  | object {fields : List (String × Json)} (hnames : (Entries.names fields).Nodup)
      (hfields : ∀ field ∈ fields, Keyed field.2) : Keyed (.object fields)

/-! ### Equality -/

lemma sameElements_self {elements : List Json} (h : ∀ v ∈ elements, v.same v = true) :
    sameElements elements elements = true := by
  induction elements with
  | nil => rfl
  | cons v rest ih =>
    obtain ⟨hv, hrest⟩ := List.forall_mem_cons.mp h
    simp [sameElements, hv, ih hrest]

lemma sameFields_of_forall {left right : List (String × Json)}
    (h : ∀ field ∈ left, ∃ v, Entries.get? right field.1 = some v ∧ field.2.same v = true) :
    sameFields left right = true := by
  induction left with
  | nil => rfl
  | cons field rest ih =>
    obtain ⟨⟨v, hget, hsame⟩, hrest⟩ := List.forall_mem_cons.mp h
    obtain ⟨name, w⟩ := field
    simp [sameFields, hget, hsame, ih hrest]

/-- Keyed values are the same as themselves. -/
theorem Keyed.same_self {v : Json} (h : v.Keyed) : v.same v = true := by
  induction h with
  | null => rfl
  | bool value => simp [same]
  | number value => simp [same, Number.same_self]
  | string value => simp [same]
  | array _ ih => simp [same, sameElements_self ih]
  | object hnames _ ih =>
    have hfields := sameFields_of_forall fun field hfield =>
      ⟨field.2, Entries.get?_of_mem hnames hfield, ih field hfield⟩
    simp [same, hfields]

/-! ### Reading -/

lemma inherited_keyed : Inherited Keyed where
  null := .null
  bool value := .bool value
  number _ r _ := .number r.value
  string value := .string value
  array _ helements := .array helements
  object _ hnames hfields := .object hnames hfields

/-- **Texts are read as keyed values.** -/
theorem keyed_of_ofTextBeginning {text : String} {v : Json} (h : ofTextBeginning text = .ok v) :
    v.Keyed :=
  inherited_keyed.of_ofTextBeginning h

end Json

end TreeSchema
