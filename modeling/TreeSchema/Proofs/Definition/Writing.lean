/-
Definitions are read back from what they are written as.

A definition is written as an object with a field for each keyword that has a value, in the order of
the keywords (`Definition.written`).  What such an object gives to a keyword is the value written
under its name, so it is enough that the values of the keywords are read back one by one, and that
follows by induction on the definition (`ofJson_written`).  A bound that is a whole number of
sixty-four bits is written as an integer, and every other one as a double.
-/
import TreeSchema.Proofs.Definition.Rewording

namespace TreeSchema

namespace Binary64

/-- The double without its fraction. -/
def whole (x : Binary64) : Int :=
  let size : Int := x.numerator / x.denominator
  if x.isNegative then -size else size

/-- The number that a double is written as: an integer, if it stands for one that is kept as an
integer. -/
def written (x : Binary64) : Number :=
  if -(Nat.pow 2 63 : Int) ≤ x.whole ∧ x.whole < Nat.pow 2 64 ∧ ofInt x.whole = x then
    .integer x.whole
  else .double x

lemma toBinary64_written (x : Binary64) : x.written.toBinary64 = x := by
  unfold written
  split
  · next h => exact h.2.2
  · rfl

end Binary64

/-- Texts as a value. -/
def Json.ofTexts (texts : List String) : Json := .array (texts.map .string)

/-- A size as a value. -/
def Json.ofSize (size : Nat) : Json := .number (.integer size)

/-- A bound as a value. -/
def Json.ofBound (bound : Binary64) : Json := .number bound.written

/-- The names of kinds as a value. -/
def KindNames.written : KindNames → Json
  | .one name => .string name
  | .many names => .ofTexts names

namespace Definition

/-! ### Writing -/

/-- The fields for keywords, as far as they are given values. -/
def fieldsFor (value? : Keyword → Option Json) : List (String × Json) :=
  Keyword.all.filterMap fun keyword => (value? keyword).map fun v => (keyword.name, v)

mutual

/-- A definition as a value. -/
def written : Definition → Json
  | ⟨id, reference, kindNames, pattern, choices, minimum, maximum, properties, required, items,
      minItems, maxItems, allOf, anyOf⟩ =>
    .object <| fieldsFor fun
      | .id => id.map Json.string
      | .reference => reference.map Json.string
      | .type => kindNames.map KindNames.written
      | .pattern => pattern.map Json.string
      | .enum => choices.map Json.array
      | .minimum => minimum.map Json.ofBound
      | .maximum => maximum.map Json.ofBound
      | .properties =>
        match properties with
        | some entries => some (.object (writtenProperties entries))
        | none => none
      | .required => required.map Json.ofTexts
      | .items =>
        match items with
        | some item => some item.written
        | none => none
      | .minItems => minItems.map Json.ofSize
      | .maxItems => maxItems.map Json.ofSize
      | .allOf =>
        match allOf with
        | some parts => some (.array (writtenParts parts))
        | none => none
      | .anyOf =>
        match anyOf with
        | some parts => some (.array (writtenParts parts))
        | none => none

/-- Definitions under names as fields. -/
def writtenProperties : List (String × Definition) → List (String × Json)
  | [] => []
  | (name, d) :: rest => (name, d.written) :: writtenProperties rest

/-- Definitions as values. -/
def writtenParts : List Definition → List Json
  | [] => []
  | d :: rest => d.written :: writtenParts rest

end

/-- The value of a keyword as it is written. -/
def writtenValue : (keyword : Keyword) → keyword.Value → Json
  | .id, v => .string v
  | .reference, v => .string v
  | .type, v => v.written
  | .pattern, v => .string v
  | .enum, v => .array v
  | .minimum, v => .ofBound v
  | .maximum, v => .ofBound v
  | .properties, v => .object (writtenProperties v)
  | .required, v => .ofTexts v
  | .items, v => v.written
  | .minItems, v => .ofSize v
  | .maxItems, v => .ofSize v
  | .allOf, v => .array (writtenParts v)
  | .anyOf, v => .array (writtenParts v)

variable {d : Definition} {keyword : Keyword}

lemma written_eq (d : Definition) : d.written =
    .object (fieldsFor fun keyword => (d.value? keyword).map (writtenValue keyword)) := by
  obtain ⟨_, _, _, _, _, _, _, properties, _, items, _, _, allOf, anyOf⟩ := d
  rw [written.eq_def]
  dsimp only
  congr 2
  funext keyword
  cases keyword with
  | properties => cases properties <;> rfl
  | items => cases items <;> rfl
  | allOf => cases allOf <;> rfl
  | anyOf => cases anyOf <;> rfl
  | _ => rfl

lemma writtenProperties_eq_map (entries : List (String × Definition)) :
    writtenProperties entries = entries.map fun entry => (entry.1, entry.2.written) := by
  induction entries with
  | nil => rfl
  | cons entry entries ih => rw [writtenProperties, ih, List.map_cons]

lemma writtenParts_eq_map (parts : List Definition) : writtenParts parts = parts.map written := by
  induction parts with
  | nil => rfl
  | cons part parts ih => rw [writtenParts, ih, List.map_cons]

/-! ### Fields for keywords -/

variable {value? : Keyword → Option Json}

lemma nodup_names_fieldsFor (value? : Keyword → Option Json) :
    (Entries.names (fieldsFor value?)).Nodup := by
  have hsublist : (Entries.names (fieldsFor value?)).Sublist (Keyword.all.map Keyword.name) := by
    rw [fieldsFor]
    induction Keyword.all with
    | nil => exact .slnil
    | cons keyword rest ih =>
      rw [List.filterMap_cons]
      cases value? keyword with
      | none => exact ih.cons _
      | some v => exact ih.cons_cons _
  exact hsublist.nodup (by decide)

/-- A keyword is given the value that is written for it. -/
lemma given?_fieldsFor (hnull : ∀ v, value? keyword = some v → v.form ≠ .null) :
    given? (fieldsFor value?) keyword = value? keyword := by
  have hmem : ∀ v, (keyword.name, v) ∈ fieldsFor value? ↔ value? keyword = some v := by
    intro v
    simp only [fieldsFor, List.mem_filterMap, Option.map_eq_some_iff, Prod.mk.injEq]
    constructor
    · rintro ⟨other, -, _, hv, hname, rfl⟩
      rw [← Option.some.inj ((Keyword.ofName?_name other).symm.trans
        (Keyword.ofName?_eq_some_iff.mpr hname))]
      exact hv
    · intro hv
      exact ⟨keyword, by cases keyword <;> decide, v, hv, rfl, rfl⟩
  have hget : Entries.get? (fieldsFor value?) keyword.name = value? keyword := by
    refine Option.ext fun v => ⟨fun h => (hmem v).mp (Entries.get?_mem h), fun h => ?_⟩
    exact Entries.get?_of_mem (nodup_names_fieldsFor value?) ((hmem v).mpr h)
  rw [given?, hget]
  cases h : value? keyword with
  | none => rfl
  | some v => simp [Option.filter, hnull v h]

/-! ### Reading back -/

lemma asStrings_map (index : Nat) (texts : List String) :
    Json.asStrings index (texts.map Json.string) = .ok texts := by
  induction texts generalizing index with
  | nil => rfl
  | cons text texts ih =>
    rw [List.map_cons, Json.asStrings, ih]
    rfl

lemma asStrings_ofTexts (texts : List String) :
    (do Json.asStrings 0 (← Json.unplaced (Json.ofTexts texts).asList)) = .ok texts :=
  asStrings_map 0 texts

lemma kindNames_ofJson_written (names : KindNames) :
    KindNames.ofJson names.written = .ok names := by
  cases names with
  | one name => rfl
  | many names =>
    have htexts : (names.map Json.string).mapM Json.string? = some names := by
      induction names with
      | nil => rfl
      | cons name names ih => simp [ih, Json.string?]
    rw [KindNames.written, Json.ofTexts, KindNames.ofJson, htexts]

lemma asDouble_ofBound (bound : Binary64) : (Json.ofBound bound).asDouble = .ok bound := by
  rw [Json.ofBound, Json.asDouble, Binary64.toBinary64_written]

lemma asSize_ofSize (size : Nat) : (Json.ofSize size).asSize = .ok size := by
  have hnonneg : ¬ (size : Int) < 0 := by omega
  rw [Json.ofSize, Json.asSize, Number.asSize, if_neg hnonneg, Int.toNat_natCast]

lemma form_writtenValue (v : keyword.Value) : (writtenValue keyword v).form ≠ .null := by
  cases keyword with
  | type => cases v <;> exact Json.Form.noConfusion
  | items =>
    rw [writtenValue, written_eq]
    exact Json.Form.noConfusion
  | _ => exact Json.Form.noConfusion

/-- **Every definition is read back from what it is written as.** -/
theorem ofJson_written (d : Definition) : ofJson d.written = .ok d := by
  -- the definitions in a definition are smaller, so these are read back
  have hpart : ∀ sub : Definition, sub.PartOf d → ofJson sub.written = .ok sub := by
    intro sub hsub
    have := hsub.sizeOf_lt
    exact ofJson_written sub
  have hparts : ∀ {parts : List Definition}, (∀ part ∈ parts, part.PartOf d) →
      listOfJson 0 (writtenParts parts) = .ok parts := by
    intro parts h
    rw [writtenParts_eq_map, listOfJson_eq_ok_iff, List.forall₂_map_left_iff]
    exact List.forall₂_same.mpr fun part hmem => hpart part (h part hmem)
  have hvalue : ∀ (keyword : Keyword) (v : keyword.Value), d.value? keyword = some v →
      valueOfJson (writtenValue keyword v) keyword = .ok v := by
    intro keyword v hv
    cases keyword with
    | type =>
      rw [writtenValue, valueOfJson, kindNames_ofJson_written]
      rfl
    | minimum => exact congrArg Json.unplaced (asDouble_ofBound v)
    | maximum => exact congrArg Json.unplaced (asDouble_ofBound v)
    | minItems => exact congrArg Json.unplaced (asSize_ofSize v)
    | maxItems => exact congrArg Json.unplaced (asSize_ofSize v)
    | required => exact asStrings_ofTexts v
    | properties =>
      rw [writtenValue, valueOfJson, writtenProperties_eq_map, entriesOfJson_eq_ok_iff,
        List.forall₂_map_left_iff]
      exact List.forall₂_same.mpr fun entry hmem => ⟨rfl, hpart entry.2 (.property hv hmem)⟩
    | items => exact hpart v (.item hv)
    | allOf => exact hparts fun part hmem => .allOf hv hmem
    | anyOf => exact hparts fun part hmem => .anyOf hv hmem
    | _ => rfl
  rw [written_eq, ofJson, valueOfJson, ofFields_eq_ok_iff (nodup_names_fieldsFor _)]
  intro keyword
  rw [given?_fieldsFor]
  · cases h : d.value? keyword with
    | none => cases keyword <;> rfl
    | some v => exact ⟨v, hvalue keyword v h, rfl⟩
  · intro v hv
    obtain ⟨value, -, rfl⟩ := Option.map_eq_some_iff.mp hv
    exact form_writtenValue value
  termination_by sizeOf d

end Definition

end TreeSchema
