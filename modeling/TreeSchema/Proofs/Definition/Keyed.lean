/-
Definitions whose properties have different names.

A definition is keyed if its properties have different names, its literals are keyed and the
definitions in it are keyed too.  Keyed values are read as keyed definitions
(`keyed_of_ofJson`), and these define keyed schemas (`Keyed.schema`), so a value in which
no name comes twice never leads to a schema in which one does.
-/
import TreeSchema.Proofs.Definition.Carries
import TreeSchema.Proofs.Definition.Reading
import TreeSchema.Proofs.Schema.Keyed

namespace TreeSchema

namespace Definition

/-- No object in the definition has two fields of the same name. -/
inductive Keyed : Definition → Prop where
  | mk {d : Definition}
      (hchoices : ∀ literals, d.choices = some literals → ∀ v ∈ literals, v.Keyed)
      (hnames : ∀ properties, d.properties = some properties → (Entries.names properties).Nodup)
      (hparts : ∀ sub : Definition, sub.PartOf d → Keyed sub) : Keyed d

/-- Properties that have different names and keyed definitions. -/
def KeyedProperties (properties : Entries Definition) : Prop :=
  properties.names.Nodup ∧ ∀ property ∈ properties, property.2.Keyed

/-- No object in the value of a keyword has two fields of the same name. -/
def KeyedValue : (keyword : Keyword) → keyword.Value → Prop
  | .enum, literals => ∀ v ∈ literals, v.Keyed
  | .properties, properties => KeyedProperties properties
  | .items, item => item.Keyed
  | .allOf, parts => ∀ part ∈ parts, part.Keyed
  | .anyOf, parts => ∀ part ∈ parts, part.Keyed
  | _, _ => True

/-- A definition is keyed if what its keywords have is keyed. -/
lemma keyed_iff {d : Definition} :
    d.Keyed ↔ ∀ keyword value, d.value? keyword = some value → KeyedValue keyword value := by
  constructor
  · rintro ⟨hchoices, hnames, hparts⟩ keyword value hvalue
    -- the other keywords have no values with fields in them
    cases keyword with
    | enum => exact hchoices value hvalue
    | properties =>
      exact ⟨hnames value hvalue, fun property hmem => hparts property.2 (.property hvalue hmem)⟩
    | items => exact hparts value (.item hvalue)
    | allOf => exact fun part hmem => hparts part (.allOf hvalue hmem)
    | anyOf => exact fun part hmem => hparts part (.anyOf hvalue hmem)
    | _ => trivial
  · intro h
    refine ⟨h .enum, fun properties hd => (h .properties properties hd).1, fun sub hpart => ?_⟩
    cases hpart with
    | property hd hmem => exact (h .properties _ hd).2 _ hmem
    | item hd => exact h .items _ hd
    | allOf hd hmem => exact h .allOf _ hd _ hmem
    | anyOf hd hmem => exact h .anyOf _ hd _ hmem

lemma keyed_empty : ({} : Definition).Keyed :=
  keyed_iff.mpr fun keyword value h => by cases keyword <;> cases h

lemma Keyed.set {d : Definition} (h : d.Keyed) {keyword : Keyword} {value : keyword.Value}
    (hvalue : KeyedValue keyword value) : (d.set keyword value).Keyed := by
  rw [keyed_iff] at h ⊢
  intro other w hw
  by_cases heq : keyword = other
  · subst heq
    rw [value?_set_self] at hw
    cases hw
    exact hvalue
  · rw [value?_set_of_ne d value heq] at hw
    exact h other w hw

/-! ### Reading -/

section Reading

/-- A value gives nothing but keyed values to keywords. -/
def ReadsKeyed (v : Json) : Prop :=
  ∀ keyword value, valueOfJson v keyword = .ok value → KeyedValue keyword value

variable {d d' : Definition}

lemma keyed_of_ofFields {fields : List (String × Json)}
    (hfields : ∀ field ∈ fields, ReadsKeyed field.2) (hd : d.Keyed)
    (h : ofFields d fields = .ok d') : d'.Keyed := by
  induction fields generalizing d with
  | nil =>
    rw [ofFields] at h
    cases h
    exact hd
  | cons field rest ih =>
    obtain ⟨name, v⟩ := field
    obtain ⟨hv, hrest⟩ := List.forall_mem_cons.mp hfields
    rw [ofFields] at h
    split at h
    · exact ih hrest hd h
    · next keyword _ =>
      split_ifs at h
      · exact ih hrest hd h
      · split at h
        · cases h
        · next value hvalue =>
          exact ih hrest (hd.set (hv keyword value (mapError_eq_ok_iff.mp hvalue))) h

lemma keyed_of_ofElements {index : Nat} {keywords : List Keyword} {elements : List Json}
    (helements : ∀ v ∈ elements, ReadsKeyed v) (hd : d.Keyed)
    (h : ofElements d index keywords elements = .ok d') : d'.Keyed := by
  induction elements generalizing d index keywords with
  | nil =>
    rw [ofElements] at h
    cases h
    exact hd
  | cons v rest ih =>
    obtain ⟨hv, hrest⟩ := List.forall_mem_cons.mp helements
    cases keywords with
    | nil =>
      rw [ofElements] at h
      cases h
    | cons keyword keywords =>
      rw [ofElements] at h
      split_ifs at h
      · exact ih hrest hd h
      · split at h
        · cases h
        · next value hvalue =>
          exact ih hrest (hd.set (hv keyword value (mapError_eq_ok_iff.mp hvalue))) h

/-- Keyed values give nothing but keyed values to keywords. -/
lemma readsKeyed_of_keyed {v : Json} (hv : v.Keyed) : ReadsKeyed v := by
  induction hv with
  | array helements ih =>
    intro keyword value h
    -- a list may itself be a definition, whose keywords have their places in it
    cases keyword with
    | enum =>
      cases h
      exact helements
    | properties => cases h
    | items => exact keyed_of_ofElements ih keyed_empty h
    | allOf | anyOf =>
      have hread := listOfJson_eq_ok_iff.mp h
      exact forall_mem_of_forall₂ hread fun v hmem _ hd => ih v hmem .items _ hd
    | _ => trivial
  | object hnames _ ih =>
    intro keyword value h
    cases keyword with
    | enum => cases h
    | properties =>
      have hread := entriesOfJson_eq_ok_iff.mp h
      refine ⟨?_, forall_mem_of_forall₂ hread fun field hmem _ hd => ih field hmem .items _ hd.2⟩
      rwa [Entries.names_eq_of_forall₂ (fun _ _ hd => hd.1) hread]
    | items => exact keyed_of_ofFields ih keyed_empty h
    | allOf | anyOf => cases h
    | _ => trivial
  | _ =>
    intro keyword value h
    cases keyword with
    | enum | properties | items | allOf | anyOf => cases h
    | _ => trivial

/-- **Keyed values are read as keyed definitions.** -/
theorem keyed_of_ofJson {v : Json} (hv : v.Keyed) (h : ofJson v = .ok d) : d.Keyed :=
  readsKeyed_of_keyed hv .items d h

end Reading

/-! ### Schemas -/

/-- Keyed definitions give keyed schemas at each step. -/
lemma carries_keyed : Carries Keyed Schema.Keyed where
  part := fun ⟨_, _, hparts⟩ hpart => hparts _ hpart
  ref := fun _ _ => .ref _
  leaf := fun ⟨hchoices, _, _⟩ hc _ => .leaf (hc ▸ hchoices)
  object := by
    rintro d properties required ⟨-, hnames, -⟩ hdefines hproperties
    refine .object ?_ hproperties
    rw [Entries.names_eq_of_forall₂ (fun _ _ hd => hd.1) hdefines]
    cases hd : d.properties with
    | none => exact .nil
    | some entries => exact hnames entries hd
  array := fun _ hitems => .array hitems
  intersection := .intersection
  union := fun _ hparts => .union hparts

/-- **Keyed definitions define keyed schemas.** -/
theorem Keyed.schema {d : Definition} {s : Schema} (hd : d.Keyed) (h : d.schema = .ok s) :
    s.Keyed :=
  carries_keyed.schema hd h

end Definition

end TreeSchema
