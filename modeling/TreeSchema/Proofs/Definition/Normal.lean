/-
Definitions define schemas in normal form.

A composition is in normal form if it has at least two parts, none of which could be left out or
spread out: no part is the schema of all values, and none is a composition of the same sort.  The
smart compositions `Schema.intersection` and `Schema.union` look at one level of their parts only.
That is enough where the parts are in normal form themselves, at every level, because then what they
are spread out into needs no further look.

So normal forms carry over from the definitions in a definition to the whole of it, and what a
definition defines is in normal form everywhere (`schema_normal`).
-/
import TreeSchema.Proofs.Definition.Carries
import TreeSchema.Proofs.Schema.Occurrence

namespace TreeSchema

namespace Schema

/-- There are at least two parts, and none of them is left out or spread out in an intersection. -/
def NormalConjuncts (parts : List Schema) : Prop :=
  2 ≤ parts.length ∧ ∀ part ∈ parts, part ≠ .any ∧ ∀ inner, part ≠ .allOf inner

/-- There are at least two parts, and none of them absorbs the others or is spread out in a
union. -/
def NormalDisjuncts (parts : List Schema) : Prop :=
  2 ≤ parts.length ∧ ∀ part ∈ parts, part ≠ .any ∧ ∀ inner, part ≠ .anyOf inner

/-- A schema is in normal form itself: if it is a composition, nothing about it can be made
simpler. -/
def InNormalForm : Schema → Prop
  | .allOf parts => NormalConjuncts parts
  | .anyOf parts => NormalDisjuncts parts
  | _ => True

/-- A schema and all its parts are in normal form. -/
abbrev Normal (s : Schema) : Prop := s.Everywhere InNormalForm

variable {s part : Schema} {parts : List Schema}

/-! ### What a normal part contributes -/

lemma Normal.conjuncts (h : s.Normal) (hmem : part ∈ s.conjuncts) :
    part.Normal ∧ part ≠ .any ∧ ∀ inner, part ≠ .allOf inner := by
  cases s with
  | any => cases hmem
  | allOf parts =>
    obtain ⟨⟨-, hself⟩, hparts⟩ := everywhere_allOf_iff.mp h
    exact ⟨hparts part hmem, hself part hmem⟩
  | _ =>
    obtain rfl := List.mem_singleton.mp hmem
    exact ⟨h, nofun, nofun⟩

lemma Normal.disjuncts (h : s.Normal) (hany : s.isAny = false) (hmem : part ∈ s.disjuncts) :
    part.Normal ∧ part ≠ .any ∧ ∀ inner, part ≠ .anyOf inner := by
  cases s with
  | any => cases hany
  | anyOf parts =>
    obtain ⟨⟨-, hself⟩, hparts⟩ := everywhere_anyOf_iff.mp h
    exact ⟨hparts part hmem, hself part hmem⟩
  | _ =>
    obtain rfl := List.mem_singleton.mp hmem
    exact ⟨h, nofun, nofun⟩

lemma Normal.disjuncts_ne_nil (h : s.Normal) : s.disjuncts ≠ [] := by
  cases s with
  | anyOf parts =>
    rintro rfl
    obtain ⟨⟨hlength, -⟩, -⟩ := everywhere_anyOf_iff.mp h
    simp at hlength
  | _ => exact List.cons_ne_nil _ _

/-- A list that is neither empty nor a single schema has at least two. -/
lemma two_le_length (hnil : parts ≠ []) (hone : ∀ s, parts ≠ [s]) : 2 ≤ parts.length := by
  cases parts with
  | nil => exact absurd rfl hnil
  | cons s rest =>
    cases rest with
    | nil => exact absurd rfl (hone s)
    | cons t rest => simp

/-! ### Compositions -/

/-- The intersection of normal schemas is normal. -/
lemma Normal.intersection (h : ∀ part ∈ parts, part.Normal) :
    (Schema.intersection parts).Normal := by
  have hflat : ∀ s ∈ parts.flatMap Schema.conjuncts,
      s.Normal ∧ s ≠ .any ∧ ∀ inner, s ≠ .allOf inner :=
    List.forall_mem_flatMap.mpr fun part hpart s hs => (h part hpart).conjuncts hs
  unfold Schema.intersection
  split
  · exact everywhere_any_iff.mpr trivial
  · next s hone => exact (hflat s (by simp [hone])).1
  · next hnil hone =>
    have hlength := two_le_length hnil hone
    exact everywhere_allOf_iff.mpr
      ⟨⟨hlength, fun s hs => (hflat s hs).2⟩, fun s hs => (hflat s hs).1⟩

/-- The union of normal schemas, of at least one, is normal. -/
lemma Normal.union (hne : parts ≠ []) (h : ∀ part ∈ parts, part.Normal) :
    (Schema.union parts).Normal := by
  unfold Schema.union
  split
  · exact everywhere_any_iff.mpr trivial
  · next hany =>
    have hproper : ∀ part ∈ parts, part.isAny = false := by simpa using hany
    have hflat : ∀ s ∈ parts.flatMap Schema.disjuncts,
        s.Normal ∧ s ≠ .any ∧ ∀ inner, s ≠ .anyOf inner :=
      List.forall_mem_flatMap.mpr fun part hpart s hs =>
        (h part hpart).disjuncts (hproper part hpart) hs
    split
    · next s hone => exact (hflat s (by simp [hone])).1
    · next hone =>
      -- no part is spread out into nothing, so with a part there is something left
      have hnil : parts.flatMap Schema.disjuncts ≠ [] := by
        obtain ⟨part, hpart⟩ := List.exists_mem_of_ne_nil parts hne
        exact fun hnil =>
          (h part hpart).disjuncts_ne_nil (List.flatMap_eq_nil_iff.mp hnil part hpart)
      have hlength := two_le_length hnil hone
      exact everywhere_anyOf_iff.mpr
        ⟨⟨hlength, fun s hs => (hflat s hs).2⟩, fun s hs => (hflat s hs).1⟩

end Schema

namespace Definition

/-- Without any condition on definitions, their schemas are normal at each step. -/
lemma carries_normal : Carries (fun _ => True) Schema.Normal where
  part := fun _ _ => trivial
  ref := fun _ _ => Schema.everywhere_ref_iff.mpr trivial
  leaf := fun _ _ _ => Schema.everywhere_leaf_iff.mpr trivial
  object := fun _ _ hproperties => Schema.everywhere_object_iff.mpr ⟨trivial, hproperties⟩
  array := fun _ hitems => Schema.everywhere_array_iff.mpr ⟨trivial, hitems⟩
  intersection := .intersection
  union := .union

/-- **What a definition defines is valid and in normal form,** at every depth. -/
theorem schema_normal {d : Definition} {s : Schema} (h : d.schema = .ok s) :
    s.validate = .ok () ∧ s.Normal :=
  ⟨Schema.validate_eq_ok_iff.mpr (schema_flawless h), carries_normal.schema trivial h⟩

/-- Compositions in compositions, with parts that add nothing and a part that absorbs all. -/
def tangled : Definition where
  properties := some [("left", { anyOf := some [{ reference := some "A" }, {}] })]
  allOf := some [{ allOf := some [{ reference := some "A" }, { reference := some "B" }] }, {}]
  anyOf := some [{ anyOf := some [{ reference := some "C" }, { reference := some "D" }] },
    { kindNames := some (.many ["null", "string"]) }]

/-- What is left of the tangle. -/
def untangled : Schema :=
  .allOf [.object [("left", .any)] [], .ref "A", .ref "B",
    .anyOf [.ref "C", .ref "D", .ofKind .null, .ofKind .string]]

theorem tangled_normal :
    tangled.schema = .ok untangled ∧ untangled.validate = .ok () ∧ untangled.Normal := by
  have hschema : tangled.schema = .ok untangled := rfl
  exact ⟨hschema, schema_normal hschema⟩

end Definition

end TreeSchema
