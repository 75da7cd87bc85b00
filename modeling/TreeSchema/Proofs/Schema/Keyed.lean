/-
Schemas whose fields have different names.

Schemas are compared like values, by looking up the fields of one in the other, and what was said of
values holds of schemas too.  A schema is keyed if no object in it, be it a schema or a literal,
has two fields of the same name, and then it is the same as itself (`Keyed.same_self`).
Compositions of keyed schemas are keyed.
-/
import TreeSchema.Proofs.Json.Keyed
import TreeSchema.Schema.Composition
import TreeSchema.Schema.Equality

namespace TreeSchema

namespace Schema

/-- No object in the schema has two fields of the same name. -/
inductive Keyed : Schema → Prop where
  | any : Keyed .any
  | ref (name : String) : Keyed (.ref name)
  | leaf {c : Constraint} (hchoices : ∀ literals, c.choices = some literals →
      ∀ v ∈ literals, v.Keyed) : Keyed (.leaf c)
  | object {properties : List (String × Schema)} {required : List String}
      (hnames : (Entries.names properties).Nodup)
      (hproperties : ∀ property ∈ properties, Keyed property.2) :
      Keyed (.object properties required)
  | array {items : Option Schema} {least most : Option Nat}
      (hitems : ∀ item, items = some item → Keyed item) : Keyed (.array items least most)
  | allOf {parts : List Schema} (hparts : ∀ part ∈ parts, Keyed part) : Keyed (.allOf parts)
  | anyOf {parts : List Schema} (hparts : ∀ part ∈ parts, Keyed part) : Keyed (.anyOf parts)

/-! ### Equality -/

lemma sameOption_self {α : Type} {same : α → α → Bool} {a : Option α}
    (h : ∀ x, a = some x → same x x = true) : sameOption same a a = true := by
  cases a with
  | none => rfl
  | some x => exact h x rfl

lemma constraint_same_self {c : Constraint}
    (hchoices : ∀ literals, c.choices = some literals → ∀ v ∈ literals, v.Keyed) :
    c.same c = true := by
  have hliterals : sameOption Json.sameElements c.choices c.choices = true :=
    sameOption_self fun literals h =>
      Json.sameElements_self fun v hv => (hchoices literals h v hv).same_self
  have hpattern : sameOption Pattern.same c.pattern c.pattern = true :=
    sameOption_self fun _ _ => by simp [Pattern.same]
  have hbound : ∀ bound, sameOption Binary64.sameRank bound bound = true :=
    fun bound => sameOption_self fun _ _ => by simp [Binary64.sameRank]
  simp [Constraint.same, hliterals, hpattern, hbound]

lemma sameProperties_iff {left right : List (String × Schema)} :
    sameProperties left right = true ↔ ∀ property ∈ left, ∃ s,
      Entries.get? right property.1 = some s ∧ property.2.same s = true := by
  induction left with
  | nil => simp [sameProperties]
  | cons property rest ih =>
    obtain ⟨name, sub⟩ := property
    rw [sameProperties, Bool.and_eq_true, ih, List.forall_mem_cons]
    refine and_congr_left fun _ => ?_
    cases Entries.get? right name <;> simp

lemma sameParts_iff {left right : List Schema} :
    sameParts left right = true ↔ List.Forall₂ (fun a b => a.same b = true) left right := by
  induction left generalizing right with
  | nil => cases right <;> simp [sameParts]
  | cons part rest ih => cases right <;> simp [sameParts, ih]

lemma sameParts_self {parts : List Schema} (h : ∀ part ∈ parts, part.same part = true) :
    sameParts parts parts = true :=
  sameParts_iff.mpr (List.forall₂_same.mpr h)

/-- Keyed schemas are the same as themselves. -/
theorem Keyed.same_self {s : Schema} (h : s.Keyed) : s.same s = true := by
  induction h with
  | any => simp [same]
  | ref name => simp [same]
  | leaf hchoices => simp [same, constraint_same_self hchoices]
  | object hnames _ ih =>
    have hproperties := sameProperties_iff.mpr fun property hproperty =>
      ⟨property.2, Entries.get?_of_mem hnames hproperty, ih property hproperty⟩
    simp [same, hproperties]
  | @array items _ _ _ ih =>
    cases items with
    | none => simp [same, sameItems]
    | some item => simp [same, sameItems, ih item rfl]
  | allOf _ ih => simp [same, sameParts_self ih]
  | anyOf _ ih => simp [same, sameParts_self ih]

/-! ### Compositions -/

variable {parts : List Schema}

lemma Keyed.conjuncts {s part : Schema} (h : s.Keyed) (hmem : part ∈ s.conjuncts) :
    part.Keyed := by
  cases h with
  | any => cases hmem
  | allOf hparts => exact hparts part hmem
  | _ =>
    obtain rfl := List.mem_singleton.mp hmem
    constructor <;> assumption

lemma Keyed.disjuncts {s part : Schema} (h : s.Keyed) (hmem : part ∈ s.disjuncts) :
    part.Keyed := by
  cases h with
  | anyOf hparts => exact hparts part hmem
  | _ =>
    obtain rfl := List.mem_singleton.mp hmem
    constructor <;> assumption

lemma Keyed.intersection (h : ∀ part ∈ parts, part.Keyed) : (Schema.intersection parts).Keyed := by
  have hflat : ∀ s ∈ parts.flatMap Schema.conjuncts, s.Keyed :=
    List.forall_mem_flatMap.mpr fun part hpart s hs => (h part hpart).conjuncts hs
  unfold Schema.intersection
  split
  · exact .any
  · next s hone => exact hflat s (by simp [hone])
  · exact .allOf hflat

lemma Keyed.union (h : ∀ part ∈ parts, part.Keyed) : (Schema.union parts).Keyed := by
  have hflat : ∀ s ∈ parts.flatMap Schema.disjuncts, s.Keyed :=
    List.forall_mem_flatMap.mpr fun part hpart s hs => (h part hpart).disjuncts hs
  unfold Schema.union
  split
  · exact .any
  · split
    · next s hone => exact hflat s (by simp [hone])
    · exact .anyOf hflat

end Schema

end TreeSchema
