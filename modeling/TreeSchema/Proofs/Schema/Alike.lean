/-
Schemas that matching cannot tell apart.

Schemas are compared by what is written in them: patterns by their source, fields by name,
literals as data and bounds by size.  `Schema.Alike` is about what they ask for: the same values
at the leaves, and alike parts in the same places.  Equal schemas are alike
(`alike_of_same`), provided that they are built as programs build them: no object in them has
two fields of the same name, and each pattern is made from its source or for one text.
-/
import TreeSchema.Proofs.Json.Equivalence
import TreeSchema.Proofs.Regex.Words
import TreeSchema.Proofs.Schema.Constraint
import TreeSchema.Proofs.Schema.Keyed
import TreeSchema.Proofs.Schema.Occurrence

namespace TreeSchema

/-- Equal literals are equal to the same values. -/
lemma Json.equalsLiteral_of_same {a b v : Json} (ha : a.Keyed) (hb : b.Keyed)
    (h : a.same b = true) : v.equalsLiteral a = v.equalsLiteral b := by
  have hab := literalAdmits_of_same ha h
  rw [Bool.eq_iff_iff]
  exact ⟨literalAdmits_trans hb (literalAdmits_symm hb ha hab), literalAdmits_trans ha hab⟩

lemma sameOption_iff {α : Type} {same : α → α → Bool} {x y : Option α} :
    sameOption same x y = true ↔ Option.Rel (fun a b => same a b = true) x y := by
  cases x <;> cases y <;> simp [sameOption]

namespace Constraint

variable {c d : Constraint} {v : Json}

lemma patternHolds_of_same {p q : Option Pattern} (hp : ∀ x, p = some x → x.Constructed)
    (hq : ∀ x, q = some x → x.Constructed) (h : sameOption Pattern.same p q = true) :
    PatternHolds p v ↔ PatternHolds q v := by
  cases sameOption_iff.mp h with
  | none => rfl
  | some hsame => simp [PatternHolds, (hp _ rfl).admits_eq (hq _ rfl) hsame]

lemma choicesHold_of_same {as bs : Option (List Json)}
    (ha : ∀ literals, as = some literals → ∀ literal ∈ literals, literal.Keyed)
    (hb : ∀ literals, bs = some literals → ∀ literal ∈ literals, literal.Keyed)
    (h : sameOption Json.sameElements as bs = true) : ChoicesHold as v ↔ ChoicesHold bs v := by
  cases sameOption_iff.mp h with
  | none => rfl
  | @some as bs hsame =>
    have hpairs := Json.sameElements_iff.mp hsame
    have hequals : ∀ a ∈ as, ∀ b ∈ bs, a.same b = true → v.equalsLiteral a = v.equalsLiteral b :=
      fun a hmem b hmem' => Json.equalsLiteral_of_same (ha as rfl a hmem) (hb bs rfl b hmem')
    simp only [ChoicesHold, Option.some.injEq, forall_eq']
    constructor
    · rintro ⟨a, hmem, hv⟩
      obtain ⟨b, hmem', hab⟩ := exists_right_of_forall₂ hpairs hmem
      exact ⟨b, hmem', hequals a hmem b hmem' hab ▸ hv⟩
    · rintro ⟨b, hmem', hv⟩
      obtain ⟨a, hmem, hab⟩ := exists_left_of_forall₂ hpairs hmem'
      exact ⟨a, hmem, (hequals a hmem b hmem' hab).symm ▸ hv⟩

lemma minimumHolds_of_same {x y : Option Binary64} (h : sameOption Binary64.sameRank x y = true) :
    MinimumHolds x v ↔ MinimumHolds y v := by
  cases sameOption_iff.mp h with
  | none => rfl
  | @some bound bound' hsame =>
    have hrank : bound.rank = bound'.rank := by simpa [Binary64.sameRank] using hsame
    simp [MinimumHolds, Binary64.precedes, hrank]

lemma maximumHolds_of_same {x y : Option Binary64} (h : sameOption Binary64.sameRank x y = true) :
    MaximumHolds x v ↔ MaximumHolds y v := by
  cases sameOption_iff.mp h with
  | none => rfl
  | @some bound bound' hsame =>
    have hrank : bound.rank = bound'.rank := by simpa [Binary64.sameRank] using hsame
    simp [MaximumHolds, Binary64.precedes, hrank]

/-- The pattern there is has been made from its source or for one text, and the literals are
keyed. -/
structure IsBuilt (c : Constraint) : Prop where
  pattern : ∀ p, c.pattern = some p → p.Constructed
  choices : ∀ literals, c.choices = some literals → ∀ literal ∈ literals, literal.Keyed

/-- **Equal constraints admit the same values.** -/
theorem admits_of_same (hc : c.IsBuilt) (hd : d.IsBuilt) (h : c.same d = true) (v : Json) :
    c.admits v = d.admits v := by
  simp only [same, Bool.and_eq_true, beq_iff_eq] at h
  obtain ⟨⟨⟨⟨hkind, hpattern⟩, hchoices⟩, hminimum⟩, hmaximum⟩ := h
  rw [Bool.eq_iff_iff, admits_iff, admits_iff, hkind,
    patternHolds_of_same hc.pattern hd.pattern hpattern,
    choicesHold_of_same hc.choices hd.choices hchoices, minimumHolds_of_same hminimum,
    maximumHolds_of_same hmaximum]

end Constraint

namespace Schema

/-- The schema is built as programs build schemas. -/
structure IsBuilt (s : Schema) : Prop where
  keyed : s.Keyed
  constraints : s.Everywhere fun part => ∀ c, part = .leaf c → c.IsBuilt

/-- The same values are asked for at the leaves, and the parts in the same places are alike. -/
inductive Alike : Schema → Schema → Prop where
  | refl (s : Schema) : Alike s s
  | leaf {c d : Constraint} (hadmits : ∀ v, c.admits v = d.admits v) : Alike (.leaf c) (.leaf d)
  | object {ps qs : List (String × Schema)} {required : List String}
      (hnames : ∀ name, name ∈ Entries.names ps ↔ name ∈ Entries.names qs)
      (hproperties : ∀ name s t, (name, s) ∈ ps → (name, t) ∈ qs → Alike s t) :
      Alike (.object ps required) (.object qs required)
  | array {items items' : Option Schema} {least most : Option Nat}
      (hsome : items.isSome = items'.isSome)
      (hitems : ∀ s t, items = some s → items' = some t → Alike s t) :
      Alike (.array items least most) (.array items' least most)
  | allOf {ss ts : List Schema} (hlength : ss.length = ts.length)
      (hparts : ∀ (i : Nat) s t, ss[i]? = some s → ts[i]? = some t → Alike s t) :
      Alike (.allOf ss) (.allOf ts)
  | anyOf {ss ts : List Schema} (hlength : ss.length = ts.length)
      (hparts : ∀ (i : Nat) s t, ss[i]? = some s → ts[i]? = some t → Alike s t) :
      Alike (.anyOf ss) (.anyOf ts)

lemma Alike.symm {s t : Schema} (h : Alike s t) : Alike t s := by
  induction h with
  | refl s => exact .refl s
  | leaf hadmits => exact .leaf fun v => (hadmits v).symm
  | object hnames _ ih =>
    exact .object (fun name => (hnames name).symm) fun name t s ht hs => ih name s t hs ht
  | array hsome _ ih => exact .array hsome.symm fun t s ht hs => ih s t hs ht
  | allOf hlength _ ih => exact .allOf hlength.symm fun i t s ht hs => ih i s t hs ht
  | anyOf hlength _ ih => exact .anyOf hlength.symm fun i t s ht hs => ih i s t hs ht

variable {a b : Schema}

lemma Alike.alias?_eq {s t : Schema} (h : Alike s t) : s.alias? = t.alias? := by
  cases h <;> rfl

/-! ### Equality -/

lemma isBuilt_leaf_iff {c : Constraint} : (Schema.leaf c).IsBuilt ↔ c.IsBuilt := by
  constructor
  · intro h
    exact h.constraints.here c rfl
  · intro h
    refine ⟨.leaf h.choices, everywhere_leaf_iff.mpr ?_⟩
    rintro _ ⟨⟩
    exact h

lemma isBuilt_object {properties : List (String × Schema)} {required : List String}
    (hnames : (Entries.names properties).Nodup) (h : ∀ property ∈ properties, property.2.IsBuilt) :
    (object properties required).IsBuilt := by
  refine ⟨.object hnames fun property hmem => (h property hmem).keyed, ?_⟩
  refine everywhere_object_iff.mpr ⟨?_, fun property hmem => (h property hmem).constraints⟩
  rintro _ ⟨⟩

lemma IsBuilt.property {properties : List (String × Schema)} {required : List String}
    {property : String × Schema} (h : (object properties required).IsBuilt)
    (hmem : property ∈ properties) : property.2.IsBuilt := by
  obtain ⟨hkeyed, hconstraints⟩ := h
  cases hkeyed with
  | object _ hproperties =>
    exact ⟨hproperties _ hmem, (everywhere_object_iff.mp hconstraints).2 _ hmem⟩

lemma IsBuilt.item {item : Schema} {least most : Option Nat}
    (h : (array (some item) least most).IsBuilt) : item.IsBuilt := by
  obtain ⟨hkeyed, hconstraints⟩ := h
  cases hkeyed with
  | array hitems => exact ⟨hitems _ rfl, (everywhere_array_iff.mp hconstraints).2 _ rfl⟩

lemma IsBuilt.conjunct {parts : List Schema} {part : Schema} (h : (allOf parts).IsBuilt)
    (hmem : part ∈ parts) : part.IsBuilt := by
  obtain ⟨hkeyed, hconstraints⟩ := h
  cases hkeyed with
  | allOf hparts => exact ⟨hparts _ hmem, (everywhere_allOf_iff.mp hconstraints).2 _ hmem⟩

lemma IsBuilt.disjunct {parts : List Schema} {part : Schema} (h : (anyOf parts).IsBuilt)
    (hmem : part ∈ parts) : part.IsBuilt := by
  obtain ⟨hkeyed, hconstraints⟩ := h
  cases hkeyed with
  | anyOf hparts => exact ⟨hparts _ hmem, (everywhere_anyOf_iff.mp hconstraints).2 _ hmem⟩

/-- Fields that are the same as those of equally many others have the same names, and the ones of
the same name are the same. -/
lemma same_of_sameProperties {ps qs : List (String × Schema)} (hps : (Entries.names ps).Nodup)
    (hqs : (Entries.names qs).Nodup) (hlength : qs.length = ps.length)
    (h : sameProperties ps qs = true) :
    (∀ name, name ∈ Entries.names ps ↔ name ∈ Entries.names qs) ∧
      ∀ name s t, (name, s) ∈ ps → (name, t) ∈ qs → s.same t = true := by
  rw [sameProperties_iff] at h
  constructor
  · intro name
    refine (Entries.perm_names hps hlength fun name hname => ?_).mem_iff
    obtain ⟨property, hmem, rfl⟩ := List.mem_map.mp hname
    obtain ⟨t, ht, -⟩ := h property hmem
    exact Entries.mem_names_of_mem (Entries.get?_mem ht)
  · intro name s t hs ht
    obtain ⟨t', ht', hsame⟩ := h (name, s) hs
    obtain rfl : t' = t := Option.some.inj (ht'.symm.trans (Entries.get?_of_mem hqs ht))
    exact hsame

lemma same_of_sameParts {ss ts : List Schema} (h : sameParts ss ts = true) :
    ss.length = ts.length ∧
      ∀ (i : Nat) s t, ss[i]? = some s → ts[i]? = some t → s.same t = true := by
  rw [sameParts_iff, List.forall₂_iff_get] at h
  refine ⟨h.1, fun i s t hs ht => ?_⟩
  obtain ⟨hi, rfl⟩ := List.getElem?_eq_some_iff.mp hs
  obtain ⟨hj, rfl⟩ := List.getElem?_eq_some_iff.mp ht
  exact h.2 i hi hj

/-- **Equal schemas are alike.** -/
theorem alike_of_same (ha : a.IsBuilt) (hb : b.IsBuilt) (h : a.same b = true) : Alike a b := by
  have hkeyed := ha.keyed
  induction hkeyed generalizing b with
  | any =>
    cases b with
    | any => exact .refl .any
    | _ => simp [same] at h
  | ref name =>
    cases b with
    | ref other =>
      obtain rfl : name = other := by simpa [same] using h
      exact .refl _
    | _ => simp [same] at h
  | leaf _ =>
    cases b with
    | leaf d =>
      rw [same] at h
      exact .leaf (Constraint.admits_of_same (isBuilt_leaf_iff.mp ha) (isBuilt_leaf_iff.mp hb) h)
    | _ => simp [same] at h
  | @object ps required hnames _ ih =>
    cases b with
    | object qs required' =>
      rw [same, Bool.and_eq_true, Bool.and_eq_true, beq_iff_eq, beq_iff_eq] at h
      obtain ⟨⟨hlength, hsame⟩, rfl⟩ := h
      cases hb.keyed with
      | object hnames' _ =>
        obtain ⟨hiff, hproperties⟩ := same_of_sameProperties hnames hnames' hlength.symm hsame
        refine .object hiff fun name s t hs ht => ?_
        exact ih _ hs (ha.property hs) (hb.property ht) (hproperties name s t hs ht)
    | _ => simp [same] at h
  | @array items least most _ ih =>
    cases b with
    | array items' least' most' =>
      rw [same, Bool.and_eq_true, Bool.and_eq_true, beq_iff_eq, beq_iff_eq] at h
      obtain ⟨⟨hitems, rfl⟩, rfl⟩ := h
      cases items with
      | none =>
        cases items' with
        | none => exact .refl _
        | some item' => simp [sameItems] at hitems
      | some item =>
        cases items' with
        | none => simp [sameItems] at hitems
        | some item' =>
          rw [sameItems] at hitems
          refine .array rfl ?_
          rintro _ _ ⟨⟩ ⟨⟩
          exact ih item rfl ha.item hb.item hitems
    | _ => simp [same] at h
  | @allOf ss _ ih =>
    cases b with
    | allOf ts =>
      rw [same] at h
      obtain ⟨hlength, hparts⟩ := same_of_sameParts h
      refine .allOf hlength fun i s t hs ht => ?_
      have hmem := List.mem_of_getElem? hs
      have hmem' := List.mem_of_getElem? ht
      exact ih s hmem (ha.conjunct hmem) (hb.conjunct hmem') (hparts i s t hs ht)
    | _ => simp [same] at h
  | @anyOf ss _ ih =>
    cases b with
    | anyOf ts =>
      rw [same] at h
      obtain ⟨hlength, hparts⟩ := same_of_sameParts h
      refine .anyOf hlength fun i s t hs ht => ?_
      have hmem := List.mem_of_getElem? hs
      have hmem' := List.mem_of_getElem? ht
      exact ih s hmem (ha.disjunct hmem) (hb.disjunct hmem') (hparts i s t hs ht)
    | _ => simp [same] at h

end Schema

end TreeSchema
