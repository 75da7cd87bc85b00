/-
Definitions written in other ways.

The same definition can be written in many ways.  Fields that are no keywords do not matter, a null
is as good as nothing, and the keywords may come in any order.  One such change, be it in an object
itself or in a definition somewhere in it, is a rewording (`Rewords`).

That a rewording defines the same comes down to how an object is read.  The fields are taken up
one after another, but as their names differ none of them takes the place of another.  So what is
read is told keyword by keyword, by what the object gives to each (`ofFields_eq_ok_iff`), and the
three changes leave that as it is.  A change further inside is one to the value of a keyword, and
the values of keywords are read in the same way.
-/
import Mathlib.Logic.Relation
import TreeSchema.Proofs.Catalog

namespace TreeSchema

namespace Entries

/-- What stands under a name does not depend on the order, if names do not repeat. -/
lemma get?_eq_of_perm {α : Type} {es es' : Entries α} (hnames : es.names.Nodup) (h : es.Perm es')
    (name : String) : es.get? name = es'.get? name := by
  have hnames' : es'.names.Nodup := (h.map Prod.fst).nodup_iff.mp hnames
  refine Option.ext fun value => ⟨fun hvalue => ?_, fun hvalue => ?_⟩
  · exact get?_of_mem hnames' (h.subset (get?_mem hvalue))
  · exact get?_of_mem hnames (h.symm.subset (get?_mem hvalue))

end Entries

lemma Keyword.ofName?_eq_some_iff {name : String} {keyword : Keyword} :
    Keyword.ofName? name = some keyword ↔ name = keyword.name := by
  constructor
  · intro h
    have hname := List.find?_some h
    exact (beq_iff_eq.mp hname).symm
  · rintro rfl
    exact ofName?_name keyword

namespace Definition

variable {d d' : Definition} {rest : List (String × Json)} {name : String} {v : Json}
  {keyword : Keyword}

/-- Definitions are the same if their keywords have the same values. -/
lemma ext_value? (h : ∀ keyword, d.value? keyword = d'.value? keyword) : d = d' := by
  obtain ⟨⟩ := d
  obtain ⟨⟩ := d'
  simp only [mk.injEq]
  exact ⟨h .id, h .reference, h .type, h .pattern, h .enum, h .minimum, h .maximum, h .properties,
    h .required, h .items, h .minItems, h .maxItems, h .allOf, h .anyOf⟩

/-! ### Field by field -/

/-- A field is idle if it gives nothing to any keyword. -/
def Idle (name : String) (v : Json) : Prop := Keyword.ofName? name = none ∨ v.form = .null

lemma ofFields_cons_of_idle (h : Idle name v) :
    ofFields d ((name, v) :: rest) = ofFields d rest := by
  rw [ofFields]
  split
  · rfl
  · next keyword hkeyword =>
    have hnull : v.form = .null := h.resolve_left fun hnone => by simp [hnone] at hkeyword
    rw [if_pos hnull]

lemma ofFields_cons_eq_ok_iff (hnull : v.form ≠ .null) :
    ofFields d ((keyword.name, v) :: rest) = .ok d' ↔
      ∃ value, valueOfJson v keyword = .ok value ∧
        ofFields (d.set keyword value) rest = .ok d' := by
  simp only [ofFields, Keyword.ofName?_name, if_neg hnull]
  cases valueOfJson v keyword <;> simp [Json.within, Except.mapError]

/-! ### Keyword by keyword -/

/-- What an object gives to a keyword: the field of its name, unless that is a null. -/
def given? (fields : Entries Json) (keyword : Keyword) : Option Json :=
  (fields.get? keyword.name).filter fun v => v.form ≠ .null

/-- A keyword that is given something takes its value from that, and otherwise it keeps the one it
has. -/
def TakesUp (keyword : Keyword) (old : Option keyword.Value) :
    Option Json → Option keyword.Value → Prop
  | none, new => new = old
  | some v, new => ∃ value, valueOfJson v keyword = .ok value ∧ new = some value

lemma given?_eq_none_of_not_mem (h : keyword.name ∉ Entries.names rest) :
    given? rest keyword = none := by
  have hnone : Entries.get? rest keyword.name = none := by
    rw [← Option.not_isSome_iff_eq_none, Entries.isSome_get?_iff]
    exact h
  rw [given?, hnone]
  rfl

lemma given?_cons_of_ne (h : name ≠ keyword.name) :
    given? ((name, v) :: rest) keyword = given? rest keyword := by
  simp [given?, Entries.get?, h]

lemma given?_cons_self (hnull : v.form ≠ .null) :
    given? ((keyword.name, v) :: rest) keyword = some v := by
  simp [given?, Entries.get?, hnull]

lemma given?_cons_of_idle (hnew : name ∉ Entries.names rest) (h : Idle name v) :
    given? ((name, v) :: rest) keyword = given? rest keyword := by
  by_cases hname : name = keyword.name
  · -- it is a null under the name of a keyword, to which nothing else is given
    have hnull : v.form = .null := h.resolve_left fun hnone => by
      simp [hname, Keyword.ofName?_name] at hnone
    have hself : given? ((name, v) :: rest) keyword = none := by
      simp [given?, Entries.get?, hname, hnull]
    subst hname
    rw [hself, given?_eq_none_of_not_mem hnew]
  · exact given?_cons_of_ne hname

/-- A field that is not idle is taken up by its keyword, and the other keywords take up the rest. -/
lemma forall_takesUp_cons_iff (hnew : keyword.name ∉ Entries.names rest) (hnull : v.form ≠ .null) :
    (∀ other, TakesUp other (d.value? other) (given? ((keyword.name, v) :: rest) other)
        (d'.value? other)) ↔
      ∃ value, valueOfJson v keyword = .ok value ∧
        ∀ other, TakesUp other ((d.set keyword value).value? other) (given? rest other)
          (d'.value? other) := by
  have hself := given?_eq_none_of_not_mem hnew
  have hother : ∀ other, keyword ≠ other →
      given? ((keyword.name, v) :: rest) other = given? rest other := fun other hne =>
    given?_cons_of_ne fun hname => hne (Option.some.inj ((Keyword.ofName?_name keyword).symm.trans
      (Keyword.ofName?_eq_some_iff.mpr hname)))
  constructor
  · intro h
    have htaken := h keyword
    rw [given?_cons_self hnull] at htaken
    obtain ⟨value, hvalue, hnewValue⟩ := htaken
    refine ⟨value, hvalue, fun other => ?_⟩
    by_cases heq : keyword = other
    · subst heq
      rw [hself, value?_set_self]
      exact hnewValue
    · rw [value?_set_of_ne d value heq, ← hother other heq]
      exact h other
  · rintro ⟨value, hvalue, h⟩ other
    by_cases heq : keyword = other
    · subst heq
      rw [given?_cons_self hnull]
      have hnewValue := h keyword
      rw [hself, value?_set_self] at hnewValue
      exact ⟨value, hvalue, hnewValue⟩
    · rw [hother other heq, ← value?_set_of_ne d value heq]
      exact h other

/-- **An object is read keyword by keyword**, if the names of its fields differ. -/
theorem ofFields_eq_ok_iff {fields : List (String × Json)}
    (hnames : (Entries.names fields).Nodup) :
    ofFields d fields = .ok d' ↔ ∀ keyword,
      TakesUp keyword (d.value? keyword) (given? fields keyword) (d'.value? keyword) := by
  induction fields generalizing d with
  | nil =>
    rw [ofFields, Except.ok.injEq]
    exact ⟨fun h _ => h ▸ rfl, fun h => (ext_value? h).symm⟩
  | cons field rest ih =>
    obtain ⟨name, v⟩ := field
    obtain ⟨hnew, hrest⟩ := List.nodup_cons.mp hnames
    by_cases hidle : Idle name v
    · simp only [ofFields_cons_of_idle hidle, given?_cons_of_idle hnew hidle, ih hrest]
    · obtain ⟨hknown, hnull⟩ := not_or.mp hidle
      obtain ⟨keyword, hkeyword⟩ := Option.ne_none_iff_exists'.mp hknown
      obtain rfl := Keyword.ofName?_eq_some_iff.mp hkeyword
      rw [ofFields_cons_eq_ok_iff hnull, forall_takesUp_cons_iff hnew hnull]
      simp only [ih hrest]

/-! ### Rewordings -/

/-- The second value of a keyword says the same as the first one in other words.  The value of
`items` is a definition. -/
inductive Rewords : Keyword → Json → Json → Prop where
  /-- A field that is no keyword is added. -/
  | addUnknown {before after : List (String × Json)} {name : String} {v : Json}
      (hname : Keyword.ofName? name = none)
      (hnames : (Entries.names (before ++ (name, v) :: after)).Nodup) :
      Rewords .items (.object (before ++ after)) (.object (before ++ (name, v) :: after))
  /-- A keyword is added with a null. -/
  | addNull {before after : List (String × Json)} {keyword : Keyword}
      (hnames : (Entries.names (before ++ (keyword.name, .null) :: after)).Nodup) :
      Rewords .items (.object (before ++ after))
        (.object (before ++ (keyword.name, .null) :: after))
  /-- The fields are put into another order. -/
  | reorder {fields fields' : List (String × Json)} (hnames : (Entries.names fields).Nodup)
      (hperm : fields.Perm fields') : Rewords .items (.object fields) (.object fields')
  /-- The value of a keyword is reworded. -/
  | field {before after : List (String × Json)} {keyword : Keyword} {v v' : Json}
      (h : Rewords keyword v v') :
      Rewords .items (.object (before ++ (keyword.name, v) :: after))
        (.object (before ++ (keyword.name, v') :: after))
  /-- In a list of values the keywords have their places. -/
  | place {before after : List Json} {keyword : Keyword} {v v' : Json}
      (hplace : Keyword.all[before.length]? = some keyword) (h : Rewords keyword v v') :
      Rewords .items (.array (before ++ v :: after)) (.array (before ++ v' :: after))
  /-- A definition among the properties is reworded. -/
  | property {before after : List (String × Json)} {name : String} {v v' : Json}
      (h : Rewords .items v v') :
      Rewords .properties (.object (before ++ (name, v) :: after))
        (.object (before ++ (name, v') :: after))
  /-- A part of a composition is reworded. -/
  | part {keyword : Keyword} {before after : List Json} {v v' : Json}
      (hkeyword : keyword = .allOf ∨ keyword = .anyOf) (h : Rewords .items v v') :
      Rewords keyword (.array (before ++ v :: after)) (.array (before ++ v' :: after))

lemma Rewords.form_ne_null {v' : Json} (h : Rewords keyword v v') :
    v.form ≠ .null ∧ v'.form ≠ .null := by
  cases h <;> exact ⟨Json.Form.noConfusion, Json.Form.noConfusion⟩

/-- Two values are read as the same value of a keyword, if they are read at all. -/
def ReadAlike (keyword : Keyword) (v v' : Json) : Prop :=
  ∀ value, valueOfJson v keyword = .ok value ↔ valueOfJson v' keyword = .ok value

/-! ### Changes to an object -/

lemma given?_eq_of_perm {fields fields' : List (String × Json)}
    (hnames : (Entries.names fields).Nodup) (hperm : fields.Perm fields') (keyword : Keyword) :
    given? fields keyword = given? fields' keyword := by
  rw [given?, given?, Entries.get?_eq_of_perm hnames hperm]

/-- What is read of an object depends only on what it gives to keywords. -/
lemma readAlike_of_given? {fields fields' : List (String × Json)}
    (hnames : (Entries.names fields).Nodup) (hnames' : (Entries.names fields').Nodup)
    (h : ∀ keyword, given? fields keyword = given? fields' keyword) :
    ReadAlike .items (.object fields) (.object fields') := by
  intro d
  rw [valueOfJson, valueOfJson, ofFields_eq_ok_iff hnames, ofFields_eq_ok_iff hnames']
  simp only [h]

lemma readAlike_reorder {fields fields' : List (String × Json)}
    (hnames : (Entries.names fields).Nodup) (hperm : fields.Perm fields') :
    ReadAlike .items (.object fields) (.object fields') :=
  readAlike_of_given? hnames ((hperm.map Prod.fst).nodup_iff.mp hnames)
    (given?_eq_of_perm hnames hperm)

/-- An idle field can as well stand in front, where it is passed over. -/
lemma readAlike_add {before after : List (String × Json)} (hidle : Idle name v)
    (hnames : (Entries.names (before ++ (name, v) :: after)).Nodup) :
    ReadAlike .items (.object (before ++ after)) (.object (before ++ (name, v) :: after)) := by
  have hperm : (before ++ (name, v) :: after).Perm ((name, v) :: (before ++ after)) :=
    List.perm_middle
  obtain ⟨hnew, hrest⟩ := List.nodup_cons.mp ((hperm.map Prod.fst).nodup_iff.mp hnames)
  refine readAlike_of_given? hrest hnames fun keyword => ?_
  rw [given?_eq_of_perm hnames hperm, given?_cons_of_idle hnew hidle]

/-! ### Changes further inside -/

variable {v' : Json}

lemma readAlike_field {before after : List (String × Json)} (hnull : v.form ≠ .null)
    (hnull' : v'.form ≠ .null) (h : ReadAlike keyword v v') :
    ReadAlike .items (.object (before ++ (keyword.name, v) :: after))
      (.object (before ++ (keyword.name, v') :: after)) := by
  intro found
  rw [valueOfJson, valueOfJson]
  generalize ({} : Definition) = d
  induction before generalizing d with
  | nil =>
    rw [List.nil_append, List.nil_append, ofFields_cons_eq_ok_iff hnull,
      ofFields_cons_eq_ok_iff hnull']
    simp only [h _]
  | cons field before ih =>
    obtain ⟨name, u⟩ := field
    rw [List.cons_append, List.cons_append]
    by_cases hidle : Idle name u
    · rw [ofFields_cons_of_idle hidle, ofFields_cons_of_idle hidle]
      exact ih d
    · obtain ⟨hknown, hnull⟩ := not_or.mp hidle
      obtain ⟨other, hother⟩ := Option.ne_none_iff_exists'.mp hknown
      obtain rfl := Keyword.ofName?_eq_some_iff.mp hother
      rw [ofFields_cons_eq_ok_iff hnull, ofFields_cons_eq_ok_iff hnull]
      simp only [ih]

lemma ofElements_cons_of_null {index : Nat} {keywords : List Keyword} {elements : List Json}
    (hnull : v.form = .null) : ofElements d index (keyword :: keywords) (v :: elements) =
      ofElements d (index + 1) keywords elements := by
  rw [ofElements, if_pos hnull]

lemma ofElements_cons_eq_ok_iff {index : Nat} {keywords : List Keyword} {elements : List Json}
    (hnull : v.form ≠ .null) : ofElements d index (keyword :: keywords) (v :: elements) = .ok d' ↔
      ∃ value, valueOfJson v keyword = .ok value ∧
        ofElements (d.set keyword value) (index + 1) keywords elements = .ok d' := by
  rw [ofElements, if_neg hnull]
  cases valueOfJson v keyword <;> simp [Json.within, Except.mapError]

lemma readAlike_place {before after : List Json}
    (hplace : Keyword.all[before.length]? = some keyword) (hnull : v.form ≠ .null)
    (hnull' : v'.form ≠ .null) (h : ReadAlike keyword v v') :
    ReadAlike .items (.array (before ++ v :: after)) (.array (before ++ v' :: after)) := by
  intro found
  rw [valueOfJson, valueOfJson]
  generalize Keyword.all = keywords at hplace
  generalize ({} : Definition) = d
  generalize 0 = index
  induction before generalizing d index keywords with
  | nil =>
    cases keywords with
    | nil => cases hplace
    | cons first keywords =>
      cases hplace
      rw [List.nil_append, List.nil_append, ofElements_cons_eq_ok_iff hnull,
        ofElements_cons_eq_ok_iff hnull']
      simp only [h _]
  | cons u before ih =>
    cases keywords with
    | nil => cases hplace
    | cons other keywords =>
      rw [List.cons_append, List.cons_append]
      by_cases hu : u.form = .null
      · rw [ofElements_cons_of_null hu, ofElements_cons_of_null hu]
        exact ih keywords hplace d (index + 1)
      · rw [ofElements_cons_eq_ok_iff hu, ofElements_cons_eq_ok_iff hu]
        simp only [ih keywords hplace]

lemma forall₂_congr_at {α β : Type} {R : α → β → Prop} {x x' : α} (h : ∀ y, R x y ↔ R x' y)
    {before after : List α} {ys : List β} :
    List.Forall₂ R (before ++ x :: after) ys ↔ List.Forall₂ R (before ++ x' :: after) ys := by
  induction before generalizing ys with
  | nil => cases ys <;> simp [h]
  | cons b before ih => cases ys <;> simp [ih]

lemma readAlike_property {before after : List (String × Json)} (h : ReadAlike .items v v') :
    ReadAlike .properties (.object (before ++ (name, v) :: after))
      (.object (before ++ (name, v') :: after)) := by
  intro definitions
  rw [valueOfJson, valueOfJson, entriesOfJson_eq_ok_iff, entriesOfJson_eq_ok_iff]
  have hnamed : ∀ definition, ReadsNamed (name, v) definition ↔ ReadsNamed (name, v') definition :=
    fun definition => and_congr_right fun _ => h definition.2
  exact forall₂_congr_at hnamed

lemma readAlike_part (hkeyword : keyword = .allOf ∨ keyword = .anyOf) {before after : List Json}
    (h : ReadAlike .items v v') :
    ReadAlike keyword (.array (before ++ v :: after)) (.array (before ++ v' :: after)) := by
  rcases hkeyword with rfl | rfl <;>
  · intro parts
    rw [valueOfJson, valueOfJson, listOfJson_eq_ok_iff, listOfJson_eq_ok_iff]
    exact forall₂_congr_at (R := ReadsAs) h

lemma Rewords.readAlike (h : Rewords keyword v v') : ReadAlike keyword v v' := by
  induction h with
  | addUnknown hname hnames => exact readAlike_add (.inl hname) hnames
  | addNull hnames => exact readAlike_add (.inr rfl) hnames
  | reorder hnames hperm => exact readAlike_reorder hnames hperm
  | field h ih => exact readAlike_field h.form_ne_null.1 h.form_ne_null.2 ih
  | place hplace h ih => exact readAlike_place hplace h.form_ne_null.1 h.form_ne_null.2 ih
  | property _ ih => exact readAlike_property ih
  | part hkeyword _ ih => exact readAlike_part hkeyword ih

/-- **Rewordings define the same.**  If one value comes from another one by any number of
rewordings, in one direction or the other, then either both define the same identity and the same
schema, or both define none. -/
theorem entryOfJson_eq_of_reworded {v v' : Json} (h : Relation.EqvGen (Rewords .items) v v')
    (entry : SchemaEntry) : entryOfJson v = .ok entry ↔ entryOfJson v' = .ok entry := by
  have hread : ReadAlike .items v v' := by
    induction h with
    | rel v v' h => exact h.readAlike
    | refl v => exact fun _ => Iff.rfl
    | symm v v' _ ih => exact fun d => (ih d).symm
    | trans v u v' _ _ ih ih' => exact fun d => (ih d).trans (ih' d)
  simp only [entryOfJson_eq_ok_iff]
  exact exists_congr fun d => and_congr_left fun _ => hread d

/-- A reference to trees. -/
def twig : List (String × Json) := [("$ref", .string "Tree")]

/-- The fields of a definition with two properties, of which the first one is given. -/
def fork (left : List (String × Json)) : List (String × Json) :=
  [("type", .array [.string "object", .string "null"]),
    ("properties", .object [("left", .object left), ("right", .object [])])]

/-- A fork with a null among the keywords of a property, its own keywords in another order, and a
title. -/
def ornateFork : List (String × Json) :=
  ("title", .string "Fork") :: (fork (("items", .null) :: twig)).reverse

/-- The ornate fork defines what the plain one defines. -/
theorem fork_reworded :
    Relation.EqvGen (Rewords .items) (.object (fork twig)) (.object ornateFork) ∧
    entryOfJson (.object ornateFork) = .ok ⟨none, .anyOf
      [.object [("left", .ref "Tree"), ("right", .any)] [], .leaf { kind := some .null }]⟩ := by
  have hnull : Rewords .items (.object (fork twig)) (.object (fork (("items", .null) :: twig))) :=
    @Rewords.field [_] [] .properties _ _
      (@Rewords.property [] [_] "left" _ _ (@Rewords.addNull [] twig .items (by decide)))
  have horder : Rewords .items (.object (fork (("items", .null) :: twig)))
      (.object (fork (("items", .null) :: twig)).reverse) :=
    .reorder (by decide) (List.reverse_perm _).symm
  have htitle : Rewords .items (.object (fork (("items", .null) :: twig)).reverse)
      (.object ornateFork) :=
    @Rewords.addUnknown [] _ "title" _ rfl (by decide)
  have h : Relation.EqvGen (Rewords .items) (.object (fork twig)) (.object ornateFork) :=
    .trans _ _ _ (.rel _ _ hnull) (.trans _ _ _ (.rel _ _ horder) (.rel _ _ htitle))
  exact ⟨h, (entryOfJson_eq_of_reworded h _).mp rfl⟩

end Definition

end TreeSchema
