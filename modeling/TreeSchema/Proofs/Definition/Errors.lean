/-
Where a definition fails.

A definition has no schema if something is wrong with it or with a definition in it, and the error
tells what and where.  The place is made up step by step, each definition adding the step to the one
that failed in it, while the checks of its own keywords add none.  So the place must lead to the
definition whose own keywords show what the error says (`entry_error_points_at`), whatever the other
keywords are and however deep it stands.

One level is enough for this: an error is told either of the definition itself or of one that stands
in it by one step (`Blames`).  All groups of keywords fail only in these two ways, and so do the
steps that put them together.
-/
import TreeSchema.Proofs.Definition.Defects
import TreeSchema.Proofs.Schema.FirstFlaw

namespace TreeSchema

/-- Kinds neither of which contains the other one have no value in common. -/
lemma Kind.not_admits_both {kind other : Kind} (h : kind.within other = false)
    (h' : other.within kind = false) (v : Json) :
    ¬ (kind.admits v = true ∧ other.admits v = true) := by
  cases kind <;> cases other <;> simp [within] at h h' <;>
    cases v <;> simp [admits, Json.isIntegral, Json.form]

namespace Definition

open Schema (FlawAt Step placeText)

/-! ### What an error says -/

/-- The keywords of a definition ask for values of a kind. -/
inductive AsksFor (d : Definition) (kind : Kind) : Prop where
  | type {name : String} (h : d.kindNames = some (.one name))
      (hname : Kind.ofName? name = some kind)
  | keyword {keyword : Keyword} (hhas : d.has keyword = true)
      (hkind : keyword.impliedKind? = some kind)

/-- What is wrong with a definition itself, and not only with one in it. -/
inductive Shows (d : Definition) : Flaw → Prop where
  | unknownKind {names : KindNames} {name : String} (h : d.kindNames = some names)
      (hmem : name ∈ names.toList) (hname : Kind.ofName? name = none) : Shows d (.unknownKind name)
  | invalidPattern {source : String} (h : d.pattern = some source)
      (hsource : Pattern.ofSource? source = none) : Shows d (.invalidPattern source)
  | noKinds (h : d.kindNames = some (.many [])) : Shows d (.emptyList .type)
  | noAllOf (h : d.allOf = some []) : Shows d (.emptyList .allOf)
  | noAnyOf (h : d.anyOf = some []) : Shows d (.emptyList .anyOf)
  /-- No value is of both kinds. -/
  | conflictingKinds {first second : Kind} (hfirst : d.AsksFor first) (hsecond : d.AsksFor second)
      (hnone : ∀ v, ¬ (first.admits v = true ∧ second.admits v = true)) :
      Shows d (.conflictingKinds first second)
  | lengths {least most : Nat} (hleast : d.minItems = some least) (hmost : d.maxItems = some most)
      (hlt : most < least) : Shows d (.invertedLengths least most)
  | bounds {minimum maximum : Binary64} (hminimum : d.minimum = some minimum)
      (hmaximum : d.maximum = some maximum) (hlt : maximum.precedes minimum = true) :
      Shows d (.invertedBounds minimum maximum)

/-- The first definition stands in the second one, one step away. -/
inductive StandsBy (sub : Definition) : Step → Definition → Prop where
  | property {d : Definition} {properties : List (String × Definition)} {name : String}
      (h : d.properties = some properties) (hmem : (name, sub) ∈ properties) :
      StandsBy sub (.property name) d
  | items {d : Definition} (h : d.items = some sub) : StandsBy sub .items d
  | allOf {d : Definition} {parts : List Definition} {i : Nat} (h : d.allOf = some parts)
      (hpart : parts[i]? = some sub) : StandsBy sub (.allOf i) d
  | anyOf {d : Definition} {parts : List Definition} {i : Nat} (h : d.anyOf = some parts)
      (hpart : parts[i]? = some sub) : StandsBy sub (.anyOf i) d

/-- The steps lead from the second definition to the first one. -/
inductive StandsAt (q : Definition) : List Step → Definition → Prop where
  | here : StandsAt q [] q
  | inside {step : Step} {route : List Step} {sub d : Definition} (hsub : sub.StandsBy step d)
      (hq : StandsAt q route sub) : StandsAt q (step :: route) d

/-- The error is that of the definition itself, or of one in it as seen from one step further
out. -/
inductive Blames (d : Definition) : FlawAt → Prop where
  | here {flaw : Flaw} (h : d.Shows flaw) : Blames d (.here flaw)
  | inside {step : Step} {sub : Definition} {found : FlawAt} (hsub : sub.StandsBy step d)
      (h : sub.schema = .error found) : Blames d (found.under step)

lemma StandsBy.partOf {sub d : Definition} {step : Step} (h : sub.StandsBy step d) :
    sub.PartOf d := by
  cases h with
  | property h hmem => exact .property h hmem
  | items h => exact .item h
  | allOf h hpart => exact .allOf h (List.mem_of_getElem? hpart)
  | anyOf h hpart => exact .anyOf h (List.mem_of_getElem? hpart)

/-! ### Steps that fail only in known ways -/

section Failing

variable {α β : Type} {d : Definition} {x : Except FlawAt α}

/-- If a step fails, it is because of the definition or one in it. -/
def FailsBy (d : Definition) (x : Except FlawAt α) : Prop :=
  ∀ found, x = .error found → d.Blames found

lemma failsBy_ok (a : α) : d.FailsBy (.ok a : Except FlawAt α) := fun _ h => by cases h

lemma failsBy_fail {flaw : Flaw} (h : d.Shows flaw) : d.FailsBy (fail flaw : Except FlawAt α) := by
  rintro _ ⟨⟩
  exact .here h

lemma failsBy_refuse {flaw? : Option Flaw} (h : ∀ flaw, flaw? = some flaw → d.Shows flaw) :
    d.FailsBy (refuse flaw?) := by
  cases flaw? with
  | none => exact failsBy_ok ()
  | some flaw => exact failsBy_fail (h flaw rfl)

lemma FailsBy.bind {f : α → Except FlawAt β} (hx : d.FailsBy x)
    (hf : ∀ a, x = .ok a → d.FailsBy (f a)) : d.FailsBy (x >>= f) := by
  intro found h
  cases hresult : x with
  | error why =>
    rw [hresult] at h
    cases h
    exact hx found hresult
  | ok a =>
    rw [hresult] at h
    exact hf a hresult found h

lemma FailsBy.map {f : α → β} (hx : d.FailsBy x) : d.FailsBy (x.map f) :=
  fun found h => hx found (map_eq_error_iff.mp h)

lemma failsBy_mapM {xs : List β} {f : β → Except FlawAt α} (hf : ∀ b ∈ xs, d.FailsBy (f b)) :
    d.FailsBy (xs.mapM f) := by
  induction xs with
  | nil => exact failsBy_ok []
  | cons b xs ih =>
    obtain ⟨hb, hxs⟩ := List.forall_mem_cons.mp hf
    rw [List.mapM_cons]
    exact hb.bind fun _ _ => (ih hxs).bind fun _ _ => failsBy_ok _

end Failing

variable {d : Definition} {kind : Option Kind}

/-! ### Definitions in definitions -/

lemma exists_of_under_eq_error {α : Type} {step : Step} {x : Except FlawAt α} {found : FlawAt}
    (h : under step x = .error found) : ∃ inner, x = .error inner ∧ found = inner.under step := by
  cases x with
  | ok a => cases h
  | error inner =>
    cases h
    exact ⟨inner, rfl, rfl⟩

/-- The schemas of properties fail with one of these. -/
lemma exists_of_propertySchemas_eq_error {entries : List (String × Definition)} {found : FlawAt}
    (h : propertySchemas entries = .error found) :
    ∃ (name : String) (sub : Definition) (inner : FlawAt), (name, sub) ∈ entries ∧
      sub.schema = .error inner ∧ found = inner.under (.property name) := by
  induction entries with
  | nil => cases h
  | cons entry rest ih =>
    obtain ⟨name, sub⟩ := entry
    rw [propertySchemas] at h
    split at h
    · next hfirst =>
      cases h
      obtain ⟨inner, hinner, rfl⟩ := exists_of_under_eq_error hfirst
      exact ⟨name, sub, inner, List.mem_cons_self, hinner, rfl⟩
    · obtain ⟨name', sub', inner, hmem, hrest⟩ := ih (map_eq_error_iff.mp h)
      exact ⟨name', sub', inner, List.mem_cons_of_mem _ hmem, hrest⟩

/-- The schemas of the parts of a composition fail with one of these, which is told by its
number. -/
lemma exists_of_partSchemas_eq_error {step : Nat → Step} {index : Nat} {parts : List Definition}
    {found : FlawAt} (h : partSchemas step index parts = .error found) :
    ∃ (i : Nat) (sub : Definition) (inner : FlawAt), parts[i]? = some sub ∧
      sub.schema = .error inner ∧ found = inner.under (step (index + i)) := by
  induction parts generalizing index with
  | nil => cases h
  | cons part rest ih =>
    rw [partSchemas] at h
    split at h
    · next hfirst =>
      cases h
      obtain ⟨inner, hinner, rfl⟩ := exists_of_under_eq_error hfirst
      exact ⟨0, part, inner, rfl, hinner, rfl⟩
    · obtain ⟨i, sub, inner, hpart, hinner, rfl⟩ := ih (map_eq_error_iff.mp h)
      exact ⟨i + 1, sub, inner, hpart, hinner, by rw [Nat.add_right_comm, Nat.add_assoc]⟩

/-! ### Kinds -/

lemma Shows.conflict_of_ne {first second : Keyword} {k k' : Kind} (hfirst : d.has first = true)
    (hk : first.impliedKind? = some k) (hsecond : d.has second = true)
    (hk' : second.impliedKind? = some k') (hne : k ≠ k') : d.Shows (.conflictingKinds k k') := by
  have hapart : k.within k' = false ∧ k'.within k = false := by
    -- no keyword implies integers, so different implied kinds do not overlap
    cases first <;> cases hk <;> cases second <;> cases hk' <;>
      first | exact ⟨rfl, rfl⟩ | exact absurd rfl hne
  exact .conflictingKinds (.keyword hfirst hk) (.keyword hsecond hk')
    (Kind.not_admits_both hapart.1 hapart.2)

lemma Shows.conflict_of_type {name : String} {declared k : Kind} {keyword : Keyword}
    (hnames : d.kindNames = some (.one name)) (hname : Kind.ofName? name = some declared)
    (hhas : d.has keyword = true) (hk : keyword.impliedKind? = some k)
    (hwithin : declared.within k = false) : d.Shows (.conflictingKinds declared k) := by
  have hapart : k.within declared = false := by
    cases keyword <;> cases hk <;> cases declared <;> first | rfl | cases hwithin
  exact .conflictingKinds (.type hnames hname) (.keyword hhas hk)
    (Kind.not_admits_both hwithin hapart)

lemma failsBy_impliedKind? : d.FailsBy d.impliedKind? := by
  unfold impliedKind?
  split
  · exact failsBy_ok none
  · next keyword first rest hcons =>
    split
    · next other second hfind =>
      have hfirst : (keyword, first) ∈ d.shapeKeywords := hcons ▸ List.mem_cons_self
      have hsecond : (other, second) ∈ d.shapeKeywords :=
        hcons ▸ List.mem_cons_of_mem _ (List.mem_of_find?_eq_some hfind)
      obtain ⟨hhas, hk⟩ := mem_shapeKeywords_iff.mp hfirst
      obtain ⟨hhas', hk'⟩ := mem_shapeKeywords_iff.mp hsecond
      have hne : second ≠ first := by simpa using List.find?_some hfind
      exact failsBy_fail (.conflict_of_ne hhas hk hhas' hk' hne.symm)
    · exact failsBy_ok (some first)

lemma failsBy_kindOfName {names : KindNames} {name : String} (h : d.kindNames = some names)
    (hmem : name ∈ names.toList) : d.FailsBy (kindOfName name) := by
  unfold kindOfName
  split
  · exact failsBy_ok _
  · next hname => exact failsBy_fail (.unknownKind h hmem hname)

/-! ### Groups -/

lemma failsBy_patternOf : d.FailsBy d.patternOf := by
  unfold patternOf
  split
  · exact failsBy_ok none
  · next source h =>
    split
    · exact failsBy_ok _
    · next hsource => exact failsBy_fail (.invalidPattern h hsource)

lemma failsBy_leafSchemas : d.FailsBy (d.leafSchemas kind) := by
  unfold leafSchemas
  dsimp only
  split
  · refine FailsBy.map (failsBy_patternOf.bind fun pattern _ => ?_)
    refine (failsBy_refuse fun flaw hflaw => ?_).bind fun _ _ => failsBy_ok _
    obtain ⟨minimum, maximum, hminimum, hmaximum, hlt, rfl⟩ :=
      Schema.constraint_flaw?_eq_some_iff.mp hflaw
    exact .bounds hminimum hmaximum hlt
  · exact failsBy_ok []

lemma failsBy_objectSchema : d.FailsBy (d.objectSchema d.nested) := by
  refine FailsBy.bind (fun found h => ?_) fun _ _ => failsBy_ok _
  cases hproperties : d.properties with
  | none => simp [nested, hproperties] at h
  | some properties =>
    obtain ⟨name, sub, inner, hmem, hinner, rfl⟩ :=
      exists_of_propertySchemas_eq_error (by simpa [nested, hproperties] using h)
    exact .inside (.property hproperties hmem) hinner

lemma failsBy_arraySchema : d.FailsBy (d.arraySchema d.nested) := by
  have hlengths : ∀ items, d.FailsBy (do
      refuse (Schema.lengthFlaw? d.minItems d.maxItems)
      return Schema.array items d.minItems d.maxItems) := fun items => by
    refine (failsBy_refuse fun flaw hflaw => ?_).bind fun _ _ => failsBy_ok _
    obtain ⟨n, m, hn, hm, hlt, rfl⟩ := Schema.lengthFlaw?_eq_some_iff.mp hflaw
    exact .lengths hn hm hlt
  unfold arraySchema
  cases hitems : d.items with
  | none =>
    simp only [nested, hitems, Option.map_none, pure_bind]
    exact hlengths none
  | some item =>
    simp only [nested, hitems, Option.map_some]
    refine FailsBy.bind (FailsBy.map fun found h => ?_) fun items _ => hlengths items
    obtain ⟨inner, hinner, rfl⟩ := exists_of_under_eq_error h
    exact .inside (.items hitems) hinner

lemma failsBy_kindSchema : d.FailsBy (d.kindSchema d.nested kind) := by
  refine FailsBy.bind ?_ fun _ _ => failsBy_leafSchemas.bind fun _ _ => failsBy_ok _
  unfold shapeSchemas
  split
  · exact failsBy_objectSchema.map
  · exact failsBy_arraySchema.map
  · exact failsBy_ok []

lemma failsBy_typeSchema (himplied : d.impliedKind? = .ok kind) :
    d.FailsBy (d.typeSchema d.nested kind) := by
  unfold typeSchema
  split
  · exact failsBy_kindSchema
  · next name hnames =>
    refine (failsBy_kindOfName hnames List.mem_cons_self).bind fun declared hdeclared => ?_
    split
    · next implied =>
      split
      · exact failsBy_kindSchema
      · next hnot =>
        obtain ⟨keyword, hhas, hk⟩ :=
          exists_keyword_of_implied (impliedKind?_eq_ok himplied).1.symm
        exact failsBy_fail (.conflict_of_type hnames (kindOfName_eq_ok_iff.mp hdeclared) hhas hk
          (Bool.eq_false_iff.mpr hnot))
    · exact failsBy_kindSchema
  · next hnames => exact failsBy_fail (.noKinds hnames)
  · next names _ hnames =>
    refine FailsBy.bind (failsBy_mapM fun name hmem => ?_) fun _ _ => failsBy_ok _
    refine (failsBy_kindOfName hnames hmem).bind fun k _ => ?_
    split
    · exact failsBy_kindSchema
    · exact failsBy_ok _

/-- A composition fails with one of its parts, or because it has none. -/
lemma failsBy_compositionSchema {keyword : ListKeyword} {compose : List Schema → Schema}
    {step : Nat → Step} {parts : Option (List Definition)}
    (hempty : parts = some [] → d.Shows (.emptyList keyword))
    (hpart : ∀ (ds : List Definition) (i : Nat) (sub : Definition), parts = some ds →
      ds[i]? = some sub → sub.StandsBy (step i) d) :
    d.FailsBy (compositionSchema keyword compose (parts.map (partSchemas step 0))) := by
  cases parts with
  | none => exact failsBy_ok []
  | some ds =>
    refine FailsBy.bind (fun found h => ?_) fun ss hss => ?_
    · obtain ⟨i, sub, inner, hsub, hinner, rfl⟩ := exists_of_partSchemas_eq_error h
      rw [Nat.zero_add]
      exact .inside (hpart ds i sub rfl hsub) hinner
    · split
      · next hnil =>
        rw [List.isEmpty_iff.mp hnil, partSchemas_eq_ok_iff, List.forall₂_nil_right_iff] at hss
        exact failsBy_fail (hempty (congrArg some hss))
      · exact failsBy_ok _

/-! ### The whole definition -/

/-- A definition fails because of itself or because one in it fails. -/
lemma failsBy_schema : d.FailsBy d.schema := by
  rw [schema_eq_schemaWith]
  refine failsBy_impliedKind?.bind fun kind himplied => ?_
  refine (failsBy_typeSchema himplied).bind fun typed _ => ?_
  have hall : d.FailsBy (compositionSchema .allOf .intersection d.nested.allOf) :=
    failsBy_compositionSchema .noAllOf fun _ _ _ => .allOf
  have hany : d.FailsBy (compositionSchema .anyOf .union d.nested.anyOf) :=
    failsBy_compositionSchema .noAnyOf fun _ _ _ => .anyOf
  exact hall.bind fun all _ => hany.bind fun any _ => failsBy_ok _

/-- An error leads, step by step, to the definition that it is about. -/
lemma exists_of_schema_eq_error {d : Definition} {found : FlawAt} (h : d.schema = .error found) :
    ∃ q : Definition, q.StandsAt found.1 d ∧ q.Shows found.2 := by
  cases failsBy_schema found h with
  | here hshows => exact ⟨d, .here, hshows⟩
  | inside hsub hinner =>
    have := hsub.partOf.sizeOf_lt
    obtain ⟨q, hq, hshows⟩ := exists_of_schema_eq_error hinner
    exact ⟨q, .inside hsub hq, hshows⟩
termination_by sizeOf d

/-- **The error of a definition points at the definition that is wrong.**  The steps of its place
lead to a definition whose own keywords show what the error says, and the message begins with these
steps. -/
theorem entry_error_points_at {d : Definition} {why : SchemaError} (h : d.entry = .error why) :
    ∃ (route : List Step) (q : Definition) (flaw : Flaw), q.StandsAt route d ∧ q.Shows flaw ∧
      why = .flawed route flaw ∧
      ∀ words, why.message words = placeText route ++ ": " ++ flaw.message words := by
  unfold entry at h
  split at h
  · cases h
  · next route flaw hschema =>
    cases h
    obtain ⟨q, hq, hshows⟩ := exists_of_schema_eq_error hschema
    exact ⟨route, q, flaw, hq, hshows, rfl, fun _ => rfl⟩

/-- A definition in which texts are asked to have fields, deep inside of a composition. -/
def lopsided : Definition where
  properties := some [("boughs", { allOf := some [{ reference := some "Tree" },
    { items := some { kindNames := some (.one "string"), required := some ["leaf"] } }] })]

/-- Its error leads to these texts. -/
theorem lopsided_error_points_at_items :
    lopsided.entry = .error (.flawed [.property "boughs", .allOf 1, .items]
      (.conflictingKinds .string .object)) ∧
    ∃ (route : List Step) (q : Definition) (flaw : Flaw),
      q.StandsAt route lopsided ∧ q.Shows flaw ∧
      SchemaError.flawed [.property "boughs", .allOf 1, .items]
        (.conflictingKinds .string .object) = .flawed route flaw ∧
      ∀ words, (SchemaError.flawed [.property "boughs", .allOf 1, .items]
        (.conflictingKinds .string .object)).message words =
          placeText route ++ ": " ++ flaw.message words :=
  ⟨rfl, entry_error_points_at rfl⟩

end Definition

end TreeSchema
