/-
Conformance.

What it means for a value to conform to a schema can be said without any matcher: by one rule
for each form of schema, where a name stands for the schema registered under it.  Schemas
may refer to each other in circles, so conformance is the *least* relation that obeys these
rules: what only holds by going round does not hold.

* `Registry.Conforms` is that relation.
* `Registry.ConformsWithin` is the same relation for a walk down of bounded depth, where fields
  and elements that lie too deep conform to nothing.

Matching computes conformance within its depth (`accepts_iff_conformsWithin`), whatever it
looks up, opens and cuts off on the way.  Where the depth suffices for the height of the
value, the bound is never felt and the two relations agree, so that matching computes
conformance itself (`accepts_iff_conforms`).
-/
import TreeSchema.Proofs.Json.Height
import TreeSchema.Proofs.Matching.Openings

namespace TreeSchema

namespace Registry

/-- Conformance of a value to a schema whose names are those of a registry. -/
inductive Conforms (r : Registry) : Schema → Json → Prop where
  | any {v : Json} : Conforms r .any v
  | ref {name : String} {entry : SchemaEntry} {v : Json} (hlookup : r.lookup? name = some entry)
      (hentry : Conforms r entry.schema v) : Conforms r (.ref name) v
  | leaf {c : Constraint} {v : Json} (hadmits : c.admits v = true) : Conforms r (.leaf c) v
  | object {properties : List (String × Schema)} {required : List String} {v : Json}
      (hform : v.form = .object) (hrequired : ∀ name ∈ required, (v.field? name).isSome)
      (hfields : ∀ name sub child, (name, sub) ∈ properties → v.field? name = some child →
        Conforms r sub child) :
      Conforms r (.object properties required) v
  | array {items : Option Schema} {least most : Option Nat} {v : Json} (hform : v.form = .array)
      (hlength : Schema.admitsLength least most v.elements.length = true)
      (helements : ∀ item, items = some item → ∀ child ∈ v.elements, Conforms r item child) :
      Conforms r (.array items least most) v
  | allOf {parts : List Schema} {v : Json} (hparts : ∀ part ∈ parts, Conforms r part v) :
      Conforms r (.allOf parts) v
  | anyOf {parts : List Schema} {part : Schema} {v : Json} (hmem : part ∈ parts)
      (hpart : Conforms r part v) : Conforms r (.anyOf parts) v

/-- Conformance where a field or element is reached only if there is a level left. -/
inductive ConformsWithin (r : Registry) : Nat → Schema → Json → Prop where
  | any {depth : Nat} {v : Json} : ConformsWithin r depth .any v
  | ref {depth : Nat} {name : String} {entry : SchemaEntry} {v : Json}
      (hlookup : r.lookup? name = some entry) (hentry : ConformsWithin r depth entry.schema v) :
      ConformsWithin r depth (.ref name) v
  | leaf {depth : Nat} {c : Constraint} {v : Json} (hadmits : c.admits v = true) :
      ConformsWithin r depth (.leaf c) v
  | object {depth : Nat} {properties : List (String × Schema)} {required : List String} {v : Json}
      (hform : v.form = .object) (hrequired : ∀ name ∈ required, (v.field? name).isSome)
      (hlevel : ∀ name sub child, (name, sub) ∈ properties → v.field? name = some child → 0 < depth)
      (hfields : ∀ name sub child, (name, sub) ∈ properties → v.field? name = some child →
        ConformsWithin r (depth - 1) sub child) :
      ConformsWithin r depth (.object properties required) v
  | array {depth : Nat} {items : Option Schema} {least most : Option Nat} {v : Json}
      (hform : v.form = .array)
      (hlength : Schema.admitsLength least most v.elements.length = true)
      (hlevel : ∀ item, items = some item → ∀ child ∈ v.elements, 0 < depth)
      (helements : ∀ item, items = some item → ∀ child ∈ v.elements,
        ConformsWithin r (depth - 1) item child) :
      ConformsWithin r depth (.array items least most) v
  | allOf {depth : Nat} {parts : List Schema} {v : Json}
      (hparts : ∀ part ∈ parts, ConformsWithin r depth part v) :
      ConformsWithin r depth (.allOf parts) v
  | anyOf {depth : Nat} {parts : List Schema} {part : Schema} {v : Json} (hmem : part ∈ parts)
      (hpart : ConformsWithin r depth part v) : ConformsWithin r depth (.anyOf parts) v

variable {r : Registry} {depth : Nat} {s : Schema} {v : Json}

/-! ### Matching obeys the rules -/

lemma accepts_iff_derivable :
    r.accepts depth s v = true ↔ Derivable r (r.AcceptsInside depth) [] v s :=
  matchesWithin_iff_derivable r depth [] s v

/-- A name is matched by what its schema is matched by: resolution at once goes the way that
looking up goes step by step. -/
lemma accepts_ref_of_lookup {name : String} {entry : SchemaEntry}
    (hlookup : r.lookup? name = some entry) (h : r.accepts depth entry.schema v = true) :
    r.accepts depth (.ref name) v = true := by
  rw [accepts_iff_derivable] at h ⊢
  cases halias : entry.schema.alias? with
  | none =>
    have hresolve : r.resolve name = .ok entry :=
      resolve_eq_ok_iff.mpr ⟨name, .refl, hlookup, halias⟩
    exact .ref (by simp) hresolve h
  | some next =>
    have href := Schema.alias?_eq_some_iff.mp halias
    -- an alias: `h` has resolved the next name, and both names resolve alike
    rw [href] at h
    cases h with
    | @ref _ found _ hresolve hfound =>
      have hleads : r.LeadsTo name next := .single ⟨entry, hlookup, href⟩
      exact .ref (by simp) ((resolve_eq_ok_iff_of_leadsTo hleads).mpr hresolve) hfound

lemma acceptsBelow_eq_true_iff :
    r.acceptsBelow depth s v = true ↔ 0 < depth ∧ r.accepts (depth - 1) s v = true := by
  cases depth <;> simp

lemma accepts_of_conformsWithin (h : r.ConformsWithin depth s v) :
    r.accepts depth s v = true := by
  induction h with
  | any => exact matchesWithin_any ..
  | ref hlookup _ ih => exact accepts_ref_of_lookup hlookup ih
  | leaf hadmits => exact (matchesWithin_leaf ..).trans hadmits
  | object hform hrequired hlevel _ ih =>
    refine (matchesWithin_object ..).mpr ⟨hform, hrequired, fun name sub child hmem hfield => ?_⟩
    exact acceptsBelow_eq_true_iff.mpr
      ⟨hlevel name sub child hmem hfield, ih name sub child hmem hfield⟩
  | array hform hlength hlevel _ ih =>
    refine (matchesWithin_array ..).mpr ⟨hform, hlength, fun item hitem child hchild => ?_⟩
    exact acceptsBelow_eq_true_iff.mpr
      ⟨hlevel item hitem child hchild, ih item hitem child hchild⟩
  | allOf _ ih => exact (matchesWithin_allOf ..).mpr ih
  | anyOf hmem _ ih => exact (matchesWithin_anyOf ..).mpr ⟨_, hmem, ih⟩

/-! ### Matching obeys nothing else -/

/-- An end of a walk of aliases conforms for each name on the walk. -/
lemma ConformsWithin.ref_of_endsAt {name : String} {entry : SchemaEntry}
    (hend : r.EndsAt name entry) (h : r.ConformsWithin depth entry.schema v) :
    r.ConformsWithin depth (.ref name) v := by
  obtain ⟨last, hleads, hlookup, -⟩ := hend
  induction hleads using Relation.ReflTransGen.head_induction_on with
  | refl => exact .ref hlookup h
  | head hstep _ ih =>
    obtain ⟨found, hfound, href⟩ := hstep
    exact .ref hfound (href ▸ ih)

/-- Conformance from what is derivable at one value, given it one level further down. -/
lemma conformsWithin_of_derivable
    (hinside : ∀ {s v}, r.AcceptsInside depth s v → 0 < depth ∧ r.ConformsWithin (depth - 1) s v)
    (h : Derivable r (r.AcceptsInside depth) [] v s) : r.ConformsWithin depth s v := by
  induction h with
  | any => exact .any
  | ref _ hresolve _ ih => exact .ref_of_endsAt (resolve_eq_ok_iff.mp hresolve) ih
  | leaf hadmits => exact .leaf hadmits
  | object hform hrequired hfields =>
    exact .object hform hrequired
      (fun name sub child hmem hfield => (hinside (hfields name sub child hmem hfield)).1)
      (fun name sub child hmem hfield => (hinside (hfields name sub child hmem hfield)).2)
  | array hform hlength helements =>
    exact .array hform hlength
      (fun item hitem child hchild => (hinside (helements item hitem child hchild)).1)
      (fun item hitem child hchild => (hinside (helements item hitem child hchild)).2)
  | allOf _ ih => exact .allOf ih
  | anyOf hmem _ ih => exact .anyOf hmem ih

lemma conformsWithin_of_accepts (h : r.accepts depth s v = true) :
    r.ConformsWithin depth s v := by
  induction depth generalizing s v with
  | zero => exact conformsWithin_of_derivable (by simp) (accepts_iff_derivable.mp h)
  | succ depth ih =>
    exact conformsWithin_of_derivable (fun hinside => ⟨Nat.succ_pos depth, ih hinside⟩)
      (accepts_iff_derivable.mp h)

/-- **Matching computes conformance within its depth.** -/
theorem accepts_iff_conformsWithin : r.accepts depth s v = true ↔ r.ConformsWithin depth s v :=
  ⟨conformsWithin_of_accepts, accepts_of_conformsWithin⟩

/-! ### Depth -/

lemma ConformsWithin.conforms (h : r.ConformsWithin depth s v) : r.Conforms s v := by
  induction h with
  | any => exact .any
  | ref hlookup _ ih => exact .ref hlookup ih
  | leaf hadmits => exact .leaf hadmits
  | object hform hrequired _ _ ih => exact .object hform hrequired ih
  | array hform hlength _ _ ih => exact .array hform hlength ih
  | allOf _ ih => exact .allOf ih
  | anyOf hmem _ ih => exact .anyOf hmem ih

/-- A depth that suffices for the height of a value suffices one level further down. -/
lemma Conforms.within (h : r.Conforms s v) (hdepth : v.height ≤ depth) :
    r.ConformsWithin depth s v := by
  induction h generalizing depth with
  | any => exact .any
  | ref hlookup _ ih => exact .ref hlookup (ih hdepth)
  | leaf hadmits => exact .leaf hadmits
  | object hform hrequired _ ih =>
    refine .object hform hrequired (fun name sub child hmem hfield => ?_)
      (fun name sub child hmem hfield => ih name sub child hmem hfield ?_)
    all_goals have := Json.height_field_lt hfield
    all_goals omega
  | array hform hlength _ ih =>
    refine .array hform hlength (fun item hitem child hchild => ?_)
      (fun item hitem child hchild => ih item hitem child hchild ?_)
    all_goals have := Json.height_element_lt hchild
    all_goals omega
  | allOf _ ih => exact .allOf fun part hpart => ih part hpart hdepth
  | anyOf hmem _ ih => exact .anyOf hmem (ih hdepth)

/-- **Matching computes conformance.**  Whatever the names of a registry refer to, themselves,
each other in circles or nothing at all, a value is matched if and only if it conforms, as long
as the depth is at least the height of the value. -/
theorem accepts_iff_conforms (r : Registry) (s : Schema) {v : Json} {depth : Nat}
    (hdepth : v.height ≤ depth) : r.accepts depth s v = true ↔ r.Conforms s v := by
  rw [accepts_iff_conformsWithin]
  exact ⟨fun h => h.conforms, fun h => h.within hdepth⟩

/-- Trees whose children are branches.  A branch is a branch, or it is what only goes round,
or what is not registered, or a tree. -/
def grove : Registry where
  entries := [
    ("Tree", {
      schema := .object [("children", .array (some (.ref "Branch")) none none)] ["kind"] }),
    ("Branch", { schema := .anyOf [.ref "Branch", .ref "Ring", .ref "Nowhere", .ref "Plant"] }),
    ("Plant", { schema := .ref "Tree" }),
    ("Ring", { schema := .ref "Circle" }),
    ("Circle", { schema := .ref "Ring" })]

/-- A tree with one branch. -/
def sapling : Json :=
  .object [("kind", .string "oak"), ("children", .array [.object [("kind", .string "twig")]])]

/-- A branch is found behind all that a branch is not. -/
theorem grove_accepts_sapling :
    sapling.height ≤ 3 ∧ grove.accepts 3 (.ref "Plant") sapling = true := by
  have hheight : sapling.height ≤ 3 := by decide
  have twig : grove.Conforms (.ref "Plant") (.object [("kind", .string "twig")]) := by
    refine .ref rfl (.ref rfl (.object rfl (by decide) ?_))
    rintro name sub child hmem hfield
    obtain ⟨rfl, rfl⟩ := Prod.mk.inj (List.mem_singleton.mp hmem)
    cases hfield
  refine ⟨hheight, (accepts_iff_conforms grove (.ref "Plant") hheight).mpr ?_⟩
  refine .ref rfl (.ref rfl (.object rfl (by decide) ?_))
  rintro name sub child hmem hfield
  obtain ⟨rfl, rfl⟩ := Prod.mk.inj (List.mem_singleton.mp hmem)
  cases hfield
  refine .array rfl rfl ?_
  rintro _ ⟨⟩ child hchild
  obtain rfl := List.mem_singleton.mp hchild
  refine .ref rfl (.anyOf ?_ twig)
  simp

end Registry

end TreeSchema
