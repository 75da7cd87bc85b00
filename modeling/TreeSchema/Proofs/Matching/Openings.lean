/-
Opened names do not matter.

Matching keeps the names that lead to the present schema on the present value, and lets
a name that is opened already match nothing.  One would think that the answer depends on
what is opened.  It does not: a value that matches by means of an opened name also matches
without it.

`Derivable r inside closed v` is the least set of schemas that `v` matches when the names in
`closed` match nothing.  Matching computes it, with the opened names as the closed ones
(`matchesWithin_iff_derivable`).  The one step with an argument in it is opening a name.  If
the schema of a name could not be derived with the name closed, then the derivable schemas
would be the same with the name closed as without (`Derivable.close`), so the schema could
not be derived at all.  What is derivable with a name is derivable without going round.
-/
import Mathlib.Tactic.ByContra
import TreeSchema.Proofs.Matching.Equations
import TreeSchema.Proofs.Registry.Aliases

namespace TreeSchema

namespace Registry

/-- The schemas that a value matches when the names in `closed` match nothing and `inside`
tells which schemas the fields and elements of the value match. -/
inductive Derivable (r : Registry) (inside : Schema → Json → Prop) (closed : List String)
    (v : Json) : Schema → Prop where
  | any : Derivable r inside closed v .any
  | ref {name : String} {entry : SchemaEntry} (hopen : name ∉ closed)
      (hresolve : r.resolve name = .ok entry)
      (hentry : Derivable r inside closed v entry.schema) :
      Derivable r inside closed v (.ref name)
  | leaf {c : Constraint} (hadmits : c.admits v = true) : Derivable r inside closed v (.leaf c)
  | object {properties : List (String × Schema)} {required : List String}
      (hform : v.form = .object) (hrequired : ∀ name ∈ required, (v.field? name).isSome)
      (hfields : ∀ name sub child, (name, sub) ∈ properties → v.field? name = some child →
        inside sub child) :
      Derivable r inside closed v (.object properties required)
  | array {items : Option Schema} {least most : Option Nat} (hform : v.form = .array)
      (hlength : Schema.admitsLength least most v.elements.length = true)
      (helements : ∀ item, items = some item → ∀ child ∈ v.elements, inside item child) :
      Derivable r inside closed v (.array items least most)
  | allOf {parts : List Schema} (hparts : ∀ part ∈ parts, Derivable r inside closed v part) :
      Derivable r inside closed v (.allOf parts)
  | anyOf {parts : List Schema} {part : Schema} (hmem : part ∈ parts)
      (hpart : Derivable r inside closed v part) : Derivable r inside closed v (.anyOf parts)

variable {r : Registry} {inside : Schema → Json → Prop} {closed : List String} {v : Json}
  {s : Schema} {name : String} {entry : SchemaEntry}

namespace Derivable

/-- What is derivable with names closed is derivable with fewer of them closed. -/
lemma mono {fewer : List String} (h : Derivable r inside closed v s)
    (hfewer : ∀ x ∈ fewer, x ∈ closed) : Derivable r inside fewer v s := by
  induction h with
  | any => exact .any
  | ref hopen hresolve _ ih => exact .ref (fun hmem => hopen (hfewer _ hmem)) hresolve ih
  | leaf hadmits => exact .leaf hadmits
  | object hform hrequired hfields => exact .object hform hrequired hfields
  | array hform hlength helements => exact .array hform hlength helements
  | allOf _ ih => exact .allOf ih
  | anyOf hmem _ ih => exact .anyOf hmem ih

/-- A name can be closed if its schema is not derivable then: nothing gets lost. -/
lemma close (hresolve : r.resolve name = .ok entry)
    (hnot : ¬ Derivable r inside (name :: closed) v entry.schema)
    (h : Derivable r inside closed v s) : Derivable r inside (name :: closed) v s := by
  induction h with
  | any => exact .any
  | @ref other found hopen hfound _ ih =>
    by_cases hname : other = name
    · -- the schema of the name would be derivable after all
      subst hname
      obtain rfl : entry = found := Except.ok.inj (hresolve.symm.trans hfound)
      exact absurd ih hnot
    · exact .ref (by simp [hname, hopen]) hfound ih
  | leaf hadmits => exact .leaf hadmits
  | object hform hrequired hfields => exact .object hform hrequired hfields
  | array hform hlength helements => exact .array hform hlength helements
  | allOf _ ih => exact .allOf ih
  | anyOf hmem _ ih => exact .anyOf hmem ih

/-- **The schema of a name is derivable without the name itself.** -/
theorem close_self (hresolve : r.resolve name = .ok entry)
    (h : Derivable r inside closed v entry.schema) :
    Derivable r inside (name :: closed) v entry.schema := by
  by_contra hnot
  exact hnot (h.close hresolve hnot)

lemma ref_iff : Derivable r inside closed v (.ref name) ↔
    name ∉ closed ∧ ∃ entry, r.resolve name = .ok entry ∧
      Derivable r inside (name :: closed) v entry.schema := by
  constructor
  · intro h
    cases h with
    | ref hopen hresolve hentry => exact ⟨hopen, _, hresolve, hentry.close_self hresolve⟩
  · rintro ⟨hopen, entry, hresolve, hentry⟩
    exact .ref hopen hresolve (hentry.mono fun x hx => List.mem_cons_of_mem _ hx)

lemma object_iff {properties : List (String × Schema)} {required : List String} :
    Derivable r inside closed v (.object properties required) ↔
      v.form = .object ∧ (∀ name ∈ required, (v.field? name).isSome) ∧
        ∀ name sub child, (name, sub) ∈ properties → v.field? name = some child →
          inside sub child := by
  constructor
  · intro h
    cases h with
    | object hform hrequired hfields => exact ⟨hform, hrequired, hfields⟩
  · rintro ⟨hform, hrequired, hfields⟩
    exact .object hform hrequired hfields

lemma array_iff {items : Option Schema} {least most : Option Nat} :
    Derivable r inside closed v (.array items least most) ↔
      v.form = .array ∧ Schema.admitsLength least most v.elements.length = true ∧
        ∀ item, items = some item → ∀ child ∈ v.elements, inside item child := by
  constructor
  · intro h
    cases h with
    | array hform hlength helements => exact ⟨hform, hlength, helements⟩
  · rintro ⟨hform, hlength, helements⟩
    exact .array hform hlength helements

lemma leaf_iff {c : Constraint} : Derivable r inside closed v (.leaf c) ↔ c.admits v = true :=
  ⟨fun | .leaf hadmits => hadmits, .leaf⟩

lemma allOf_iff {parts : List Schema} :
    Derivable r inside closed v (.allOf parts) ↔ ∀ part ∈ parts, Derivable r inside closed v part :=
  ⟨fun | .allOf hparts => hparts, .allOf⟩

lemma anyOf_iff {parts : List Schema} :
    Derivable r inside closed v (.anyOf parts) ↔ ∃ part ∈ parts, Derivable r inside closed v part :=
  ⟨fun | .anyOf hmem hpart => ⟨_, hmem, hpart⟩, fun ⟨_, hmem, hpart⟩ => .anyOf hmem hpart⟩

end Derivable

/-! ### Matching computes what is derivable -/

/-- What matching asks of fields and elements. -/
abbrev AcceptsInside (r : Registry) (depth : Nat) (s : Schema) (v : Json) : Prop :=
  r.acceptsBelow depth s v = true

/-- **Matching with opened names computes what is derivable with them closed.** -/
theorem matchesWithin_iff_derivable (r : Registry) (depth : Nat) (opened : List String)
    (s : Schema) (v : Json) :
    r.matchesWithin depth opened s v = true ↔ Derivable r (r.AcceptsInside depth) opened v s := by
  match s with
  | .any => simp [Derivable.any]
  | .ref name =>
    rw [matchesWithin_ref, Derivable.ref_iff]
    refine and_congr_right fun hnew => exists_congr fun entry => and_congr_right fun hresolve => ?_
    exact matchesWithin_iff_derivable r depth (name :: opened) entry.schema v
  | .leaf c => rw [matchesWithin_leaf, Derivable.leaf_iff]
  | .object properties required => rw [matchesWithin_object, Derivable.object_iff]
  | .array items least most => rw [matchesWithin_array, Derivable.array_iff]
  | .allOf parts =>
    rw [matchesWithin_allOf, Derivable.allOf_iff]
    exact forall₂_congr fun part hpart => matchesWithin_iff_derivable r depth opened part v
  | .anyOf parts =>
    rw [matchesWithin_anyOf, Derivable.anyOf_iff]
    refine exists_congr fun part => and_congr_right fun hpart => ?_
    exact matchesWithin_iff_derivable r depth opened part v
  termination_by (r.namesLeft opened, sizeOf s)
  decreasing_by
    -- the schema of a name may be larger, but there is one name less to open
    · exact Prod.Lex.left _ _ (namesLeft_lt (contains_of_resolveFrom hresolve) hnew
        (by simp +contextual) (by simp))
    · exact Prod.Lex.right _ (by have := List.sizeOf_lt_of_mem hpart; simp; omega)
    · exact Prod.Lex.right _ (by have := List.sizeOf_lt_of_mem hpart; simp; omega)

/-- **What leads to a schema does not matter.**  A schema is matched with a name opened that
leads to it if and only if it is matched with nothing opened. -/
theorem matchesWithin_opened_iff (depth : Nat) (hresolve : r.resolve name = .ok entry) :
    r.matchesWithin depth [name] entry.schema v = true ↔ r.accepts depth entry.schema v = true := by
  unfold accepts
  rw [matchesWithin_iff_derivable, matchesWithin_iff_derivable]
  exact ⟨fun h => h.mono (by simp), fun h => h.close_self hresolve⟩

/-! ### References -/

/-- A reference is matched like the schema that its name leads to. -/
lemma accepts_ref_of_resolve_ok (depth : Nat) (v : Json) (hresolve : r.resolve name = .ok entry) :
    r.accepts depth (.ref name) v = r.accepts depth entry.schema v := by
  rw [Bool.eq_iff_iff, ← matchesWithin_opened_iff depth hresolve, accepts, matchesWithin_ref]
  simp [hresolve]

/-- A reference whose name leads nowhere matches nothing. -/
lemma accepts_ref_of_resolve_error (depth : Nat) (v : Json) {why : ResolveError}
    (hresolve : r.resolve name = .error why) : r.accepts depth (.ref name) v = false := by
  rw [Bool.eq_false_iff, accepts, Ne, matchesWithin_ref]
  simp [hresolve]

end Registry

end TreeSchema
