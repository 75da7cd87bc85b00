/-
Chains of aliases.

A name that is registered for a bare reference is an alias of the name referred to.  Every
name is an alias of at most one other, so going from alias to alias is a deterministic walk:
it comes to an end at a name that is no alias, or it goes round for ever.  Resolution is
that walk together with a memory of the names it has come by.

The main result is `resolve_eq_ok_iff`: a name resolves to the entries at which its walk
ends.  The memory gets in the way of no walk that ends, because such a walk never comes by
the same name twice (`not_transGen_self`).  So all names on a walk resolve alike.
-/
import Mathlib.Logic.Relation
import TreeSchema.Registry.Resolution

namespace TreeSchema

open Relation

@[simp] lemma Schema.alias?_eq_some_iff {s : Schema} {name : String} :
    s.alias? = some name ↔ s = .ref name := by
  cases s <;> simp [Schema.alias?]

namespace Registry

/-- The first name is registered for a bare reference to the second one. -/
def AliasStep (r : Registry) (name next : String) : Prop :=
  ∃ entry, r.lookup? name = some entry ∧ entry.schema = .ref next

/-- The walk from the first name comes by the second one. -/
abbrev LeadsTo (r : Registry) : String → String → Prop := ReflTransGen r.AliasStep

/-- The walk from a name ends at an entry, which is no alias. -/
def EndsAt (r : Registry) (name : String) (entry : SchemaEntry) : Prop :=
  ∃ last, r.LeadsTo name last ∧ r.lookup? last = some entry ∧ entry.schema.alias? = none

variable {r : Registry} {name next last : String} {entry : SchemaEntry}

/-! ### The walk is deterministic -/

lemma aliasStep_rightUnique (r : Registry) : Relator.RightUnique r.AliasStep := by
  rintro name a b ⟨entry, hentry, ha⟩ ⟨entry', hentry', hb⟩
  have hsame : entry = entry' := Option.some.inj (hentry.symm.trans hentry')
  subst hsame
  exact Schema.ref.inj (ha.symm.trans hb)

/-- A walk that goes round goes round from each of its names. -/
lemma transGen_self_of_leadsTo (hround : TransGen r.AliasStep name name)
    (h : r.LeadsTo name last) : TransGen r.AliasStep last last := by
  induction h with
  | refl => exact hround
  | @tail a b _ hstep ih =>
    -- there is only one step from `a`, so the way round `a` takes it too
    obtain ⟨b', hstep', hback⟩ := TransGen.head'_iff.mp ih
    obtain rfl := aliasStep_rightUnique r hstep hstep'
    exact TransGen.tail' hback hstep

lemma not_aliasStep_of_lookup (hlookup : r.lookup? name = some entry)
    (halias : entry.schema.alias? = none) : ¬ r.AliasStep name next := by
  rintro ⟨entry', hentry', href⟩
  have hsame : entry = entry' := Option.some.inj (hlookup.symm.trans hentry')
  subst hsame
  simp [href, Schema.alias?] at halias

/-- A walk that ends does not go round. -/
lemma not_transGen_self (h : r.EndsAt name entry) : ¬ TransGen r.AliasStep name name := by
  obtain ⟨last, hleads, hlookup, halias⟩ := h
  intro hround
  obtain ⟨next, hstep, -⟩ := TransGen.head'_iff.mp (transGen_self_of_leadsTo hround hleads)
  exact not_aliasStep_of_lookup hlookup halias hstep

/-- An alias ends where the name ends that it refers to. -/
lemma endsAt_iff_of_aliasStep (hstep : r.AliasStep name next) :
    r.EndsAt name entry ↔ r.EndsAt next entry := by
  constructor
  · rintro ⟨last, hleads, hlookup, halias⟩
    rcases hleads.cases_head with rfl | ⟨next', hstep', hrest⟩
    · exact absurd hstep (not_aliasStep_of_lookup hlookup halias)
    · obtain rfl := aliasStep_rightUnique r hstep hstep'
      exact ⟨last, hrest, hlookup, halias⟩
  · rintro ⟨last, hleads, hend⟩
    exact ⟨last, hleads.head hstep, hend⟩

/-! ### Resolution is the walk -/

lemma endsAt_of_resolveFrom {visited : List String}
    (h : r.resolveFrom visited name = .ok entry) : r.EndsAt name entry := by
  fun_induction Registry.resolveFrom r visited name with
  | case1 => cases h
  | case2 => cases h
  | case3 visited name hnew found hlookup next halias hless ih =>
    have hstep : r.AliasStep name next := ⟨found, hlookup, by simpa using halias⟩
    exact (endsAt_iff_of_aliasStep hstep).mpr (ih h)
  | case4 visited name hnew found hlookup halias =>
    cases h
    exact ⟨name, .refl, hlookup, halias⟩

lemma resolveFrom_of_aliasStep {visited : List String} (hnew : name ∉ visited)
    (hstep : r.AliasStep name next) :
    r.resolveFrom visited name = r.resolveFrom (visited ++ [name]) next := by
  obtain ⟨entry, hlookup, href⟩ := hstep
  rw [Registry.resolveFrom, dif_neg hnew]
  split
  · simp_all
  · next found hfound =>
    obtain rfl := Option.some.inj (hlookup.symm.trans hfound)
    simp [href, Schema.alias?]

lemma resolveFrom_of_lookup {visited : List String} (hnew : name ∉ visited)
    (hlookup : r.lookup? name = some entry) (halias : entry.schema.alias? = none) :
    r.resolveFrom visited name = .ok entry := by
  rw [Registry.resolveFrom, dif_neg hnew]
  split
  · simp_all
  · next found hfound =>
    obtain rfl := Option.some.inj (hlookup.symm.trans hfound)
    simp [halias]

lemma resolveFrom_of_lookup_none {visited : List String} (hnew : name ∉ visited)
    (hlookup : r.lookup? name = none) :
    r.resolveFrom visited name = .error (.notRegistered name) := by
  rw [Registry.resolveFrom, dif_neg hnew]
  split <;> simp_all

/-- Resolution finds the end of a walk that avoids the names it has come by. -/
lemma resolveFrom_of_leadsTo (hleads : r.LeadsTo name last) (hlookup : r.lookup? last = some entry)
    (halias : entry.schema.alias? = none) (visited : List String)
    (hnew : ∀ x, r.LeadsTo name x → x ∉ visited) : r.resolveFrom visited name = .ok entry := by
  induction hleads using ReflTransGen.head_induction_on generalizing visited with
  | refl => exact resolveFrom_of_lookup (hnew last .refl) hlookup halias
  | @head name next hstep hrest ih =>
    have hacyclic := not_transGen_self ⟨last, hrest.head hstep, hlookup, halias⟩
    rw [resolveFrom_of_aliasStep (hnew name .refl) hstep]
    refine ih (visited ++ [name]) fun x hx hmem => ?_
    rcases List.mem_append.mp hmem with hold | hname
    · exact hnew x (hx.head hstep) hold
    · -- the walk would be back at its beginning
      obtain rfl := List.mem_singleton.mp hname
      exact hacyclic (TransGen.head' hstep hx)

/-- **A name resolves to the entry at which its walk ends.** -/
theorem resolve_eq_ok_iff : r.resolve name = .ok entry ↔ r.EndsAt name entry := by
  constructor
  · exact endsAt_of_resolveFrom
  · rintro ⟨last, hleads, hlookup, halias⟩
    exact resolveFrom_of_leadsTo hleads hlookup halias [] (by simp)

/-- An alias resolves to what the name resolves to that it refers to. -/
lemma resolve_eq_ok_iff_of_leadsTo (h : r.LeadsTo name next) :
    r.resolve name = .ok entry ↔ r.resolve next = .ok entry := by
  induction h with
  | refl => rfl
  | tail _ hstep ih =>
    rw [ih, resolve_eq_ok_iff, resolve_eq_ok_iff, endsAt_iff_of_aliasStep hstep]

end Registry

end TreeSchema
