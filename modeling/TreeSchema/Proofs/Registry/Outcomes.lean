/-
The outcomes of resolution.

Resolution goes from alias to alias and keeps the names that it has come by, which are all
different (`Registry.Walk`).  There are only so many registered names, so the walk is over after as
many steps at most (`Walk.length_le`).  It is over at a name that it has come by before, at one
that is not registered, or at one that is registered for any other schema (`exists_walk`).  As walks
are deterministic, these outcomes are told apart by what lies ahead of the first name: a walk that
goes on for ever, one that leads to a name that is not registered, or one that ends.
-/
import Mathlib.Data.List.Chain
import Mathlib.Data.List.Nodup
import Mathlib.Data.List.Perm.Subperm
import TreeSchema.Proofs.Registry.Aliases

namespace TreeSchema

open Relation

namespace Registry

/-- The walk from a name comes by the names of a path, all of them different, and then to a name
that may be one of them. -/
inductive Walk (r : Registry) (name : String) : List String → String → Prop where
  | start : Walk r name [] name
  | step {path : List String} {last next : String} (h : Walk r name path last)
      (hnew : last ∉ path) (hstep : r.AliasStep last next) : Walk r name (path ++ [last]) next

/-- The walk from a name goes on for ever. -/
def IsEndless (r : Registry) (name : String) : Prop :=
  ∃ walk : Nat → String, walk 0 = name ∧ ∀ n, r.AliasStep (walk n) (walk (n + 1))

/-- The names that the walk from a name comes by, up to the first one that it has come by before. -/
structure IsRound (r : Registry) (name : String) (chain : List String) : Prop where
  first : chain.head? = some name
  steps : chain.IsChain r.AliasStep
  back : ∃ last, chain.getLast? = some last ∧ last ∈ chain.dropLast
  apart : chain.dropLast.Nodup

variable {r : Registry} {name next last x : String} {path chain : List String}
  {entry : SchemaEntry}

/-! ### Walks -/

/-- A walk is a chain of aliases. -/
lemma walk_iff : r.Walk name path last ↔ (path ++ [last]).head? = some name ∧
    (path ++ [last]).IsChain r.AliasStep ∧ path.Nodup := by
  constructor
  · intro h
    induction h with
    | start => exact ⟨rfl, .singleton _, .nil⟩
    | @step path last next _ hnew hstep ih =>
      obtain ⟨hfirst, hsteps, hapart⟩ := ih
      refine ⟨by rw [List.head?_append, hfirst, Option.some_or], ?_, ?_⟩
      · rw [List.isChain_append]
        exact ⟨hsteps, .singleton _, by simpa using hstep⟩
      · rw [← List.concat_eq_append]
        exact (List.nodup_concat path last).mpr ⟨hnew, hapart⟩
  · rintro ⟨hfirst, hsteps, hapart⟩
    induction path using List.reverseRecOn generalizing last with
    | nil =>
      obtain rfl : last = name := by simpa using hfirst
      exact .start
    | append_singleton path before ih =>
      rw [List.isChain_append] at hsteps
      rw [List.nodup_append] at hapart
      obtain ⟨hsteps, -, hlast⟩ := hsteps
      obtain ⟨hapart, -, hnew⟩ := hapart
      have hfirst' : (path ++ [before]).head? = some name := by
        cases path <;> simpa using hfirst
      have hfresh : before ∉ path := fun hmem => hnew before hmem before (by simp) rfl
      exact .step (ih hfirst' hsteps hapart) hfresh (hlast before (by simp) last (by simp))

lemma Walk.leadsTo (h : r.Walk name path last) : r.LeadsTo name last := by
  induction h with
  | start => exact .refl
  | step _ _ hstep ih => exact ih.tail hstep

/-- From each name of the path the walk leads on to the last one. -/
lemma Walk.transGen_of_mem (h : r.Walk name path last) (hx : x ∈ path) :
    TransGen r.AliasStep x last := by
  induction h with
  | start => cases hx
  | step _ _ hstep ih =>
    rcases List.mem_append.mp hx with hpath | hlast
    · exact (ih hpath).tail hstep
    · obtain rfl := List.mem_singleton.mp hlast
      exact .single hstep

/-- There are no more steps than names. -/
lemma Walk.length_le (h : r.Walk name path last) : path.length ≤ r.size := by
  have hsub : path ⊆ r.names := by
    intro x hx
    obtain ⟨next, ⟨entry, hlookup, -⟩, -⟩ := TransGen.head'_iff.mp (h.transGen_of_mem hx)
    exact List.mem_map.mpr ⟨_, Entries.get?_mem hlookup, rfl⟩
  have hle := ((walk_iff.mp h).2.2.subperm hsub).length_le
  rwa [names, Entries.names, List.length_map] at hle

/-! ### Resolution walks -/

/-- Resolution comes by the names of the walk. -/
lemma Walk.resolve_eq (h : r.Walk name path last) : r.resolve name = r.resolveFrom path last := by
  induction h with
  | start => rfl
  | step _ hnew hstep ih => rw [ih, resolveFrom_of_aliasStep hnew hstep]

/-- The outcome at the name where the walk is over: it has come by the name before, the name is not
registered, or it is registered for any other schema. -/
inductive Outcome (r : Registry) (path : List String) (last : String) :
    Except ResolveError SchemaEntry → Prop where
  | round (hback : last ∈ path) : Outcome r path last (.error (.cycle (path ++ [last])))
  | unknown (hnew : last ∉ path) (hlookup : r.lookup? last = none) :
      Outcome r path last (.error (.notRegistered last))
  | found {entry : SchemaEntry} (hnew : last ∉ path) (hlookup : r.lookup? last = some entry)
      (halias : entry.schema.alias? = none) : Outcome r path last (.ok entry)

lemma outcome_of_walk (h : r.Walk name path x) :
    ∃ path' last, r.Walk name path' last ∧ r.Outcome path' last (r.resolveFrom path x) := by
  fun_induction Registry.resolveFrom r path x with
  | case1 path x hback => exact ⟨path, x, h, .round hback⟩
  | case2 path x hnew hlookup => exact ⟨path, x, h, .unknown hnew hlookup⟩
  | case3 path x hnew found hlookup next halias hless ih =>
    exact ih (h.step hnew ⟨found, hlookup, by simpa using halias⟩)
  | case4 path x hnew found hlookup halias => exact ⟨path, x, h, .found hnew hlookup halias⟩

/-- Resolution walks as far as there is a new name to come to, and answers what it finds there. -/
lemma exists_walk (r : Registry) (name : String) :
    ∃ path last, r.Walk name path last ∧ r.Outcome path last (r.resolve name) :=
  outcome_of_walk .start

/-! ### Endless walks -/

/-- A walk goes on for ever if it goes on at each name that it leads to. -/
lemma isEndless_iff : r.IsEndless name ↔ ∀ x, r.LeadsTo name x → ∃ next, r.AliasStep x next := by
  constructor
  · rintro ⟨walk, rfl, hwalk⟩ x hx
    have hreached : ∃ n, walk n = x := by
      induction hx with
      | refl => exact ⟨0, rfl⟩
      | tail _ hstep ih =>
        obtain ⟨n, rfl⟩ := ih
        exact ⟨n + 1, aliasStep_rightUnique r (hwalk n) hstep⟩
    obtain ⟨n, rfl⟩ := hreached
    exact ⟨walk (n + 1), hwalk n⟩
  · intro h
    choose! next hnext using h
    have hleads : ∀ n, r.LeadsTo name (next^[n] name) := by
      intro n
      induction n with
      | zero => exact .refl
      | succ n ih =>
        rw [Function.iterate_succ_apply']
        exact ih.tail (hnext _ ih)
    refine ⟨fun n => next^[n] name, rfl, fun n => ?_⟩
    beta_reduce
    rw [Function.iterate_succ_apply']
    exact hnext _ (hleads n)

/-- A walk that is back at a name goes on for ever. -/
lemma Walk.isEndless (h : r.Walk name path last) (hback : last ∈ path) : r.IsEndless name := by
  have hround := h.transGen_of_mem hback
  refine isEndless_iff.mpr fun x hx => ?_
  have hround' : TransGen r.AliasStep x x ∨ TransGen r.AliasStep x last := by
    rcases ReflTransGen.total_of_right_unique (aliasStep_rightUnique r) hx h.leadsTo with hle | hge
    · exact .inr (hround.trans_right hle)
    · exact .inl (transGen_self_of_leadsTo hround hge)
  rcases hround' with hround' | hround' <;>
    obtain ⟨next, hstep, -⟩ := TransGen.head'_iff.mp hround' <;> exact ⟨next, hstep⟩

lemma not_aliasStep_of_lookup_none (h : r.lookup? x = none) : ¬ r.AliasStep x next := by
  rintro ⟨entry, hentry, -⟩
  rw [h] at hentry
  cases hentry

/-- A walk does not lead to two names at which it does not go on. -/
lemma eq_of_leadsTo (hlast : r.LeadsTo name last) (hx : r.LeadsTo name x)
    (hend : ∀ next, ¬ r.AliasStep last next) (hend' : ∀ next, ¬ r.AliasStep x next) : x = last := by
  rcases ReflTransGen.total_of_right_unique (aliasStep_rightUnique r) hlast hx with h | h
  · rcases h.cases_head with rfl | ⟨next, hstep, -⟩
    · rfl
    · exact absurd hstep (hend next)
  · rcases h.cases_head with rfl | ⟨next, hstep, -⟩
    · rfl
    · exact absurd hstep (hend' next)

/-! ### Three outcomes -/

lemma resolve_eq_notRegistered_iff :
    r.resolve name = .error (.notRegistered x) ↔ r.LeadsTo name x ∧ r.lookup? x = none := by
  obtain ⟨path, last, hwalk, houtcome⟩ := exists_walk r name
  generalize r.resolve name = result at houtcome
  cases houtcome with
  | round hback =>
    refine iff_of_false (by simp) fun ⟨hx, hlookup⟩ => ?_
    obtain ⟨next, hstep⟩ := isEndless_iff.mp (hwalk.isEndless hback) x hx
    exact not_aliasStep_of_lookup_none hlookup hstep
  | unknown _ hlookup =>
    constructor
    · rintro ⟨⟩
      exact ⟨hwalk.leadsTo, hlookup⟩
    · rintro ⟨hx, hlookup'⟩
      obtain rfl : x = last := eq_of_leadsTo hwalk.leadsTo hx
        (fun _ => not_aliasStep_of_lookup_none hlookup)
        fun _ => not_aliasStep_of_lookup_none hlookup'
      rfl
  | found _ hlookup halias =>
    refine iff_of_false (by simp) fun ⟨hx, hlookup'⟩ => ?_
    obtain rfl : x = last := eq_of_leadsTo hwalk.leadsTo hx
      (fun _ => not_aliasStep_of_lookup hlookup halias)
      fun _ => not_aliasStep_of_lookup_none hlookup'
    rw [hlookup] at hlookup'
    cases hlookup'

lemma isRound_iff : r.IsRound name chain ↔
    ∃ path last, chain = path ++ [last] ∧ r.Walk name path last ∧ last ∈ path := by
  constructor
  · rintro ⟨hfirst, hsteps, ⟨last, hlast, hback⟩, hapart⟩
    have hchain : chain = chain.dropLast ++ [last] :=
      (List.dropLast_append_getLast? last hlast).symm
    refine ⟨chain.dropLast, last, hchain, walk_iff.mpr ?_, hback⟩
    rw [← hchain]
    exact ⟨hfirst, hsteps, hapart⟩
  · rintro ⟨path, last, rfl, hwalk, hback⟩
    obtain ⟨hfirst, hsteps, hapart⟩ := walk_iff.mp hwalk
    have hpath : (path ++ [last]).dropLast = path := List.dropLast_concat
    exact ⟨hfirst, hsteps, ⟨last, List.getLast?_concat, hpath.symm ▸ hback⟩, hpath.symm ▸ hapart⟩

/-- A cycle is reported with the round that is walked. -/
lemma resolve_eq_cycle_iff : r.resolve name = .error (.cycle chain) ↔ r.IsRound name chain := by
  rw [isRound_iff]
  constructor
  · intro h
    obtain ⟨path, last, hwalk, houtcome⟩ := exists_walk r name
    rw [h] at houtcome
    cases houtcome with
    | round hback => exact ⟨path, last, rfl, hwalk, hback⟩
  · rintro ⟨path, last, rfl, hwalk, hback⟩
    rw [hwalk.resolve_eq, resolveFrom, dif_pos hback]

lemma exists_cycle_iff :
    (∃ chain, r.resolve name = .error (.cycle chain)) ↔ r.IsEndless name := by
  constructor
  · rintro ⟨chain, h⟩
    obtain ⟨path, last, -, hwalk, hback⟩ := isRound_iff.mp (resolve_eq_cycle_iff.mp h)
    exact hwalk.isEndless hback
  · intro h
    obtain ⟨path, last, hwalk, houtcome⟩ := exists_walk r name
    obtain ⟨next, hstep⟩ := isEndless_iff.mp h last hwalk.leadsTo
    generalize r.resolve name = result at houtcome
    cases houtcome with
    | round _ => exact ⟨_, rfl⟩
    | unknown _ hlookup => exact absurd hstep (not_aliasStep_of_lookup_none hlookup)
    | found _ hlookup halias => exact absurd hstep (not_aliasStep_of_lookup hlookup halias)

lemma IsRound.length_le (h : r.IsRound name chain) : chain.length ≤ r.size + 1 := by
  obtain ⟨path, last, rfl, hwalk, -⟩ := isRound_iff.mp h
  rw [List.length_append, List.length_singleton]
  exact Nat.succ_le_succ hwalk.length_le

/-- **Resolution ends in one of three ways, which tell how the walk goes on.**  It comes by each
registered name once at most.  It finds an entry just when the walk ends at it, misses a name just
when the walk leads to it and it is not registered, and reports a cycle just when the walk goes on
for ever, with the names up to the first one that comes again. -/
theorem resolve_outcomes (r : Registry) (name : String) :
    (∃ path last, r.Walk name path last ∧ path.length ≤ r.size ∧
      r.Outcome path last (r.resolve name)) ∧
    (∀ entry, r.resolve name = .ok entry ↔ r.EndsAt name entry) ∧
    (∀ x, r.resolve name = .error (.notRegistered x) ↔ r.LeadsTo name x ∧ r.lookup? x = none) ∧
    ((∃ chain, r.resolve name = .error (.cycle chain)) ↔ r.IsEndless name) ∧
    ∀ chain, r.resolve name = .error (.cycle chain) ↔
      r.IsRound name chain ∧ chain.length ≤ r.size + 1 := by
  refine ⟨?_, fun _ => resolve_eq_ok_iff, fun _ => resolve_eq_notRegistered_iff, exists_cycle_iff,
    fun chain => ?_⟩
  · obtain ⟨path, last, hwalk, houtcome⟩ := exists_walk r name
    exact ⟨path, last, hwalk, hwalk.length_le, houtcome⟩
  · rw [resolve_eq_cycle_iff]
    exact ⟨fun h => ⟨h, h.length_le⟩, And.left⟩

end Registry

end TreeSchema
