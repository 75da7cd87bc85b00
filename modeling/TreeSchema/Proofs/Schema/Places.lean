/-
Places in a schema.

A place in a schema is a path: each of its numbers tells which of the children to go to next, and
the children are the schemas of fields, the one for elements or the parts of a composition, in their
order.  Paths are ordered as words are, which is the order in which one comes by the places when
one goes through the schema from its front to its end.

A list enumerates what stands at places if it holds each occurrence once, and in the order of the
places (`Enumerates`).  The names that a schema refers to enumerate its references
(`enumerates_references`).  So nothing is left out of the list, nothing is in it more often than it
is in the schema, and the order is no accident.
-/
import Mathlib.Data.List.Basic
import Mathlib.Data.List.Pairwise
import Mathlib.Tactic.Choose
import TreeSchema.Proofs.Schema.References

namespace TreeSchema

/-- The list holds, in the order of the places and once for each place, what stands there. -/
def Enumerates {α : Type} (stands : List Nat → α → Prop) (xs : List α) : Prop :=
  ∃ found : List (List Nat × α), found.map Prod.snd = xs ∧
    (found.Pairwise fun a b => a.1 < b.1) ∧ ∀ place a, (place, a) ∈ found ↔ stands place a

namespace Enumerates

variable {α β : Type} {stands other : List Nat → α → Prop} {xs ys : List α}

lemma congr (h : Enumerates stands xs) (hsame : ∀ place a, stands place a ↔ other place a) :
    Enumerates other xs := by
  obtain ⟨found, hmap, horder, hmem⟩ := h
  exact ⟨found, hmap, horder, fun place a => (hmem place a).trans (hsame place a)⟩

/-- What stands at the places leaves no choice. -/
lemma unique (h : Enumerates stands xs) (h' : Enumerates stands ys) : xs = ys := by
  obtain ⟨found, rfl, horder, hmem⟩ := h
  obtain ⟨found', rfl, horder', hmem'⟩ := h'
  have hnodup : ∀ {list : List (List Nat × α)},
      (list.Pairwise fun a b => a.1 < b.1) → list.Nodup := by
    intro list hlist
    refine hlist.imp fun {a b} hlt heq => ?_
    rw [heq] at hlt
    exact List.lt_irrefl _ hlt
  have hperm : found.Perm found' := by
    refine (List.perm_ext_iff_of_nodup (hnodup horder) (hnodup horder')).mpr fun entry => ?_
    exact (hmem entry.1 entry.2).trans (hmem' entry.1 entry.2).symm
  have hsame : found = found' :=
    hperm.eq_of_pairwise (fun a b _ _ hab hba => absurd hba (List.lt_asymm hab)) horder horder'
  rw [hsame]

lemma singleton (a : α) : Enumerates (fun place b => place = [] ∧ b = a) [a] :=
  ⟨[([], a)], rfl, List.pairwise_singleton .., by simp⟩

lemma filter (h : Enumerates stands xs) (p : α → Bool) :
    Enumerates (fun place a => stands place a ∧ p a = true) (xs.filter p) := by
  obtain ⟨found, rfl, horder, hmem⟩ := h
  refine ⟨found.filter fun entry => p entry.2, ?_, horder.filter _, fun place a => ?_⟩
  · rw [List.filter_map]
    rfl
  · rw [List.mem_filter, hmem]

lemma map (h : Enumerates stands xs) (f : α → β) :
    Enumerates (fun place b => ∃ a, stands place a ∧ f a = b) (xs.map f) := by
  obtain ⟨found, rfl, horder, hmem⟩ := h
  refine ⟨found.map fun entry => (entry.1, f entry.2), by simp, ?_, fun place b => ?_⟩
  · exact List.pairwise_map.mpr horder
  · simp [← hmem]

/-- Numbers that are counted up grow. -/
lemma pairwise_zipIdx (things : List β) (first : Nat) :
    (things.zipIdx first).Pairwise fun a b => a.2 < b.2 := by
  refine List.pairwise_map.mp ?_
  rw [List.zipIdx_map_snd]
  exact List.pairwise_lt_range'

/-- If lists enumerate what stands in some things, one after another they enumerate what stands in
all of them, where a place begins with the number of the thing. -/
lemma flatMap {things : List β} {stands : β → List Nat → α → Prop} {f : β → List α}
    (h : ∀ b ∈ things, Enumerates (stands b) (f b)) :
    Enumerates (fun place a => ∃ i path b, place = i :: path ∧ things[i]? = some b ∧
      stands b path a) (things.flatMap f) := by
  choose! found hmap horder hmem using h
  have hthing : ∀ b i, (b, i) ∈ things.zipIdx → b ∈ things := fun b i hb =>
    List.mem_of_getElem? (List.mem_zipIdx_iff_getElem?.mp hb)
  refine ⟨things.zipIdx.flatMap fun (b, i) => (found b).map fun (path, a) => (i :: path, a),
    ?_, ?_, fun place a => ?_⟩
  · -- without the places, each thing gives its list
    have hlists : ∀ entry ∈ things.zipIdx,
        (((found entry.1).map fun (path, a) => (entry.2 :: path, a)).map Prod.snd) =
          f entry.1 := by
      rintro ⟨b, i⟩ hb
      rw [List.map_map]
      exact hmap b (hthing b i hb)
    rw [List.map_flatMap, List.flatMap_congr hlists]
    conv_rhs => rw [← List.zipIdx_map_fst 0 things, List.flatMap_map]
  · -- places in one thing are in order there, and those in different things by the numbers
    refine List.pairwise_flatMap.mpr ⟨?_, (pairwise_zipIdx things 0).imp ?_⟩
    · rintro ⟨b, i⟩ hb
      refine List.pairwise_map.mpr ((horder b (hthing b i hb)).imp fun hlt => ?_)
      exact List.cons_lt_cons_iff.mpr (.inr ⟨rfl, hlt⟩)
    · rintro ⟨b, i⟩ ⟨c, j⟩ hlt x hx y hy
      obtain ⟨_, -, rfl⟩ := List.mem_map.mp hx
      obtain ⟨_, -, rfl⟩ := List.mem_map.mp hy
      exact List.cons_lt_cons_iff.mpr (.inl hlt)
  · simp only [List.mem_flatMap, List.mem_map, Prod.exists, List.mem_zipIdx_iff_getElem?,
      Prod.mk.injEq]
    constructor
    · rintro ⟨b, i, hb, path, _, ha, rfl, rfl⟩
      exact ⟨i, path, b, rfl, hb, (hmem b (List.mem_of_getElem? hb) path _).mp ha⟩
    · rintro ⟨i, path, b, rfl, hb, ha⟩
      exact ⟨b, i, hb, path, a, (hmem b (List.mem_of_getElem? hb) path a).mpr ha, rfl, rfl⟩

end Enumerates

namespace Schema

/-- The schema at a place. -/
def at? : List Nat → Schema → Option Schema
  | [], s => some s
  | i :: path, s => s.children[i]?.bind (at? path)

variable {s child : Schema} {name : String}

lemma at?_eq_some_ref_iff (h : s.alias? = none) {place : List Nat} :
    s.at? place = some (.ref name) ↔ ∃ i path child, place = i :: path ∧
      s.children[i]? = some child ∧ child.at? path = some (.ref name) := by
  cases place with
  | nil =>
    have hne : s ≠ .ref name := by
      rintro rfl
      cases h
    simp [at?, hne]
  | cons i path => simp [at?, Option.bind_eq_some_iff]

/-- **The names that a schema refers to are its references**, in the order of the places where they
stand and as often as they stand there. -/
theorem enumerates_references (s : Schema) :
    Enumerates (fun place name => s.at? place = some (.ref name)) s.references := by
  cases halias : s.alias? with
  | some name =>
    obtain rfl : s = .ref name := by
      cases s <;> simp_all [alias?]
    refine (Enumerates.singleton name).congr fun place other => ?_
    cases place <;> simp [at?, children, eq_comm]
  | none =>
    rw [references_eq_flatMap halias]
    refine Enumerates.congr (Enumerates.flatMap fun child hchild =>
      enumerates_references child) fun place name => ?_
    exact (at?_eq_some_ref_iff halias).symm
termination_by sizeOf s
decreasing_by exact sizeOf_lt_of_mem_children hchild

end Schema

end TreeSchema
