/-
The order of parts and how often they come.

Matching goes through the parts of a composition in their order and no further than it has to, and
on the way it opens names.  So the order of the parts decides which names are opened first, on which
way a circle is entered and where it is cut off.  None of this makes a difference for the answer:
in compositions anywhere, also in the schemas that names stand for, the parts may be permuted and
repeated (`accepts_rearranged`).

A rearrangement is a sequence of changes to a single composition (`Schema.Rearranged`), and
schemas that are rearranged ask for the same, one level after the other
(`Rearranged.relaxes`).
-/
import TreeSchema.Proofs.Matching.Relaxation
import TreeSchema.Proofs.Registry.Reach

namespace TreeSchema

namespace Schema

/-- The second schema comes of the first one by changing, at any depth and any number of times, the
order of the parts of a composition and how often each of them comes. -/
inductive Rearranged : Schema → Schema → Prop where
  | refl (s : Schema) : Rearranged s s
  | trans {s t u : Schema} (hst : Rearranged s t) (htu : Rearranged t u) : Rearranged s u
  /-- The same parts, each as often as one likes and in any order. -/
  | conjuncts {ss ts : List Schema} (hsame : ∀ part, part ∈ ss ↔ part ∈ ts) :
      Rearranged (.allOf ss) (.allOf ts)
  | disjuncts {ss ts : List Schema} (hsame : ∀ part, part ∈ ss ↔ part ∈ ts) :
      Rearranged (.anyOf ss) (.anyOf ts)
  /-- The change is made further inside. -/
  | conjunct {before after : List Schema} {s t : Schema} (h : Rearranged s t) :
      Rearranged (.allOf (before ++ s :: after)) (.allOf (before ++ t :: after))
  | disjunct {before after : List Schema} {s t : Schema} (h : Rearranged s t) :
      Rearranged (.anyOf (before ++ s :: after)) (.anyOf (before ++ t :: after))
  | property {before after : List (String × Schema)} {required : List String} {name : String}
      {s t : Schema} (h : Rearranged s t) :
      Rearranged (.object (before ++ (name, s) :: after) required)
        (.object (before ++ (name, t) :: after) required)
  | item {s t : Schema} {least most : Option Nat} (h : Rearranged s t) :
      Rearranged (.array (some s) least most) (.array (some t) least most)

namespace Rearranged

variable {s t : Schema}

lemma symm (h : Rearranged s t) : Rearranged t s := by
  induction h with
  | refl s => exact .refl s
  | trans _ _ ih ih' => exact .trans ih' ih
  | conjuncts hsame => exact .conjuncts fun part => (hsame part).symm
  | disjuncts hsame => exact .disjuncts fun part => (hsame part).symm
  | conjunct _ ih => exact .conjunct ih
  | disjunct _ ih => exact .disjunct ih
  | property _ ih => exact .property ih
  | item _ ih => exact .item ih

/-- Where one part is replaced by a rearranged one, all parts have a rearranged one in the place
of theirs. -/
lemma exists_of_mem_replaced {before after : List Schema} (h : Rearranged s t) {part : Schema}
    (hmem : part ∈ before ++ s :: after) :
    ∃ part' ∈ before ++ t :: after, Rearranged part part' := by
  simp only [List.mem_append, List.mem_cons] at hmem ⊢
  rcases hmem with hbefore | rfl | hafter
  · exact ⟨part, .inl hbefore, .refl part⟩
  · exact ⟨t, .inr (.inl rfl), h⟩
  · exact ⟨part, .inr (.inr hafter), .refl part⟩

/-- Of rearranged schemas the second asks for no more than the first one. -/
theorem relaxes (h : Rearranged s t) : Relaxes Rearranged s t := by
  induction h with
  | refl s => exact .refl .refl s
  | trans _ _ ih ih' => exact ih.trans (fun _ _ _ => .trans) ih'
  | conjuncts hsame => exact .allOf fun t ht => ⟨t, (hsame t).mpr ht, .refl t⟩
  | disjuncts hsame => exact .anyOf fun s hs => ⟨s, (hsame s).mp hs, .refl s⟩
  | conjunct h _ =>
    refine .allOf fun t ht => ?_
    obtain ⟨s, hs, hts⟩ := exists_of_mem_replaced h.symm ht
    exact ⟨s, hs, hts.symm⟩
  | disjunct h _ => exact .anyOf fun s hs => exists_of_mem_replaced h hs
  | @property before after _ name s t h _ =>
    refine .object fun other u hu => ?_
    simp only [List.mem_append, List.mem_cons] at hu ⊢
    rcases hu with hbefore | heq | hafter
    · exact ⟨u, .inl hbefore, .refl u⟩
    · cases heq
      exact ⟨s, .inr (.inl rfl), h⟩
    · exact ⟨u, .inr (.inr hafter), .refl u⟩
  | @item s t _ _ h _ =>
    refine .array ?_
    rintro _ ⟨⟩
    exact ⟨s, rfl, h⟩

end Rearranged

end Schema

namespace Registry

open Schema (Rearranged)

/-- Under each name two registries hold rearranged schemas, or none. -/
def Rearranges (r r' : Registry) : Prop :=
  ∀ name, Option.Rel Rearranged (r.schema? name) (r'.schema? name)

variable {r r' : Registry} {s t : Schema}

lemma Rearranges.symm (h : Rearranges r r') : Rearranges r' r := by
  intro name
  have hname := h name
  generalize r.schema? name = x, r'.schema? name = y at hname
  cases hname with
  | none => exact .none
  | some hst => exact .some hst.symm

lemma Rearranges.relatedBy (h : Rearranges r r') : RelatedBy Rearranged r r' := by
  intro name entry hlookup
  have hname := h name
  rw [schema?_of_lookup hlookup] at hname
  generalize hfound : r'.schema? name = found at hname
  cases hname with
  | some hst =>
    obtain ⟨entry', hlookup', rfl⟩ := lookup_of_schema? hfound
    exact ⟨entry', hlookup', hst⟩

/-- **The order of parts and how often they come do not matter**, neither in a schema nor in what
the names in it stand for. -/
theorem accepts_rearranged (hr : Rearranges r r') (hs : Rearranged s t) (depth : Nat) (v : Json) :
    r.accepts depth s v = r'.accepts depth t v := by
  have hrelaxation : Schema.Relaxation Rearranged := fun _ _ h => h.relaxes
  rw [Bool.eq_iff_iff, accepts_iff_conformsWithin, accepts_iff_conformsWithin]
  constructor
  · intro h
    exact h.relax hrelaxation hr.relatedBy hs
  · intro h
    exact h.relax hrelaxation hr.symm.relatedBy hs.symm

/-- What may have a branch, which is a tree, or null in a case that may be listed once more. -/
def branching (again : List Schema) : Schema :=
  .object [("branch", .anyOf (again ++ [.ref "Tree", .null]))] []

/-- Trees that are plants, and plants that are trees or have a kind. -/
def thicket : Registry where
  entries := [
    ("Tree", { schema := .allOf [.ref "Plant", branching []] }),
    ("Plant", { schema := .anyOf [.ref "Tree", .object [] ["kind"]] })]

/-- The same with the parts in another order, and two of them listed twice. -/
def hedgerow : Registry where
  entries := [
    ("Plant", { schema := .anyOf [.object [] ["kind"], .ref "Tree", .ref "Tree"] }),
    ("Tree", { schema := .allOf [branching [.null], .ref "Plant"] })]

/-- A tree with a branch. -/
def shrub : Json :=
  .object [("kind", .string "elder"), ("branch", .object [("kind", .string "twig")])]

lemma rearranged_branching : Rearranged (branching []) (branching [.null]) := by
  have hparts : Rearranged (.anyOf [.ref "Tree", .null]) (.anyOf [.null, .ref "Tree", .null]) :=
    .disjuncts fun part => by grind
  exact @Rearranged.property [] [] [] "branch" _ _ hparts

lemma thicket_rearranges : Rearranges thicket hedgerow := by
  have htree : Rearranged (.allOf [.ref "Plant", branching []])
      (.allOf [branching [.null], .ref "Plant"]) :=
    .trans (@Rearranged.conjunct [.ref "Plant"] [] _ _ rearranged_branching)
      (.conjuncts fun part => by grind)
  have hplant : Rearranged (.anyOf [.ref "Tree", .object [] ["kind"]])
      (.anyOf [.object [] ["kind"], .ref "Tree", .ref "Tree"]) :=
    .disjuncts fun part => by grind
  intro name
  by_cases hname : "Tree" = name
  · subst hname
    exact .some htree
  by_cases hname' : "Plant" = name
  · subst hname'
    exact .some hplant
  · simp [schema?, lookup?, Entries.get?, thicket, hedgerow, hname, hname']

/-- In the one order a tree is asked first whether it is a plant, and as a plant whether it is a
tree; in the other order it is asked this last. -/
theorem hedgerow_accepts_shrub :
    Rearranges thicket hedgerow ∧ Rearranged (branching []) (branching [.null]) ∧
      thicket.accepts 2 (branching []) shrub = hedgerow.accepts 2 (branching [.null]) shrub ∧
      hedgerow.accepts 2 (branching [.null]) shrub = true := by
  have hplant : ∀ depth v, v.form = .object → (v.field? "kind").isSome →
      thicket.ConformsWithin depth (.ref "Plant") v := by
    intro depth v hform hkind
    refine .ref rfl (.anyOf (List.mem_cons_of_mem _ List.mem_cons_self) ?_)
    exact .object hform (List.forall_mem_singleton.mpr hkind) nofun nofun
  have htwig : thicket.ConformsWithin 1 (.ref "Tree") (.object [("kind", .string "twig")]) := by
    refine .ref rfl (.allOf (List.forall_mem_cons.mpr ⟨hplant 1 _ rfl rfl, ?_⟩))
    refine List.forall_mem_singleton.mpr (.object rfl nofun ?_ ?_) <;>
    · rintro name sub child hmem hchild
      obtain ⟨rfl, rfl⟩ := Prod.mk.inj (List.mem_singleton.mp hmem)
      cases hchild
  have hshrub : thicket.accepts 2 (branching []) shrub = true := by
    refine accepts_iff_conformsWithin.mpr (.object rfl nofun (fun _ _ _ _ _ => by decide) ?_)
    rintro name sub child hmem hchild
    obtain ⟨rfl, rfl⟩ := Prod.mk.inj (List.mem_singleton.mp hmem)
    cases hchild
    exact .anyOf List.mem_cons_self htwig
  have heq := accepts_rearranged thicket_rearranges rearranged_branching 2 shrub
  exact ⟨thicket_rearranges, rearranged_branching, heq, heq ▸ hshrub⟩

end Registry

end TreeSchema
