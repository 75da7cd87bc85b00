/-
The open world.

A schema says nothing about fields that it does not name.  So a value may be enriched by such
fields, in any of its objects and with anything in them, and still match: no schema looks into the
new fields, and all that is required is still there.  Enumerations are an exception, since they
compare a value as a whole, but only where a literal contains an object.

The way back needs one thing more.  A field that is required may be named nowhere else, and
then a value can match because it has been enriched.  Where no name of a new field is required
either, a value matches if and only if the enriched one does (`accepts_enriched`).  Both ways are
simulations, and the conditions are on all schemas that occur in the one matched or in the registry.
-/
import Mathlib.Data.Set.Insert
import TreeSchema.Proofs.Json.Enrichment
import TreeSchema.Proofs.Matching.Simulation
import TreeSchema.Proofs.Schema.Constraint

namespace TreeSchema

open Json (Enriched)

namespace Schema

/-- The schema itself has nothing to say on fields of these names: it has no schema for one of them,
and no literal with an object in it. -/
def Overlooks (names : Set String) : Schema → Prop
  | .object properties _ => ∀ property ∈ properties, property.1 ∉ names
  | .leaf c => ∀ literals, c.choices = some literals → ∀ literal ∈ literals, literal.ObjectFree
  | _ => True

/-- The schema itself requires no field of these names. -/
def RequiresNone (names : Set String) : Schema → Prop
  | .object _ required => ∀ name ∈ required, name ∉ names
  | _ => True

end Schema

variable {names : Set String} {v w : Json}

/-- A constraint whose literals contain no object is met by a value and an enriched one, or by
neither of them. -/
lemma Constraint.admits_eq_of_enriched {c : Constraint} (hc : Schema.Overlooks names (.leaf c))
    (h : Enriched names v w) : c.admits v = c.admits w := by
  have hkind : ∀ kind : Kind, kind.admits v = kind.admits w :=
    Kind.admits_eq_of_form_eq h.form_eq h.isIntegral_eq
  have hchoices : ∀ literals, c.choices = some literals →
      literals.any v.equalsLiteral = literals.any w.equalsLiteral := by
    intro literals hliterals
    rw [Bool.eq_iff_iff, List.any_eq_true, List.any_eq_true]
    refine exists_congr fun literal => and_congr_right fun hmem => ?_
    rw [h.equalsLiteral_eq (hc literals hliterals literal hmem)]
  -- texts and numbers have nothing in them that could be enriched
  unfold admits
  rw [h.string?_eq, h.double?_eq]
  cases hliterals : c.choices with
  | none => simp only [hkind]
  | some literals => simp only [hkind, hchoices literals hliterals]

namespace Registry

/-! ### Both ways are simulations -/

/-- An enriched value looks like the one before. -/
lemma simulation_enriched (names : Set String) :
    Simulation (Schema.Overlooks names) (Enriched names) where
  form := fun h => h.form_eq
  leaf := fun hc h hadmits => Constraint.admits_eq_of_enriched hc h ▸ hadmits
  required := fun _ h name _ hsome => by
    obtain ⟨child, hchild⟩ := Option.isSome_iff_exists.mp hsome
    obtain ⟨other, hother, -⟩ := h.field hchild
    exact Option.isSome_of_eq_some hother
  field := fun hproperties h name sub child hmem hchild =>
    h.field_of_not_mem (hproperties (name, sub) hmem) hchild
  length := fun h => h.elements.length_eq
  element := fun h hchild => exists_left_of_forall₂ h.elements hchild

/-- The value before looks like the enriched one, if no name of a new field is required. -/
lemma simulation_before_enriched (names : Set String) :
    Simulation (fun s => s.Overlooks names ∧ s.RequiresNone names)
      (fun w v => Enriched names v w) where
  form := fun h => h.form_eq.symm
  leaf := fun hc h hadmits => (Constraint.admits_eq_of_enriched hc.1 h).symm ▸ hadmits
  required := fun hself h name hname hsome => by
    obtain ⟨child, hchild⟩ := Option.isSome_iff_exists.mp hsome
    obtain ⟨other, hother, -⟩ := h.field_of_not_mem (hself.2 name hname) hchild
    exact Option.isSome_of_eq_some hother
  field := fun _ h _ _ _ _ hchild => h.field hchild
  length := fun h => h.elements.length_eq.symm
  element := fun h hchild => exists_right_of_forall₂ h.elements hchild

variable {r : Registry} {s : Schema}

/-- **Fields that no schema names do not matter.**  Let there be names that no schema for a field
goes by, neither in a schema nor in the registry, and no object in any literal there.

* What matches the schema still matches when it is enriched by fields of these names.
* If none of the names is required either, then a value matches if and only if the enriched value
  does. -/
theorem accepts_enriched (hoverlooks : r.Throughout (Schema.Overlooks names) s)
    (h : Enriched names v w) (depth : Nat) :
    (r.accepts depth s v = true → r.accepts depth s w = true) ∧
      (r.Throughout (Schema.RequiresNone names) s →
        r.accepts depth s v = r.accepts depth s w) := by
  have hforward : r.accepts depth s v = true → r.accepts depth s w = true := by
    rw [accepts_iff_conformsWithin, accepts_iff_conformsWithin]
    exact fun hv => hv.simulate (simulation_enriched names) hoverlooks h
  refine ⟨hforward, fun hrequires => ?_⟩
  have hback : r.accepts depth s w = true → r.accepts depth s v = true := by
    rw [accepts_iff_conformsWithin, accepts_iff_conformsWithin]
    exact fun hw => hw.simulate (simulation_before_enriched names) (hoverlooks.and hrequires) h
  exact Bool.eq_iff_iff.mpr ⟨hforward, hback⟩

/-- The kind of an apple tree or of a pear tree. -/
def treeKind : Constraint :=
  { choices := some [.string "apple", .array [.string "pear", .number (.integer 2)]] }

/-- A tree of one of the kinds, with trees as its children. -/
def tree : Schema :=
  .object [("kind", .leaf treeKind), ("children", .array (some (.ref "Tree")) none none)] ["kind"]

/-- Trees. -/
def orchard : Registry where
  entries := [("Tree", { schema := tree })]

/-- A pear tree. -/
def pearTree : Json := .object [("kind", .array [.string "pear", .number (.integer 2)])]

/-- An apple tree with a pear tree as its child. -/
def appleTree : Json := .object [("kind", .string "apple"), ("children", .array [pearTree])]

/-- The trees with notes and, in front of everything else, the place of the smaller one. -/
def notedTree : Json :=
  .object [("kind", .string "apple"), ("note", .object [("kind", .null)]),
    ("children", .array [.object [("place", .array [.object []]),
      ("kind", .array [.string "pear", .number (.integer 2)]), ("note", .string "sour")]])]

lemma orchard_throughout {P : Schema → Prop} (h : s.Everywhere P) (htree : tree.Everywhere P) :
    orchard.Throughout P s := by
  refine ⟨h, fun name found hfound => ?_⟩
  obtain ⟨entry, hlookup, rfl⟩ := lookup_of_schema? hfound
  obtain ⟨-, rfl⟩ := Prod.mk.inj (List.mem_singleton.mp (Entries.get?_mem hlookup))
  exact htree

lemma orchard_overlooks :
    orchard.Throughout (Schema.Overlooks {"note", "place"}) (.ref "Tree") := by
  have hkind : Schema.Overlooks {"note", "place"} (.leaf treeKind) := by
    intro literals hliterals
    cases hliterals
    refine List.forall_mem_cons.mpr ⟨.string _, List.forall_mem_singleton.mpr (.array ?_)⟩
    exact List.forall_mem_cons.mpr ⟨.string _, List.forall_mem_singleton.mpr (.number _)⟩
  refine orchard_throughout ?_ ?_
  · simp [Schema.Overlooks]
  · simpa [tree, Schema.Overlooks] using hkind

lemma orchard_requiresNone :
    orchard.Throughout (Schema.RequiresNone {"note", "place"}) (.ref "Tree") := by
  refine orchard_throughout ?_ ?_
  · simp [Schema.RequiresNone]
  · simp [tree, Schema.RequiresNone]

lemma enriched_notedTree : Enriched {"note", "place"} appleTree notedTree := by
  have hchild : Enriched {"note", "place"} pearTree (.object [("place", .array [.object []]),
      ("kind", .array [.string "pear", .number (.integer 2)]), ("note", .string "sour")]) :=
    .object_add _ (by simp) rfl (.object_cons (.refl _) (.object_add _ (by simp) rfl (.refl _)))
  refine .object_cons (.refl _) (.object_add _ (by simp) rfl (.object_cons ?_ (.refl _)))
  exact .array_cons hchild (.refl _)

lemma orchard_accepts_appleTree : orchard.accepts 3 (.ref "Tree") appleTree = true := by
  have hpear : orchard.ConformsWithin 1 (.ref "Tree") pearTree := by
    refine .ref rfl (.object rfl (by decide) (fun _ _ _ _ _ => Nat.one_pos) ?_)
    intro name sub child hmem hfield
    rcases List.mem_pair.mp hmem with ⟨⟨⟩⟩ | ⟨⟨⟩⟩ <;> cases hfield
    exact .leaf rfl
  rw [accepts_iff_conformsWithin]
  refine .ref rfl (.object rfl (by decide) (fun _ _ _ _ _ => by decide) ?_)
  intro name sub child hmem hfield
  rcases List.mem_pair.mp hmem with ⟨⟨⟩⟩ | ⟨⟨⟩⟩ <;> cases hfield
  · exact .leaf rfl
  · refine .array rfl rfl (fun _ _ _ _ => by decide) ?_
    intro item hitem child hchild
    cases hitem
    exact List.mem_singleton.mp hchild ▸ hpear

/-- Whatever is noted on a tree and on its child, it is a tree. -/
theorem orchard_accepts_notedTree :
    orchard.Throughout (Schema.Overlooks {"note", "place"}) (.ref "Tree") ∧
      orchard.Throughout (Schema.RequiresNone {"note", "place"}) (.ref "Tree") ∧
      Enriched {"note", "place"} appleTree notedTree ∧
      orchard.accepts 3 (.ref "Tree") appleTree = true ∧
      orchard.accepts 3 (.ref "Tree") notedTree = true ∧
      orchard.accepts 1 (.ref "Tree") appleTree = orchard.accepts 1 (.ref "Tree") notedTree := by
  obtain ⟨hforward, -⟩ := accepts_enriched orchard_overlooks enriched_notedTree 3
  obtain ⟨-, hboth⟩ := accepts_enriched orchard_overlooks enriched_notedTree 1
  exact ⟨orchard_overlooks, orchard_requiresNone, enriched_notedTree, orchard_accepts_appleTree,
    hforward orchard_accepts_appleTree, hboth orchard_requiresNone⟩

end Registry

end TreeSchema
