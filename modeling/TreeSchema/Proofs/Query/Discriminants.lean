/-
Discriminants.

Objects are told apart by a field with a text, the same text for all objects of a sort.  A shape for
one sort requires the field and has the pattern of the text for it, and that pattern admits the text
and nothing else, whatever characters the text is made of.  So shapes for different texts exclude
each other.

The pattern of a text is the text with a backslash before each character that has a meaning, between
anchors and in no group.  That both anchors apply to all of it, and that nothing in it is read as
anything but a character, has to be found by reading it as a regular expression
(`Regex.spells_word`).
-/
import TreeSchema.Proofs.Query.Inheritance
import TreeSchema.Proofs.Regex.Words
import TreeSchema.Proofs.Schema.Constraint

namespace TreeSchema

/-- The schema is for objects that have a field with exactly a given text. -/
def Schema.Discriminates (field literal : String) (s : Schema) : Prop :=
  ∃ properties required c, s.HasConjunct (.object properties required) ∧ field ∈ required ∧
    (field, .leaf c) ∈ properties ∧ c.pattern = some (Pattern.exact literal)

namespace Pattern

open Registry (empty accepts_iff_conformsWithin)

variable {literal other text field : String} {r r' : Registry} {depth depth' : Nat} {s t : Schema}
  {v : Json}

/-! ### The source of the pattern -/

/-- The source of the pattern of a text spells an expression that is found in the text and in no
other, and that is not too high. -/
lemma spells_source_exact (literal : String) :
    ∃ e, Regex.Spells (exact literal).source.toList e ∧ e.height ≤ Regex.maxHeight ∧
      ∀ text, e.regex.foundIn text = true ↔ text = literal := by
  refine ⟨Regex.wordPiece literal.toList, ?_, ?_, fun text => ?_⟩
  · rw [toList_source_exact]
    exact Regex.spells_word literal.toList
  · exact Nat.le_trans Regex.height_wordPiece_le (by decide)
  · rw [Regex.foundIn_iff Regex.ordered_wordPiece, Regex.foundIn_wordPiece_iff, String.toList_inj]

/-! ### Shapes -/

/-- What conforms to a shape with a discriminant has it. -/
lemma field_of_discriminates (hs : s.Discriminates field literal)
    (h : r.ConformsWithin depth s v) : v.field? field = some (.string literal) := by
  obtain ⟨properties, required, c, hconjunct, hrequired, hmem, hpattern⟩ := hs
  cases h.of_hasConjunct hconjunct with
  | object _ hpresent _ hfields =>
    obtain ⟨child, hchild⟩ := Option.isSome_iff_exists.mp (hpresent field hrequired)
    cases hfields field _ child hmem hchild with
    | leaf hadmits =>
      obtain ⟨-, hpattern', -⟩ := Constraint.admits_iff.mp hadmits
      obtain ⟨text, rfl, htext⟩ := hpattern' _ hpattern
      rw [hchild, admits_exact_iff.mp htext]

/-- **The pattern of a text admits the text and nothing else**, be there any characters with a
meaning in it, line ends or nothing at all.

* Its source is a regular expression, however large, that is found in the text and in no other.
* So it is the text that the pattern admits, and no other.
* Shapes that discriminate by different texts in a field are not matched by the same value, whatever
  else they ask for, against whichever registries and to whichever depths. -/
theorem exact_admits_only (literal : String) :
    (∃ e, Regex.Spells (exact literal).source.toList e ∧ e.height ≤ Regex.maxHeight ∧
      ∀ text, e.regex.foundIn text = true ↔ text = literal) ∧
    (∀ text, (exact literal).admits text = true ↔ text = literal) ∧
    ∀ other, literal ≠ other → ∀ (field : String) (s t : Schema),
      s.Discriminates field literal → t.Discriminates field other →
      ∀ (r r' : Registry) depth depth' v,
        ¬ (r.accepts depth s v = true ∧ r'.accepts depth' t v = true) := by
  refine ⟨spells_source_exact literal, fun text => admits_exact_iff, ?_⟩
  rintro other hne field s t hs ht r r' depth depth' v ⟨hv, hv'⟩
  have hfield := field_of_discriminates hs (accepts_iff_conformsWithin.mp hv)
  have hfield' := field_of_discriminates ht (accepts_iff_conformsWithin.mp hv')
  exact hne (Json.string.inj (Option.some.inj (hfield.symm.trans hfield')))

/-- The shape of objects with a name. -/
def named (name : String) : Schema :=
  .object [("type", .leaf { pattern := some (exact name) })] ["type"]

/-- The name in parentheses is no expression for the bare name. -/
theorem oak_is_not_parenthesized :
    (exact "(oak.*)").source = "^\\(oak\\.\\*\\)$" ∧ (exact "(oak.*)").admits "(oak.*)" = true ∧
    (exact "(oak.*)").admits "oak\n" = false ∧ "(oak.*)" ≠ "oak" ∧
    (named "(oak.*)").Discriminates "type" "(oak.*)" ∧ (named "oak").Discriminates "type" "oak" ∧
    ∀ v, ¬ (empty.accepts 512 (named "(oak.*)") v = true ∧
      empty.accepts 512 (named "oak") v = true) := by
  have hnamed : ∀ name, (named name).Discriminates "type" name := fun name =>
    ⟨_, _, _, .self, List.mem_cons_self, List.mem_cons_self, rfl⟩
  obtain ⟨-, honly, hexclude⟩ := exact_admits_only "(oak.*)"
  refine ⟨by decide, (honly _).mpr rfl, ?_, by decide, hnamed _, hnamed _, fun v => ?_⟩
  · exact Bool.eq_false_iff.mpr fun h => absurd ((honly _).mp h) (by decide)
  · exact hexclude "oak" (by decide) "type" _ _ (hnamed _) (hnamed _) empty empty 512 512 v

end Pattern

end TreeSchema
