/-
Importing texts.

A text is imported as the catalog that it begins with.  Of a document this is all there is to say:
the import of its text is that of its value.  But the import never looks behind the first value of
a text, so `{} tail` is imported as well as `{}` (`importText_not_whole`), where a reader of whole
documents refuses it (`Json.ofText_eq_ok_iff`).  A text in which nothing follows the first value is
imported only if it is a document.
-/
import TreeSchema.Proofs.Json.Syntax.Values
import TreeSchema.Proofs.Registry.Import

namespace TreeSchema

namespace Registry

open Json (BeginsWith IsDocument)

variable {r : Registry} {text : String} {v : Json} {rest : List Char}

/-- A text is imported as the value that it begins with. -/
lemma importText_of_beginsWith (h : BeginsWith text v rest) :
    r.importText text = r.importCatalog v := by
  have hread : Json.ofTextBeginning text = .ok v := Json.ofTextBeginning_eq_ok_iff.mpr ⟨rest, h⟩
  rw [importText, Catalog.ofTextBeginning, hread, importCatalog]

/-- Only objects are imported. -/
lemma object_of_importCatalog (h : (r.importCatalog v).isOk) : ∃ fields, v = .object fields := by
  rw [importCatalog, isOk_map] at h
  have hform := (Catalog.isOk_ofJson_iff.mp h).1
  cases v with
  | object fields => exact ⟨fields, rfl⟩
  | _ => cases hform

/-- A text that is imported begins with an object. -/
lemma beginsWith_of_importText (h : (r.importText text).isOk) :
    ∃ fields rest, BeginsWith text (.object fields) rest := by
  cases hread : Json.ofTextBeginning text with
  | error fault =>
    rw [importText, Catalog.ofTextBeginning, hread] at h
    cases h
  | ok v =>
    obtain ⟨rest, hbegins⟩ := Json.ofTextBeginning_eq_ok_iff.mp hread
    rw [importText_of_beginsWith hbegins] at h
    obtain ⟨fields, rfl⟩ := object_of_importCatalog h
    exact ⟨fields, rest, hbegins⟩

/-- What fails changes nothing. -/
lemma afterwards_of_not_isOk {ε α : Type} {x : Except ε (Registry × α)} (h : ¬ x.isOk) :
    r.afterwards x = r := by
  cases x with
  | ok _ => exact absurd rfl h
  | error _ => rfl

/-- **A text is imported as the value that it begins with.**

* If a text begins with a value, then its import is the import of this value, whatever follows it.
* A text that is imported begins with an object.
* If the import fails, the registry is what it was.
* Of a text in which nothing but blanks can follow the first value: if it is imported, then it is a
  document, that is, one object with nothing but blanks around it, and the import is that of the
  object.  If it is no such document, then the import fails and the registry is what it was. -/
theorem importText_reads_beginning (r : Registry) (text : String) :
    (∀ v rest, BeginsWith text v rest → r.importText text = r.importCatalog v) ∧
    ((r.importText text).isOk → ∃ fields rest, BeginsWith text (.object fields) rest) ∧
    (¬ (r.importText text).isOk → r.afterwards (r.importText text) = r) ∧
    ((∀ v rest, BeginsWith text v rest → Json.Syntax.Blanks rest []) →
      ((r.importText text).isOk → ∃ fields, IsDocument text (.object fields) ∧
        r.importText text = r.importCatalog (.object fields)) ∧
      ((¬ ∃ fields, IsDocument text (.object fields)) →
        ¬ (r.importText text).isOk ∧ r.afterwards (r.importText text) = r)) := by
  refine ⟨fun v rest => importText_of_beginsWith, beginsWith_of_importText,
    afterwards_of_not_isOk, fun hend => ?_⟩
  have hdocument : (r.importText text).isOk → ∃ fields, IsDocument text (.object fields) ∧
      r.importText text = r.importCatalog (.object fields) := by
    intro h
    obtain ⟨fields, rest, hbegins⟩ := beginsWith_of_importText h
    exact ⟨fields, ⟨rest, hbegins, hend _ _ hbegins⟩, importText_of_beginsWith hbegins⟩
  refine ⟨hdocument, fun hnone => ?_⟩
  have hfails : ¬ (r.importText text).isOk := by
    intro h
    obtain ⟨fields, hfields, -⟩ := hdocument h
    exact hnone ⟨fields, hfields⟩
  exact ⟨hfails, afterwards_of_not_isOk hfails⟩

/-- A text that is one catalog. -/
def plantation : String := " \x7b\"Fir\": \x7b\x7d\x7d\n"

/-- The catalog that it is. -/
def saplings : Json := .object [("Fir", .object [])]

open Json.Syntax in
/-- The empty object stands at the front of texts that begin with its brackets. -/
lemma value_braces {levels : Nat} :
    Value (levels + 1) ('\x7b' :: '\x7d' :: rest) (.object []) rest :=
  value_succ_iff.mpr (.inr (.object (.close (.none _))))

open Json.Syntax in
lemma plantation_isDocument : IsDocument plantation saplings := by
  have htext : plantation.toList =
      [' ', '\x7b', '"', 'F', 'i', 'r', '"', ':', ' ', '\x7b', '\x7d', '\x7d', '\n'] := rfl
  have hkey : Chars ['F', 'i', 'r', '"', ':', ' ', '\x7b', '\x7d', '\x7d', '\n'] ['F', 'i', 'r']
      [':', ' ', '\x7b', '\x7d', '\x7d', '\n'] :=
    chars_of_plain ['F', 'i', 'r'] (by simp [Json.isControl])
  have hvalue : Value Json.maxLevels
      ['\x7b', '"', 'F', 'i', 'r', '"', ':', ' ', '\x7b', '\x7d', '\x7d', '\n'] saplings ['\n'] :=
    value_succ_iff.mpr <| .inr <| .object <|
      .next (.first (.none _)) hkey (.none _) (.more rfl (.none _)) value_braces (.close (.none _))
  refine ⟨['\n'], ⟨_, ?_, hvalue⟩, .more rfl (.none [])⟩
  rw [htext]
  exact .more rfl (.none _)

open Json.Syntax in
/-- An object that is cut off is no value. -/
lemma not_beginsWith_cut : ¬ BeginsWith "\x7b" v rest := by
  rintro ⟨at_, hblanks, hvalue⟩
  have htext : "\x7b".toList = ['\x7b'] := rfl
  rw [htext, blanks_iff_of_noBlank (noBlank_cons_iff.mpr rfl)] at hblanks
  subst hblanks
  rcases value_succ_iff.mp hvalue with hleaf | _ | hmembers
  · exact not_leaf_object hleaf
  · -- nothing follows the bracket, so the object neither ends nor has a member
    rcases hmembers with ⟨⟨⟩⟩ | ⟨⟨⟨⟩⟩, -⟩

/-- The plantation is imported, and a text that is cut off leaves the nursery as it was. -/
theorem nursery_imports_plantation :
    nursery.importText plantation = nursery.importCatalog saplings ∧
    (∃ fields rest, BeginsWith plantation (.object fields) rest) ∧
    nursery.afterwards (nursery.importText "\x7b") = nursery ∧
    (∃ fields, IsDocument plantation (.object fields) ∧
      nursery.importText plantation = nursery.importCatalog (.object fields)) ∧
    ¬ (nursery.importText "\x7b").isOk := by
  obtain ⟨rest, hbegins, hblanks⟩ := plantation_isDocument
  have hend : ∀ v rest, BeginsWith plantation v rest → Json.Syntax.Blanks rest [] := by
    intro v rest' h
    rw [← (hbegins.unique h).2]
    exact hblanks
  have hok : (nursery.importText plantation).isOk := by
    rw [importText_of_beginsWith hbegins]
    decide
  have hnone : ¬ ∃ fields, IsDocument "\x7b" (.object fields) := by
    rintro ⟨fields, rest, h, -⟩
    exact not_beginsWith_cut h
  obtain ⟨himport, hobject, -, hdocument⟩ := importText_reads_beginning nursery plantation
  obtain ⟨-, -, hkept, hcut⟩ := importText_reads_beginning nursery "\x7b"
  have hfails := (hcut fun v rest h => absurd h not_beginsWith_cut).2 hnone
  exact ⟨himport saplings rest hbegins, hobject hok, hkept hfails.1, (hdocument hend).1 hok,
    hfails.1⟩

/-- **Texts are imported that are no documents.** -/
theorem importText_not_whole : ¬ ∀ (r : Registry) (text : String), (r.importText text).isOk →
    ∃ fields, IsDocument text (.object fields) := by
  intro h
  have hbegins : BeginsWith "\x7b\x7d tail" (.object []) [' ', 't', 'a', 'i', 'l'] :=
    ⟨_, .none _, value_braces⟩
  have hok : (nursery.importText "\x7b\x7d tail").isOk := by
    rw [importText_of_beginsWith hbegins]
    rfl
  -- a text has one rest behind its first value, and this one goes on behind the blank
  obtain ⟨fields, rest, hdocument, hblanks⟩ := h nursery "\x7b\x7d tail" hok
  rw [← (hbegins.unique hdocument).2] at hblanks
  rcases hblanks with _ | ⟨-, _ | ⟨hx, -⟩⟩
  cases hx

end Registry

end TreeSchema
