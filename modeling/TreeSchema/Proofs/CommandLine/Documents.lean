/-
The documents of a command.

A file is one document, or each of its lines that is not blank is one.  What stands where is said by
`CommandLine.StandsIn`: a whole file at no place in particular, and a line at its number, which
counts blank lines as well.  The documents that a command looks at enumerate this
(`CommandLine.enumerates_documents`), so they are in the order of the files and of the lines in
them, none is left out, and none comes twice.

A document is a label and a text here, or the reason why there is no text.  Its value is what it
is read as, or the part of that which a pointer selects (`CommandLine.Selects`).
-/
import TreeSchema.CommandLine.Run
import TreeSchema.Proofs.Json.Syntax.Values
import TreeSchema.Proofs.Schema.Places
import TreeSchema.Proofs.Text.Lines

namespace TreeSchema

namespace CommandLine

/-- The documents in a file, each at its place there, under the label that it is reported under. -/
inductive StandsIn (byLine : Bool) : Source → List Nat → Source → Prop where
  | unreadable {path : String} {why : FileError} :
      StandsIn byLine (path, .error why) [] (path, .error why)
  | whole {path text : String} (hwhole : byLine = false) :
      StandsIn byLine (path, .ok text) [] (path, .ok text)
  | line {path text line : String} {lines : List String} {n : Nat} (hbyLine : byLine = true)
      (hlines : Text.IsLines text.toList lines) (hline : lines[n]? = some line)
      (hblank : ∃ c ∈ line.toList, Text.isSpace c = false) :
      StandsIn byLine (path, .ok text) [n + 1] (path ++ ":" ++ toString (n + 1), .ok line)

/-- The documents in some files, each at the number of its file and its place in there. -/
def StandsAmong (byLine : Bool) (sources : List Source) (place : List Nat) (document : Source) :
    Prop :=
  ∃ i path source, place = i :: path ∧ sources[i]? = some source ∧
    StandsIn byLine source path document

/-- The value that is looked at in a document. -/
inductive Selects (pointer : Option String) : Source → Json → Prop where
  | whole {label text : String} {v : Json} (hpointer : pointer = none)
      (hdocument : Json.IsDocument text v) : Selects pointer (label, .ok text) v
  | part {label text way : String} {v part : Json} (hpointer : pointer = some way)
      (hdocument : Json.IsDocument text v) (hpart : v.at? way = some part) :
      Selects pointer (label, .ok text) part

/-- A document has one value. -/
lemma Selects.unique {pointer : Option String} {document : Source} {v v' : Json}
    (h : Selects pointer document v) (h' : Selects pointer document v') : v = v' := by
  have hsame : ∀ {text : String} {whole whole' : Json}, Json.IsDocument text whole →
      Json.IsDocument text whole' → whole = whole' := by
    intro text whole whole' hwhole hwhole'
    have hread := Json.ofText_eq_ok_iff.mpr hwhole
    exact Except.ok.inj (hread.symm.trans (Json.ofText_eq_ok_iff.mpr hwhole'))
  rcases h with ⟨rfl, hdocument⟩ | ⟨rfl, hdocument, hpart⟩
  · rcases h' with ⟨-, hdocument'⟩ | ⟨⟨⟩, -, -⟩
    exact hsame hdocument hdocument'
  · rcases h' with ⟨⟨⟩, -⟩ | ⟨hway, hdocument', hpart'⟩
    obtain rfl := Option.some.inj hway
    obtain rfl := hsame hdocument hdocument'
    exact Option.some.inj (hpart.symm.trans hpart')

/-! ### The documents in a file -/

/-- The documents in a file. -/
def documentsOf (byLine : Bool) : Source → List Source
  | (path, .error why) => [(path, .error why)]
  | (path, .ok text) =>
    if byLine then
      (numberedLines text).map fun (number, line) => (path ++ ":" ++ toString number, .ok line)
    else [(path, .ok text)]

variable {byLine : Bool} {sources : List Source} {pointer : Option String} {text line : String}
  {document : Source} {v : Json}

lemma isBlank_eq_false_iff :
    Text.isBlank line = false ↔ ∃ c ∈ line.toList, Text.isSpace c = false := by
  simp [Text.isBlank]

/-- Each line that is not blank has its number, counted from one. -/
lemma mem_numberedLines_iff {number : Nat} : (number, line) ∈ numberedLines text ↔
    ∃ n, number = n + 1 ∧ (Text.lines text)[n]? = some line ∧ Text.isBlank line = false := by
  have hzip : ∀ entry : String × Nat, entry ∈ (Text.lines text).zipIdx 1 ↔
      ∃ n, entry.2 = n + 1 ∧ (Text.lines text)[n]? = some entry.1 := by
    intro entry
    rw [List.mem_zipIdx_iff_le_and_getElem?_sub]
    constructor
    · rintro ⟨hle, hline⟩
      exact ⟨entry.2 - 1, by omega, hline⟩
    · rintro ⟨n, hn, hline⟩
      rw [hn]
      exact ⟨by omega, hline⟩
  simp only [numberedLines, List.mem_filterMap, hzip]
  constructor
  · rintro ⟨⟨other, k⟩, ⟨n, rfl, hline⟩, hentry⟩
    by_cases hblank : Text.isBlank other = true
    · simp [hblank] at hentry
    · obtain ⟨rfl, rfl⟩ : n + 1 = number ∧ other = line := by simpa [hblank] using hentry
      exact ⟨n, rfl, hline, by simpa using hblank⟩
  · rintro ⟨n, rfl, hline, hblank⟩
    exact ⟨(line, n + 1), ⟨n, rfl, hline⟩, by simp [hblank]⟩

/-- The numbers of lines grow. -/
lemma pairwise_numberedLines (text : String) :
    (numberedLines text).Pairwise fun a b => a.1 < b.1 := by
  refine (Enumerates.pairwise_zipIdx _ 1).filterMap _ fun a b hlt x hx y hy => ?_
  have hnumber : ∀ (entry : String × Nat) (found : Nat × String),
      (if Text.isBlank entry.1 then none else some (entry.2, entry.1)) = some found →
        found.1 = entry.2 := by
    intro entry found hfound
    split at hfound
    · cases hfound
    · cases hfound
      rfl
  rw [hnumber a x hx, hnumber b y hy]
  exact hlt

lemma enumerates_documentsOf (byLine : Bool) (source : Source) :
    Enumerates (StandsIn byLine source) (documentsOf byLine source) := by
  obtain ⟨path, why | text⟩ := source
  · refine (Enumerates.singleton _).congr fun place document => ?_
    constructor
    · rintro ⟨rfl, rfl⟩
      exact .unreadable
    · rintro ⟨⟩
      exact ⟨rfl, rfl⟩
  · cases byLine with
    | false =>
      refine (Enumerates.singleton _).congr fun place document => ?_
      constructor
      · rintro ⟨rfl, rfl⟩
        exact .whole rfl
      · rintro (_ | _ | ⟨⟨⟩, -, -, -⟩)
        exact ⟨rfl, rfl⟩
    | true =>
      refine ⟨(numberedLines text).map fun (number, line) =>
        ([number], path ++ ":" ++ toString number, .ok line), ?_, ?_, fun place document => ?_⟩
      · rw [List.map_map]
        rfl
      · refine List.pairwise_map.mpr ((pairwise_numberedLines text).imp fun hlt => ?_)
        exact List.cons_lt_cons_iff.mpr (.inl hlt)
      · simp only [List.mem_map, Prod.exists, mem_numberedLines_iff, Prod.mk.injEq]
        constructor
        · rintro ⟨_, line, ⟨n, rfl, hline, hblank⟩, rfl, rfl⟩
          exact .line rfl (Text.isLines_iff.mpr rfl) hline (isBlank_eq_false_iff.mp hblank)
        · rintro (_ | ⟨⟨⟩⟩ | @⟨_, _, line, lines, n, -, hlines, hline, hblank⟩)
          obtain rfl := Text.isLines_iff.mp hlines
          exact ⟨n + 1, line, ⟨n, rfl, hline, isBlank_eq_false_iff.mpr hblank⟩, rfl, rfl⟩

/-- **The documents of a command are what stands in its files**, in the order of the files and of
the lines. -/
theorem enumerates_documents (byLine : Bool) (sources : List Source) :
    Enumerates (StandsAmong byLine sources) (sources.flatMap (documentsOf byLine)) :=
  Enumerates.flatMap fun source _ => enumerates_documentsOf byLine source

/-! ### The value of a document -/

/-- Reads a document. -/
def valueOf (pointer : Option String) : Source → Except Failure Document
  | (label, .error why) => .error (.sourceFile label why)
  | (label, .ok text) => readDocument pointer label text

lemma documentsIn_eq (options : InputOptions) (source : Source) :
    options.documentsIn source =
      (documentsOf options.byLine source).map (valueOf options.pointer) := by
  obtain ⟨path, why | text⟩ := source
  · rfl
  · cases hbyLine : options.byLine <;>
      simp [InputOptions.documentsIn, documentsOf, valueOf, hbyLine]

/-- **A document has the value that is selected in it.** -/
theorem valueOf_eq_ok_iff {found : Document} : valueOf pointer document = .ok found ↔
    found.1 = document.1 ∧ Selects pointer document found.2 := by
  obtain ⟨label, why | text⟩ := document
  · refine iff_of_false (by simp [valueOf]) ?_
    rintro ⟨-, ⟨⟩⟩
  · obtain ⟨label', v⟩ := found
    simp only [valueOf, readDocument]
    constructor
    · intro h
      cases hread : Json.ofText text with
      | error fault => simp [hread] at h
      | ok whole =>
        have hdocument := Json.ofText_eq_ok_iff.mp hread
        cases pointer with
        | none =>
          obtain ⟨rfl, rfl⟩ : label = label' ∧ whole = v := by simpa [hread] using h
          exact ⟨rfl, .whole rfl hdocument⟩
        | some way =>
          cases hpart : whole.at? way with
          | none => simp [hread, hpart] at h
          | some part =>
            obtain ⟨rfl, rfl⟩ : label = label' ∧ part = v := by simpa [hread, hpart] using h
            exact ⟨rfl, .part rfl hdocument hpart⟩
    · rintro ⟨rfl, ⟨rfl, hdocument⟩ | ⟨rfl, hdocument, hpart⟩⟩
      · rw [Json.ofText_eq_ok_iff.mpr hdocument]
      · rw [Json.ofText_eq_ok_iff.mpr hdocument]
        dsimp only
        rw [hpart]

end CommandLine

end TreeSchema
