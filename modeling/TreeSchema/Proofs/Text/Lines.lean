/-
Lines of a text, as a grammar.

`Text.lines` goes through a text once and keeps the beginning of the present line in reverse.
`Text.IsLines` says which lines a text has without going through it: the text is its lines with
their breaks, where a break is a newline or a carriage return and a newline, and only the last line
may go without one.  The two agree (`Text.isLines_iff`).
-/
import Mathlib.Data.List.Basic
import Mathlib.Tactic.Lemma
import TreeSchema.Text.Lines

namespace TreeSchema

namespace Text

/-- The lines of a text.  A carriage return belongs to a break only if a newline follows it. -/
inductive IsLines : List Char → List String → Prop where
  | none : IsLines [] []
  /-- The last line has no break behind it, so it is not empty. -/
  | last {line : List Char} (hsome : line ≠ []) (hline : '\n' ∉ line) :
      IsLines line [String.ofList line]
  | newline {line rest : List Char} {lines : List String} (hline : '\n' ∉ line)
      (hreturn : line.getLast? ≠ some '\r') (h : IsLines rest lines) :
      IsLines (line ++ '\n' :: rest) (String.ofList line :: lines)
  | returned {line rest : List Char} {lines : List String} (hline : '\n' ∉ line)
      (h : IsLines rest lines) :
      IsLines (line ++ '\r' :: '\n' :: rest) (String.ofList line :: lines)

variable {reversed line text : List Char} {lines : List String}

lemma endedLine_of_ne (h : reversed.head? ≠ some '\r') :
    endedLine reversed = String.ofList reversed.reverse := by
  unfold endedLine
  split
  · exact absurd rfl h
  · rfl

/-- What the loop gives are the lines of the text with the beginning that is passed. -/
lemma isLines_linesFrom (text : List Char) :
    ∀ reversed : List Char, '\n' ∉ reversed →
      IsLines (reversed.reverse ++ text) (linesFrom reversed text) := by
  induction text with
  | nil =>
    intro reversed hreversed
    rw [List.append_nil, linesFrom]
    by_cases hnil : reversed = []
    · subst hnil
      exact .none
    · have hsome : reversed.reverse ≠ [] := by simpa using hnil
      rw [if_neg (by simpa using hnil)]
      exact .last hsome (by simpa using hreversed)
  | cons c rest ih =>
    intro reversed hreversed
    rw [linesFrom]
    by_cases hc : c = '\n'
    · subst hc
      rw [if_pos rfl]
      have hrest : IsLines rest (linesFrom [] rest) := by simpa using ih [] (by simp)
      by_cases hreturn : reversed.head? = some '\r'
      · -- the carriage return is the end of what is passed, and part of the break
        obtain ⟨before, rfl⟩ := List.head?_eq_some_iff.mp hreturn
        have hbefore : '\n' ∉ before.reverse := by simp_all
        have hlines := IsLines.returned hbefore hrest
        simpa [endedLine] using hlines
      · rw [endedLine_of_ne hreturn]
        exact .newline (by simpa using hreversed) (by simpa using hreturn) hrest
    · have hpassed : '\n' ∉ c :: reversed := by
        simpa [Ne.symm hc] using hreversed
      rw [if_neg hc]
      simpa using ih (c :: reversed) hpassed

/-- The loop passes over what is no newline. -/
lemma linesFrom_append (reversed text : List Char) (hline : '\n' ∉ line) :
    linesFrom reversed (line ++ text) = linesFrom (line.reverse ++ reversed) text := by
  induction line generalizing reversed with
  | nil => rfl
  | cons c line ih =>
    obtain ⟨hc, hrest⟩ : '\n' ≠ c ∧ '\n' ∉ line := by simpa using hline
    rw [List.cons_append, linesFrom, if_neg (Ne.symm hc), ih _ hrest]
    simp

lemma linesFrom_of_isLines (h : IsLines text lines) : linesFrom [] text = lines := by
  induction h with
  | none => rfl
  | @last line hsome hline =>
    have happend := linesFrom_append [] [] hline
    rw [List.append_nil, List.append_nil] at happend
    rw [happend, linesFrom, if_neg (by simpa using hsome), List.reverse_reverse]
  | @newline line rest lines hline hreturn _ ih =>
    have hended : endedLine line.reverse = String.ofList line := by
      rw [endedLine_of_ne (by simpa using hreturn), List.reverse_reverse]
    rw [linesFrom_append _ _ hline, List.append_nil, linesFrom, if_pos rfl, hended, ih]
  | @returned line rest lines hline _ ih =>
    have hpassed : '\n' ∉ line ++ ['\r'] := by simpa using hline
    have happend := linesFrom_append [] ('\n' :: rest) hpassed
    rw [List.append_assoc] at happend
    rw [show line ++ '\r' :: '\n' :: rest = line ++ (['\r'] ++ '\n' :: rest) from rfl, happend,
      List.append_nil, linesFrom, if_pos rfl, ih]
    simp [endedLine]

/-- **A text has the lines that it is read as**, and no others. -/
theorem isLines_iff {text : String} : IsLines text.toList lines ↔ Text.lines text = lines := by
  constructor
  · exact linesFrom_of_isLines
  · rintro rfl
    exact isLines_linesFrom text.toList [] List.not_mem_nil

end Text

end TreeSchema
