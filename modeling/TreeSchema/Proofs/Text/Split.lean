/-
Pieces that are joined by a separator are split again.

None of the pieces has the separator in it, and it is put in front of each but the first
(`Text.split_pieces`).
-/
import Mathlib.Tactic.Lemma
import TreeSchema.Text.Split

namespace TreeSchema

namespace Text

variable {separator : Char} {piece : List Char} {pieces : List (List Char)}

lemma split_of_notMem (h : separator ∉ piece) : split separator piece = [piece] := by
  induction piece with
  | nil => rfl
  | cons c piece ih =>
    obtain ⟨hc, hpiece⟩ : separator ≠ c ∧ separator ∉ piece := by simpa using h
    rw [split, if_neg (Ne.symm hc), ih hpiece]

lemma split_append (h : separator ∉ piece) (rest : List Char) :
    split separator (piece ++ separator :: rest) = piece :: split separator rest := by
  induction piece with
  | nil => simp [split]
  | cons c piece ih =>
    obtain ⟨hc, hpiece⟩ : separator ≠ c ∧ separator ∉ piece := by simpa using h
    rw [List.cons_append, split, if_neg (Ne.symm hc), ih hpiece]

/-- **Splitting undoes joining.** -/
theorem split_pieces (h : separator ∉ piece) (hpieces : ∀ next ∈ pieces, separator ∉ next) :
    split separator (piece ++ pieces.flatMap (separator :: ·)) = piece :: pieces := by
  induction pieces generalizing piece with
  | nil => simp [split_of_notMem h]
  | cons next pieces ih =>
    obtain ⟨hnext, hpieces⟩ := List.forall_mem_cons.mp hpieces
    rw [List.flatMap_cons, List.cons_append, split_append h, ih hnext hpieces]

end Text

end TreeSchema
