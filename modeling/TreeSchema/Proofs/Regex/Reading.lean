/-
How far a text can be read as a regular expression.

The reading takes up one construct after the other, until nothing is left or a place is reached
where no construct begins.  `State.reach` says where that is.  A text spells an expression if it
is read to its end and no group is open then; whether the expression is too high or too large is
another question (`parse?_eq_some_iff`).

There is one place that a larger text can lead beyond: a closing parenthesis where no group is open.
Elsewhere the reading is stuck for good, whatever stands around the text.
-/
import TreeSchema.Proofs.Regex.Closing.Steps

namespace TreeSchema

namespace Regex

variable {st next : State} {text text' rest : List Char} {c : Char}

/-! ### The run of a reading -/

/-- Where the reading of a text ends: the state, and what is left. -/
def State.reach (st : State) (text : List Char) : State × List Char :=
  match h : gap st.flags.verbose text with
  | [] => (st, [])
  | c :: rest =>
    match step? st c rest with
    | none => (st, c :: rest)
    | some next =>
      have := Nat.lt_of_le_of_lt next.bounded (length_lt_of_gap h)
      next.value.reach next.rest
  termination_by text.length

lemma reach_end (hgap : gap st.flags.verbose text = []) : st.reach text = (st, []) := by
  rw [State.reach]
  split
  · rfl
  · next heq => cases hgap.symm.trans heq

lemma reach_stuck (hgap : gap st.flags.verbose text = c :: rest)
    (hstep : (step? st c rest).map Taken.seen = none) : st.reach text = (st, c :: rest) := by
  rw [State.reach]
  split
  · next heq => cases hgap.symm.trans heq
  · next heq =>
    obtain ⟨rfl, rfl⟩ := List.cons.inj (hgap.symm.trans heq)
    rw [Option.map_eq_none_iff.mp hstep]

lemma reach_step {left : List Char} (hgap : gap st.flags.verbose text = c :: rest)
    (hstep : (step? st c rest).map Taken.seen = some (next, left)) :
    st.reach text = next.reach left := by
  rw [State.reach]
  split
  · next heq => cases hgap.symm.trans heq
  · next heq =>
    obtain ⟨rfl, rfl⟩ := List.cons.inj (hgap.symm.trans heq)
    obtain ⟨t, ht, heq⟩ := Option.map_eq_some_iff.mp hstep
    obtain ⟨rfl, rfl⟩ := Prod.mk.inj heq
    rw [ht]

/-- A step leaves no more than there was. -/
lemma length_le_of_step {left : List Char}
    (hstep : (step? st c rest).map Taken.seen = some (next, left)) : left.length ≤ rest.length := by
  obtain ⟨t, -, heq⟩ := Option.map_eq_some_iff.mp hstep
  obtain ⟨-, rfl⟩ := Prod.mk.inj heq
  exact t.bounded

/-- A run by its rounds: it ends with the text, or it is stuck, or it goes on behind a construct. -/
theorem reach_induction {motive : State → List Char → Prop}
    (hend : ∀ st text, gap st.flags.verbose text = [] → motive st text)
    (hstuck : ∀ st text c rest, gap st.flags.verbose text = c :: rest →
      (step? st c rest).map Taken.seen = none → motive st text)
    (hstep : ∀ st text c rest next left, gap st.flags.verbose text = c :: rest →
      (step? st c rest).map Taken.seen = some (next, left) → motive next left → motive st text)
    (st : State) (text : List Char) : motive st text := by
  cases hgap : gap st.flags.verbose text with
  | nil => exact hend st text hgap
  | cons c rest =>
    cases hread : (step? st c rest).map Taken.seen with
    | none => exact hstuck st text c rest hgap hread
    | some t =>
      have hlt : t.2.length < text.length :=
        Nat.lt_of_le_of_lt (length_le_of_step hread) (length_lt_of_gap hgap)
      exact hstep st text c rest t.1 t.2 hgap hread (reach_induction hend hstuck hstep t.1 t.2)
  termination_by text.length

/-- Parsing is reading to the end. -/
lemma parseFrom?_eq (st : State) (text : List Char) :
    parseFrom? st text =
      if (st.reach text).2 = [] then (st.reach text).1.finish? else none := by
  induction st, text using reach_induction with
  | hend st text hgap =>
    rw [reach_end hgap, parseFrom?, if_pos rfl]
    split
    · rfl
    · next heq => cases hgap.symm.trans heq
  | hstuck st text c rest hgap hread =>
    rw [reach_stuck hgap hread, parseFrom?, if_neg (List.cons_ne_nil c rest)]
    split
    · next heq => cases hgap.symm.trans heq
    · next heq =>
      obtain ⟨rfl, rfl⟩ := List.cons.inj (hgap.symm.trans heq)
      simp only [Option.map_eq_none_iff.mp hread]
  | hstep st text c rest next left hgap hread ih =>
    rw [reach_step hgap hread, ← ih, parseFrom?]
    split
    · next heq => cases hgap.symm.trans heq
    · next heq =>
      obtain ⟨rfl, rfl⟩ := List.cons.inj (hgap.symm.trans heq)
      obtain ⟨t, ht, heq⟩ := Option.map_eq_some_iff.mp hread
      obtain ⟨rfl, rfl⟩ := Prod.mk.inj heq
      simp only [ht]

/-! ### What a text spells -/

/-- An expression that is neither too high nor too large. -/
def Piece.Admissible (p : Piece) : Prop := p.height ≤ maxHeight ∧ p.plan.fits = true

/-- The text is an expression, however high and large. -/
def Spells (text : List Char) (e : Piece) : Prop :=
  ∃ st : State, ({} : State).reach text = (st, []) ∧ st.outer = [] ∧ st.group.close = e

/-- The text closes a group that it has not opened. -/
def ClosesUnopened (text : List Char) : Prop :=
  ∃ (st : State) (rest : List Char), ({} : State).reach text = (st, ')' :: rest)

/-- The text is an expression and ends in a comment: a closing parenthesis behind it is not read,
nor what follows on the line. -/
def EndsInComment (text : List Char) : Prop :=
  ∃ e, Spells text e ∧ ∀ z, '\n' ∉ z → Spells (text ++ ')' :: z) e

lemma State.finish?_eq_some_iff {r : Regex} :
    st.finish? = some r ↔
      st.outer = [] ∧ st.group.close.Admissible ∧ st.group.close.regex = r := by
  simp only [finish?, Piece.Admissible, Option.ite_none_right_eq_some, Bool.and_eq_true,
    List.isEmpty_iff, decide_eq_true_eq, Option.some.injEq, and_assoc]

/-- **What is parsed is what is spelled and admissible.** -/
theorem parse?_eq_some_iff {r : Regex} :
    parse? text = some r ↔ ∃ e, Spells text e ∧ e.Admissible ∧ e.regex = r := by
  rw [parse?, parseFrom?_eq, Option.ite_none_right_eq_some, State.finish?_eq_some_iff]
  constructor
  · rintro ⟨hend, houter, hadmissible, rfl⟩
    exact ⟨_, ⟨_, Prod.ext rfl hend, houter, rfl⟩, hadmissible, rfl⟩
  · rintro ⟨e, ⟨st, hreach, houter, rfl⟩, hadmissible, rfl⟩
    rw [hreach]
    exact ⟨rfl, houter, hadmissible, rfl⟩

lemma spells_iff_of_reach {left : List Char} {e : Piece}
    (h : ({} : State).reach text = (next, left)) :
    Spells text e ↔ left = [] ∧ next.outer = [] ∧ next.group.close = e := by
  simp only [Spells, h]
  constructor
  · rintro ⟨_, ⟨⟩, houter, hclose⟩
    exact ⟨rfl, houter, hclose⟩
  · rintro ⟨rfl, houter, hclose⟩
    exact ⟨next, rfl, houter, hclose⟩

/-- A text spells one expression at most. -/
lemma Spells.unique {e e' : Piece} (h : Spells text e) (h' : Spells text e') : e = e' := by
  obtain ⟨st, hreach, -, rfl⟩ := h
  exact ((spells_iff_of_reach hreach).mp h').2.2

/-! ### A parenthesis behind the text -/

/-- Only what is left behind the gap in front matters. -/
lemma reach_congr (h : gap st.flags.verbose text = gap st.flags.verbose text') :
    st.reach text = st.reach text' := by
  cases hgap : gap st.flags.verbose text with
  | nil => rw [reach_end hgap, reach_end (h.symm.trans hgap)]
  | cons c rest =>
    cases hread : (step? st c rest).map Taken.seen with
    | none => rw [reach_stuck hgap hread, reach_stuck (h.symm.trans hgap) hread]
    | some t => rw [reach_step hgap hread, reach_step (h.symm.trans hgap) hread]

/-- How a run meets a closing parenthesis behind a text. -/
inductive RunMeets (st : State) (text : List Char) : Prop where
  /-- The text is read to the end, and the parenthesis is next. -/
  | stops {next : State} (halone : st.reach text = (next, []))
      (hclosing : ∀ z, '\n' ∉ z → st.reach (text ++ ')' :: z) = next.reach (')' :: z))
  /-- The text is read to the end, and the parenthesis is part of a comment. -/
  | passes {next : State} (halone : st.reach text = (next, []))
      (hclosing : ∀ z, '\n' ∉ z → st.reach (text ++ ')' :: z) = (next, []))
  /-- The run is stuck at a parenthesis of the text. -/
  | closes {next : State} {rest : List Char} (halone : st.reach text = (next, ')' :: rest))
  /-- The run is stuck in the text elsewhere, and with a parenthesis and a dollar sign behind the
  text it does not get stuck at a parenthesis. -/
  | refuses (halone : (st.reach text).2 ≠ [])
      (hclosing : ∀ rest, (st.reach (text ++ [')', '$'])).2 ≠ ')' :: rest)

lemma reach_nil (st : State) : st.reach [] = (st, []) := reach_end gap_nil

/-- Where a round gets lost, the run ends or is stuck, but not at a parenthesis. -/
lemma reach_of_lost (h : StepLost st next rest) (left : List Char) :
    (next.reach rest).2 ≠ ')' :: left := by
  rcases h with rfl | ⟨hflags, behind, rfl, hgap⟩
  · -- there is one character left, so the run ends with it or before it
    cases hread : (step? next '$' []).map Taken.seen with
    | none =>
      rw [reach_stuck gap_dollar hread]
      simp
    | some t =>
      have hnil : t.2 = [] := List.length_eq_zero_iff.mp (Nat.le_zero.mp (length_le_of_step hread))
      rw [reach_step gap_dollar hread, hnil, reach_nil]
      simp
  · -- the brace would have to be followed by a number
    have hbounds : (readCount? next.flags [')', '$']).map Taken.seen = none := by
      rw [seen_readCount?, List.dropWhile_cons_of_neg (by decide), seen_spanSpaced, gap_close]
      rfl
    have hread : (step? next '\x7b' behind).map Taken.seen = none := by
      rw [seen_step?_brace, seen_readBounds?, hflags, hgap, ← hflags, hbounds]
      rfl
    have hbrace : gap next.flags.verbose ('\x7b' :: behind) = '\x7b' :: behind := by
      cases next.flags.verbose <;> rfl
    rw [reach_stuck hbrace hread]
    simp

/-- A run meets the parenthesis as the run does that it leads to. -/
lemma RunMeets.of_reach {left : List Char} (h : RunMeets next left)
    (halone : st.reach text = next.reach left)
    (hclosing : ∀ z, '\n' ∉ z → st.reach (text ++ ')' :: z) = next.reach (left ++ ')' :: z)) :
    RunMeets st text := by
  cases h with
  | stops h hz => exact .stops (halone.trans h) fun z hline => (hclosing z hline).trans (hz z hline)
  | passes h hz =>
    exact .passes (halone.trans h) fun z hline => (hclosing z hline).trans (hz z hline)
  | closes h => exact .closes (halone.trans h)
  | refuses h hz =>
    refine .refuses (halone ▸ h) fun rest => ?_
    rw [hclosing ['$'] (by decide)]
    exact hz rest

/-- **A run meets a closing parenthesis** by leaving it, by passing over it in a comment, by getting
stuck at a parenthesis before, or by getting stuck at no parenthesis at all. -/
theorem run_meets (st : State) (text : List Char) : RunMeets st text := by
  induction st, text using reach_induction with
  | hend st text hgap =>
    cases gap_meets st.flags.verbose text with
    | begins halone => cases hgap.symm.trans halone
    | ends _ hclosing =>
      exact .stops (reach_end hgap) fun z _ => reach_congr ((hclosing z).trans gap_close.symm)
    | comments _ hclosing => exact .passes (reach_end hgap) fun z hz => reach_end (hclosing z hz)
  | hstuck st text c rest hgap hread =>
    have hgap' := gap_closing_of_cons hgap ['$']
    by_cases hc : c = ')'
    · subst hc
      exact .closes (reach_stuck hgap hread)
    · -- with the parenthesis there may be a construct here, but the reading gets lost behind it
      refine .refuses (by simp [reach_stuck hgap hread]) fun left => ?_
      cases meets_step? st c rest with
      | stops halone => cases hread.symm.trans halone
      | passes halone => cases hread.symm.trans halone
      | refuses _ hclosing =>
        cases hread' : (step? st c (rest ++ [')', '$'])).map Taken.seen with
        | none =>
          rw [reach_stuck hgap' hread']
          exact fun heq => hc (List.cons.inj heq).1
        | some t =>
          rw [reach_step hgap' hread']
          exact reach_of_lost (hclosing t.1 t.2 hread') left
  | hstep st text c rest next left hgap hread ih =>
    have hgap' := gap_closing_of_cons hgap
    cases meets_step? st c rest with
    | stops halone hclosing =>
      obtain ⟨rfl, rfl⟩ := Prod.mk.inj (Option.some.inj (hread.symm.trans halone))
      exact ih.of_reach (reach_step hgap hread) fun z hz => reach_step (hgap' z) (hclosing z hz)
    | passes halone hclosing =>
      obtain ⟨rfl, rfl⟩ := Prod.mk.inj (Option.some.inj (hread.symm.trans halone))
      refine .passes ((reach_step hgap hread).trans (reach_nil next)) fun z hz => ?_
      exact (reach_step (hgap' z) (hclosing z hz)).trans (reach_nil next)
    | refuses halone => cases hread.symm.trans halone

end Regex

end TreeSchema
