/-
Patterns as full matches of their sources.

A pattern is read from its source between anchors, with a group around it.  If the source closes
only what it opens and does not end in a comment, that is the same as reading the source by itself
and asking for a match from the beginning of a text to its end (`ofSource?_fullMatch`).

Both conditions are needed, since the anchors and the group are put around the text of the source
and not around what it means (`wrapping_not_transparent`).
-/
import TreeSchema.Proofs.Regex.Enclosed
import TreeSchema.Proofs.Regex.Ordering

namespace TreeSchema

namespace Regex

variable {text : List Char}

/-! ### Full matches -/

lemma ordered_enclosed {e : Piece} (h : e.regex.Ordered) : e.enclosed.regex.Ordered := by
  rw [regex_enclosed]
  exact ⟨trivial, h, trivial⟩

/-- Between anchors an expression is found in the texts that it matches as a whole. -/
lemma foundIn_enclosed_iff {e : Piece} :
    e.enclosed.regex.FoundIn text ↔ e.regex.matchesAll text := by
  simp only [regex_enclosed, FoundIn, matches_concat_iff, matches_textStart_iff,
    matches_textEnd_iff, matchesAll]
  constructor
  · rintro ⟨_, _, _, ⟨rfl, rfl⟩, _, hmatch, rfl, rfl⟩
    exact hmatch
  · intro hmatch
    exact ⟨0, text.length, 0, ⟨rfl, rfl⟩, text.length, hmatch, rfl, rfl⟩

/-- A text that is an expression closes no group that it has not opened. -/
lemma Spells.not_closesUnopened {e : Piece} (h : Spells text e) : ¬ ClosesUnopened text := by
  rintro ⟨next, left, hreach⟩
  cases ((spells_iff_of_reach hreach).mp h).1

lemma EndsInComment.spells (h : EndsInComment text) : ∃ e, Spells text e := by
  obtain ⟨e, hspells, -⟩ := h
  exact ⟨e, hspells⟩

end Regex

namespace Pattern

open Regex

variable {source : String} {p : Pattern} {e : Piece}

lemma ofSource?_eq_some_iff :
    ofSource? source = some p ↔
      parse? (anchored source.toList) = some p.regex ∧ source = p.source := by
  obtain ⟨written, regex⟩ := p
  simp [ofSource?, and_comm]

/-- **A pattern is a full match of its source**, if the source closes only groups that it has opened
and does not end in a comment: there is a pattern just when the source spells an expression that
is admissible in a group between anchors, and the pattern admits the texts that this expression
matches from beginning to end. -/
theorem ofSource?_fullMatch (hcloses : ¬ ClosesUnopened source.toList)
    (hcomment : ¬ EndsInComment source.toList) :
    ((∃ p, ofSource? source = some p) ↔ ∃ e, Spells source.toList e ∧ e.enclosed.Admissible) ∧
      ∀ p e, ofSource? source = some p → Spells source.toList e →
        ∀ text, p.admits text = true ↔ e.regex.matchesAll text.toList := by
  constructor
  · simp only [ofSource?_eq_some_iff, parse?_anchored_eq_some_iff hcloses]
    constructor
    · rintro ⟨p, ⟨e, hspells, -, hadmissible, -⟩, -⟩
      exact ⟨e, hspells, hadmissible⟩
    · rintro ⟨e, hspells, hadmissible⟩
      exact ⟨⟨source, e.enclosed.regex⟩, ⟨e, hspells, hcomment, hadmissible, rfl⟩, rfl⟩
  · intro p e hp hspells text
    obtain ⟨hparse, -⟩ := ofSource?_eq_some_iff.mp hp
    obtain ⟨e', hspells', -, -, hregex⟩ := (parse?_anchored_eq_some_iff hcloses).mp hparse
    obtain rfl := hspells.unique hspells'
    rw [admits, ← hregex, foundIn_iff (ordered_enclosed hspells.ordered), foundIn_enclosed_iff]

/-! ### Two words as alternatives -/

/-- Two words as alternatives. -/
def eitherWord (a b : List Char) : Group where
  branches := [closeRow (a.map fun c => .piece (letter c)).reverse]
  items := (b.map fun c => .piece (letter c)).reverse

/-- The source is read like any text that begins with it. -/
lemma reach_ifOrDo (z : List Char) :
    ({} : State).reach ("if|do".toList ++ z) =
      ({ group := eitherWord ['i', 'f'] ['d', 'o'] } : State).reach z := by
  change ({} : State).reach ('i' :: 'f' :: '|' :: 'd' :: 'o' :: z) = _
  iterate 4 rw [reach_step rfl rfl]
  exact reach_step rfl rfl

/-- Neither anchor belongs to one of the alternatives only. -/
theorem admits_ifOrDo :
    ∃ p, ofSource? "if|do" = some p ∧ ∀ text, p.admits text = true ↔ text = "if" ∨ text = "do" := by
  have hreach : ({} : State).reach "if|do".toList =
      ({ group := eitherWord ['i', 'f'] ['d', 'o'] }, []) := (reach_ifOrDo []).trans (reach_nil _)
  have hspells : Spells "if|do".toList (eitherWord ['i', 'f'] ['d', 'o']).close :=
    ⟨_, hreach, rfl, rfl⟩
  have hadmissible : (eitherWord ['i', 'f'] ['d', 'o']).close.enclosed.Admissible :=
    ⟨by decide, by decide +kernel⟩
  obtain ⟨hread, hmatch⟩ := ofSource?_fullMatch hspells.not_closesUnopened
    (not_endsInComment hreach (reach_ifOrDo [')']))
  obtain ⟨p, hp⟩ := hread.mpr ⟨_, hspells, hadmissible⟩
  refine ⟨p, hp, fun text => (hmatch p _ hp hspells text).trans ?_⟩
  have hregex : (eitherWord ['i', 'f'] ['d', 'o']).close.regex =
      .either (ofText "if".toList) (ofText "do".toList) := rfl
  rw [hregex, matchesAll, matches_either_iff]
  exact or_congr (matchesAll_ofText_iff.trans String.toList_inj)
    (matchesAll_ofText_iff.trans String.toList_inj)

/-! ### Sources that reach beyond their group -/

/-- The parenthesis that is to end the group is part of the comment. -/
theorem ofSource?_of_endsInComment (h : EndsInComment source.toList) : ofSource? source = none := by
  obtain ⟨e, hspells⟩ := h.spells
  rw [ofSource?, Option.map_eq_none_iff, Option.eq_none_iff_forall_ne_some]
  intro r hparse
  obtain ⟨_, -, hnot, -⟩ := (parse?_anchored_eq_some_iff hspells.not_closesUnopened).mp hparse
  exact hnot h

/-- What comes of a source that ends the group and begins another one: each has one anchor. -/
def parted : Group where
  branches := [closeRow [.piece ((rowOf [letter 'a']).inGroup none),
    .piece (.ofAssertion .textStart)]]
  items := [.piece (.ofAssertion .textEnd), .piece ((rowOf [letter 'b']).inGroup none)]

lemma ofSource?_parted : ofSource? "a)|(?:b" = some ⟨"a)|(?:b", parted.close.regex⟩ := by
  have hreach : (({} : State).within anchoredGroup).reach ("a)|(?:b".toList ++ [')', '$']) =
      ({ group := parted }, []) := by
    change (({} : State).within anchoredGroup).reach
      ['a', ')', '|', '(', '?', ':', 'b', ')', '$'] = _
    iterate 7 rw [reach_step rfl rfl]
    exact reach_nil _
  have hadmissible : parted.close.Admissible := ⟨by decide, by decide +kernel⟩
  refine ofSource?_eq_some_iff.mpr ⟨?_, rfl⟩
  rw [parse?_anchored_eq, parseFrom?_eq, hreach, if_pos rfl, State.finish?_eq_some_iff]
  exact ⟨rfl, hadmissible, rfl⟩

lemma parse?_parted : parse? "a)|(?:b".toList = none := by
  have hreach : ({} : State).reach "a)|(?:b".toList =
      (({} : State).push (letter 'a'), ")|(?:b".toList) := by
    change ({} : State).reach ['a', ')', '|', '(', '?', ':', 'b'] = _
    rw [reach_step rfl rfl]
    exact reach_close rfl
  rw [parse?, parseFrom?_eq, hreach]
  exact if_neg (List.cons_ne_nil _ _)

/-- What comes of a letter in a verbose expression. -/
def verboseLetter : State where
  flags := { verbose := true }
  group := (({} : Group).add .directive).add (.piece (letter 'a'))

lemma reach_comment {z : List Char} (hz : '\n' ∉ z) :
    ({} : State).reach ("(?x)a#".toList ++ z) = (verboseLetter, []) := by
  change ({} : State).reach ('(' :: '?' :: 'x' :: ')' :: 'a' :: '#' :: z) = _
  have hgap : gap true ('#' :: z) = [] := skipGap_comment hz
  rw [reach_step rfl rfl, reach_step rfl rfl]
  exact reach_end hgap

lemma spells_verboseLetter {z : List Char} (hz : '\n' ∉ z) :
    Spells ("(?x)a#".toList ++ z) verboseLetter.group.close :=
  ⟨verboseLetter, reach_comment hz, rfl, rfl⟩

lemma endsInComment_verbose : EndsInComment "(?x)a#".toList := by
  refine ⟨verboseLetter.group.close, spells_verboseLetter List.not_mem_nil, fun z hz => ?_⟩
  refine spells_verboseLetter fun hmem => ?_
  exact hz ((List.mem_cons.mp hmem).resolve_left (by decide))

/-- **Anchors around the text of a source are not anchors around what it means.**  A source that is
no expression, as it closes a group that it has not opened, can close the group that is put around
it: then there is a pattern, and each of its alternatives has one of the anchors only.  And
there is no pattern for a source that is an expression but ends in a comment. -/
theorem wrapping_not_transparent :
    (parse? "a)|(?:b".toList = none ∧
      ∃ p, ofSource? "a)|(?:b" = some p ∧ p.admits "ax" = true) ∧
    (parse? "(?x)a#".toList = some (ofChar 'a') ∧ ofSource? "(?x)a#" = none) := by
  have hadmits : (⟨"a)|(?:b", parted.close.regex⟩ : Pattern).admits "ax" = true := by
    have hordered : parted.close.regex.Ordered := ⟨⟨trivial, trivial⟩, trivial, trivial⟩
    have hstart : Matches "ax".toList (.assert .textStart) 0 0 :=
      matches_textStart_iff.mpr ⟨rfl, rfl⟩
    have hletter : Matches "ax".toList (ofChar 'a') 0 1 := matches_ofChar_iff.mpr ⟨rfl, rfl⟩
    rw [admits, foundIn_iff hordered]
    exact ⟨0, 1, .left (.concat hstart hletter)⟩
  have hadmissible : verboseLetter.group.close.Admissible := ⟨by decide, by decide +kernel⟩
  have hread : parse? "(?x)a#".toList = some (ofChar 'a') :=
    parse?_eq_some_iff.mpr ⟨_, spells_verboseLetter List.not_mem_nil, hadmissible, rfl⟩
  exact ⟨⟨parse?_parted, _, ofSource?_parted, hadmits⟩, hread,
    ofSource?_of_endsInComment endsInComment_verbose⟩

end Pattern

end TreeSchema
