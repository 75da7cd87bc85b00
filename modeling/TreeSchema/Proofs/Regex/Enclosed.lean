/-
Texts between the parentheses of a group.

A group that is open around all others is not looked at before all others are left.  So the reading
of a text goes on within such a group as it does without (`reach_within`), up to a closing
parenthesis that leaves it.  Together with what is known about a parenthesis behind a text, this
tells what comes of a text between anchors (`parse?_anchored_eq_some_iff`): the expression that the
text spells, in a group.
-/
import TreeSchema.Proofs.Regex.Moves
import TreeSchema.Proofs.Regex.Reading
import TreeSchema.Proofs.Regex.Words

namespace TreeSchema

namespace Regex

variable {st next : State} {around : Open} {text rest left : List Char} {c : Char}

/-! ### Another group around all -/

/-- The state with another group open around all others. -/
def State.within (st : State) (around : Open) : State := { st with outer := st.outer ++ [around] }

/-- A move is made within a group as it is without. -/
lemma Move.make?_within (move : Move) :
    move.make? (st.within around) = (move.make? st).map (·.within around) := by
  cases move with
  | enterNamed name =>
    change (if st.names.contains name then none else _) = Option.map _ (if _ then none else _)
    cases st.names.contains name <;> rfl
  | repeated bounds turned =>
    change (st.group.modifyLast? _).map _ = ((st.group.modifyLast? _).map _).map _
    rw [Option.map_map]
    rfl
  | _ => rfl

lemma leave?_eq_none (houter : st.outer = []) : st.leave? = none := by
  rw [State.leave?, houter]

lemma leave?_within (houter : st.outer ≠ []) :
    (st.within around).leave? = st.leave?.map (·.within around) := by
  obtain ⟨_ | ⟨first, outer⟩, group, flags, names, numbered⟩ := st
  · exact absurd rfl houter
  · rfl

/-- A round goes on within a group as it does without, unless it leaves the group. -/
lemma step?_within (h : c ≠ ')' ∨ st.outer ≠ []) :
    (step? (st.within around) c rest).map Taken.seen =
      ((step? st c rest).map Taken.seen).map fun t => (t.1.within around, t.2) := by
  by_cases hc : c = ')'
  · subst hc
    rw [seen_step?_close, seen_step?_close, leave?_within (h.resolve_left (· rfl)), Option.map_map,
      Option.map_map]
    rfl
  · obtain ⟨move?, hmove, -⟩ := moves_step? st.flags hc rest
    refine (hmove (st.within around) rfl).trans ?_
    refine Eq.trans ?_ (congrArg _ (hmove st rfl)).symm
    cases move? with
    | none => rfl
    | some t =>
      simp only [Option.bind_some, Taken.giving?, Move.make?_within, Option.map_map]
      rfl

lemma outer_ne_nil_of_step (hread : (step? st ')' rest).map Taken.seen = some (next, left)) :
    st.outer ≠ [] := by
  intro houter
  rw [seen_step?_close, leave?_eq_none houter] at hread
  cases hread

/-! ### Runs within a group -/

lemma skipGap_skipGap (comment : Bool) (text : List Char) :
    skipGap false (skipGap comment text) = skipGap comment text := by
  induction text generalizing comment with
  | nil => rfl
  | cons c text ih =>
    cases comment with
    | true => exact ih (c != '\n')
    | false =>
      simp only [skipGap]
      split
      · exact ih false
      · split
        · exact ih true
        · simp_all [skipGap]

/-- There is no gap behind a gap. -/
lemma gap_gap (verbose : Bool) (text : List Char) :
    gap verbose (gap verbose text) = gap verbose text := by
  cases verbose with
  | false => rfl
  | true => exact skipGap_skipGap false text

/-- Where a run is stuck there is no construct. -/
lemma stuck_of_reach (h : st.reach text = (next, c :: rest)) :
    gap next.flags.verbose (c :: rest) = c :: rest ∧
      (step? next c rest).map Taken.seen = none := by
  induction st, text using reach_induction with
  | hend st text hgap =>
    rw [reach_end hgap] at h
    cases h
  | hstuck st text d left hgap hread =>
    have hidle : gap st.flags.verbose (d :: left) = d :: left := by rw [← hgap, gap_gap]
    rw [reach_stuck hgap hread] at h
    cases h
    exact ⟨hidle, hread⟩
  | hstep st text d left next' left' hgap hread ih =>
    rw [reach_step hgap hread] at h
    exact ih h

/-- **A run goes on within a group as it does without**, up to where it is stuck without. -/
theorem reach_within (st : State) (around : Open) (text : List Char) :
    (st.within around).reach text =
      ((st.reach text).1.within around).reach (st.reach text).2 := by
  induction st, text using reach_induction with
  | hend st text hgap =>
    rw [reach_end hgap, reach_nil]
    exact reach_end hgap
  | hstuck st text c rest hgap hread =>
    have hidle : gap st.flags.verbose text = gap st.flags.verbose (c :: rest) := by
      rw [← hgap, gap_gap]
    rw [reach_stuck hgap hread]
    exact reach_congr hidle
  | hstep st text c rest next left hgap hread ih =>
    have hinner : c ≠ ')' ∨ st.outer ≠ [] := by
      by_cases hc : c = ')'
      · subst hc
        exact .inr (outer_ne_nil_of_step hread)
      · exact .inl hc
    have hwithin : (step? (st.within around) c rest).map Taken.seen =
        some (next.within around, left) := by
      rw [step?_within hinner, hread]
      rfl
    rw [reach_step hgap hread, ← ih]
    exact reach_step hgap hwithin

/-- A group is not left by a text that is stuck at no parenthesis. -/
lemma parseFrom?_within_eq_none (h : ∀ rest, (st.reach text).2 ≠ ')' :: rest) :
    parseFrom? (st.within around) text = none := by
  rw [parseFrom?_eq, reach_within]
  cases hreach : st.reach text with | mk next left =>
  cases left with
  | nil =>
    -- the group around is still open in the end
    rw [reach_nil, if_pos rfl]
    simp [State.finish?, State.within]
  | cons c rest =>
    obtain ⟨hgap, hread⟩ := stuck_of_reach hreach
    have hc : c ≠ ')' := by
      rintro rfl
      exact h rest (by rw [hreach])
    have hwithin : (step? (next.within around) c rest).map Taken.seen = none := by
      rw [step?_within (.inl hc), hread]
      rfl
    have hstuck : (next.within around).reach (c :: rest) = (next.within around, c :: rest) :=
      reach_stuck hgap hwithin
    rw [hstuck, if_neg (List.cons_ne_nil c rest)]

/-! ### A text in a group between anchors -/

/-- An expression in a group between anchors. -/
def Piece.enclosed (e : Piece) : Piece :=
  rowOf [.ofAssertion .textStart, e.inGroup none, .ofAssertion .textEnd]

lemma regex_enclosed (e : Piece) :
    e.enclosed.regex = .concat (.assert .textStart) (.concat e.regex (.assert .textEnd)) :=
  regex_rowOf

/-- What is open around a text between anchors. -/
def anchoredGroup : Open := ⟨(({} : State).push (.ofAssertion .textStart)).group, {}, none⟩

lemma parse?_anchored_eq :
    parse? (Pattern.anchored text) =
      parseFrom? (({} : State).within anchoredGroup) (text ++ [')', '$']) := by
  have hsource : Pattern.anchored text = '^' :: '(' :: '?' :: ':' :: (text ++ [')', '$']) := rfl
  rw [hsource, parse?, parseFrom?_eq, reach_caret rfl, reach_open rfl, ← parseFrom?_eq]
  rfl

/-- The parenthesis behind an expression ends its group, and the second anchor is behind that. -/
lemma parseFrom?_close_anchored {r : Regex} (houter : next.outer = []) :
    parseFrom? (next.within anchoredGroup) [')', '$'] = some r ↔
      next.group.close.enclosed.Admissible ∧ next.group.close.enclosed.regex = r := by
  obtain ⟨outer, group, flags, names, numbered⟩ := next
  cases houter
  have hclose : (step? (State.within ⟨[], group, flags, names, numbered⟩ anchoredGroup) ')'
      ['$']).map Taken.seen =
        some (⟨[], anchoredGroup.group.add (.piece (group.close.inGroup none)), {}, names,
          numbered⟩, ['$']) := seen_step?_close
  rw [parseFrom?_eq, reach_step gap_close hclose, reach_dollar rfl, reach_nil, if_pos rfl,
    State.finish?_eq_some_iff]
  exact ⟨And.right, fun h => ⟨rfl, h⟩⟩

/-- In an open group, the parenthesis is not what a run is stuck at. -/
lemma reach_close_ne (houter : st.outer ≠ []) (left : List Char) :
    (st.reach [')', '$']).2 ≠ ')' :: left := by
  obtain ⟨next, hleave⟩ : ∃ next, st.leave? = some next := by
    rw [State.leave?]
    split
    · next hnil => exact absurd hnil houter
    · exact ⟨_, rfl⟩
  have hlost : StepLost st next ['$'] := .inl rfl
  rw [reach_step gap_close (seen_step?_close.trans (congrArg _ hleave))]
  exact reach_of_lost hlost left

/-- Where no group is open, a run is stuck at the parenthesis. -/
lemma reach_close (houter : st.outer = []) : st.reach (')' :: rest) = (st, ')' :: rest) := by
  refine reach_stuck gap_close ?_
  rw [seen_step?_close, leave?_eq_none houter]
  rfl

/-- A text behind which a parenthesis is left does not end in a comment. -/
lemma not_endsInComment (halone : ({} : State).reach text = (next, []))
    (hclosing : ({} : State).reach (text ++ [')']) = next.reach [')']) : ¬ EndsInComment text := by
  rintro ⟨e, hspells, hcomment⟩
  obtain ⟨-, houter, -⟩ := (spells_iff_of_reach halone).mp hspells
  rw [reach_close houter] at hclosing
  obtain ⟨hnil, -⟩ := (spells_iff_of_reach hclosing).mp (hcomment [] List.not_mem_nil)
  cases hnil

/-- Behind a text that is read to its end and behind which the parenthesis is left, the parenthesis
ends the group, unless it ends one of the text: then the group around is still open in the end. -/
lemma parseFrom?_anchored_of_reach {r : Regex}
    (hreach : ({} : State).reach (text ++ [')', '$']) = next.reach [')', '$']) :
    parseFrom? (({} : State).within anchoredGroup) (text ++ [')', '$']) = some r ↔
      next.outer = [] ∧ next.group.close.enclosed.Admissible ∧
        next.group.close.enclosed.regex = r := by
  by_cases houter : next.outer = []
  · rw [reach_close houter] at hreach
    rw [parseFrom?_eq, reach_within, hreach, ← parseFrom?_eq, parseFrom?_close_anchored houter]
    exact ⟨fun h => ⟨houter, h⟩, And.right⟩
  · rw [parseFrom?_within_eq_none fun rest => hreach ▸ reach_close_ne houter rest]
    exact iff_of_false (fun heq => nomatch heq) fun h => houter h.1

/-- **What comes of a text between anchors** that closes only what it has opened: the expression
that the text spells, in a group between anchors, if that is admissible and if the text does not
end in a comment. -/
theorem parse?_anchored_eq_some_iff {r : Regex} (h : ¬ ClosesUnopened text) :
    parse? (Pattern.anchored text) = some r ↔
      ∃ e, Spells text e ∧ ¬ EndsInComment text ∧ e.enclosed.Admissible ∧ e.enclosed.regex = r := by
  rw [parse?_anchored_eq]
  cases run_meets {} text with
  | @stops next halone hclosing =>
    have hnot : ¬ EndsInComment text := not_endsInComment halone (hclosing [] List.not_mem_nil)
    rw [parseFrom?_anchored_of_reach (hclosing ['$'] (by decide))]
    constructor
    · rintro ⟨houter, hadmissible, hregex⟩
      exact ⟨_, (spells_iff_of_reach halone).mpr ⟨rfl, houter, rfl⟩, hnot, hadmissible, hregex⟩
    · rintro ⟨e, hspells, -, hadmissible, hregex⟩
      obtain ⟨-, houter, rfl⟩ := (spells_iff_of_reach halone).mp hspells
      exact ⟨houter, hadmissible, hregex⟩
  | @passes next halone hclosing =>
    have hstuck : ∀ rest, (({} : State).reach (text ++ [')', '$'])).2 ≠ ')' :: rest := by
      rw [hclosing ['$'] (by decide)]
      exact fun _ heq => nomatch heq
    rw [parseFrom?_within_eq_none hstuck]
    constructor
    · exact fun heq => nomatch heq
    · rintro ⟨e, hspells, hnot, -⟩
      have hend := (spells_iff_of_reach halone).mp hspells
      exact absurd ⟨e, hspells, fun z hz => (spells_iff_of_reach (hclosing z hz)).mpr hend⟩ hnot
  | closes halone => exact absurd ⟨_, _, halone⟩ h
  | refuses halone hclosing =>
    rw [parseFrom?_within_eq_none hclosing]
    constructor
    · exact fun heq => nomatch heq
    · rintro ⟨e, ⟨next, hreach, -⟩, -⟩
      exact absurd (congrArg Prod.snd hreach) halone

end Regex

end TreeSchema
