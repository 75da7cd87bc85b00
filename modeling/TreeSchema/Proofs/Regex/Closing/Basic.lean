/-
Readers and a closing parenthesis behind a text.

A reader takes something from the front of a text.  When a closing parenthesis is put behind the
text, nearly always nothing changes but the rest, which has the parenthesis too.  There are two
exceptions.  In a verbose expression the text may end in a comment, and then the parenthesis is
part of the comment.  And a reader that refuses the text may find in the parenthesis what it
misses.  `Meets` lists the three outcomes, so that a reader that is put together from others
inherits them from its parts (`Meets.bind`, `Meets.gap`).
-/
import TreeSchema.Regex.Parser
import Mathlib.Data.List.Basic

namespace TreeSchema

namespace Regex

/-! ### What is read and what is left -/

namespace Taken

variable {limit : Nat} {α β : Type} {c : Char} {text rest : List Char}

/-- What is read, and the rest of the text. -/
def seen (t : Taken limit α) : α × List Char := (t.value, t.rest)

@[simp] lemma seen_giving (t : Taken limit α) (v : β) : (t.giving v).seen = (v, t.rest) := rfl

lemma map_seen_giving {t : Taken limit α} {v? : Option β} :
    (v?.map t.giving).map seen = v?.map (·, t.rest) := by
  cases v? <;> rfl

/-- What is read, as another value if it has one. -/
def giving? (f : α → Option β) (t : α × List Char) : Option (β × List Char) :=
  (f t.1).map (·, t.2)

/-- What is left is known even if it is not known whether something is found. -/
lemma rest_eq_of_map {v? : Option α} {v : α} (h : v?.map (·, text) = some (v, rest)) :
    rest = text := by
  obtain ⟨_, -, heq⟩ := Option.map_eq_some_iff.mp h
  exact (Prod.mk.inj heq).2.symm

/-- Nothing is left of the empty text. -/
lemma rest_eq_nil_of_seen {t : Option (Taken 0 α)} {v : α}
    (h : t.map seen = some (v, rest)) : rest = [] := by
  obtain ⟨t, -, h⟩ := Option.map_eq_some_iff.mp h
  obtain ⟨-, rfl⟩ := Prod.mk.inj h
  exact List.length_eq_zero_iff.mp (Nat.le_zero.mp t.bounded)

end Taken

/-! ### Blanks and comments in front of a parenthesis -/

variable {verbose : Bool} {text rest : List Char} {c : Char}

/-- Either something is left of a text, and more text comes behind that, or the whole text does not
count, and it is known whether a comment has begun. -/
lemma skipGap_append (comment : Bool) (text : List Char) :
    (∀ z, skipGap comment (text ++ z) = skipGap comment text ++ z) ∨
      skipGap comment text = [] ∧
        ∃ within, ∀ z, skipGap comment (text ++ z) = skipGap within z := by
  induction text generalizing comment with
  | nil => exact .inr ⟨rfl, comment, fun _ => rfl⟩
  | cons c text ih =>
    cases comment with
    | true => exact ih (c != '\n')
    | false =>
      simp only [List.cons_append, skipGap]
      split
      · exact ih false
      · split
        · exact ih true
        · exact .inl fun _ => rfl

lemma skipGap_comment {z : List Char} (hz : '\n' ∉ z) : skipGap true z = [] := by
  induction z with
  | nil => rfl
  | cons c z ih =>
    have hc : (c != '\n') = true := by
      rw [bne_iff_ne]
      rintro rfl
      exact hz List.mem_cons_self
    rw [skipGap, hc]
    exact ih fun hmem => hz (List.mem_cons_of_mem c hmem)

/-- A closing parenthesis behind a text is left together with what is left of the text, unless the
text ends in a comment. -/
lemma gap_closing (verbose : Bool) (text : List Char) :
    (∀ z, gap verbose (text ++ ')' :: z) = gap verbose text ++ ')' :: z) ∨
      gap verbose text = [] ∧ ∀ z, '\n' ∉ z → gap verbose (text ++ ')' :: z) = [] := by
  cases verbose with
  | false => exact .inl fun _ => rfl
  | true =>
    simp only [gap, if_true]
    rcases skipGap_append false text with hleft | ⟨hnone, within, hwithin⟩
    · exact .inl fun z => hleft _
    · cases within with
      | false =>
        refine .inl fun z => ?_
        rw [hwithin, hnone, List.nil_append, skipGap]
        exact if_neg (by decide)
      | true =>
        refine .inr ⟨hnone, fun z hz => ?_⟩
        rw [hwithin, skipGap]
        exact skipGap_comment hz

/-- What is behind the gap in front of a text, alone and with a closing parenthesis behind it. -/
inductive GapMeets (verbose : Bool) (text : List Char) : Prop where
  /-- A character of the text. -/
  | begins {c : Char} {rest : List Char} (halone : gap verbose text = c :: rest)
      (hclosing : ∀ z, gap verbose (text ++ ')' :: z) = c :: (rest ++ ')' :: z))
  /-- Nothing, or the parenthesis. -/
  | ends (halone : gap verbose text = [])
      (hclosing : ∀ z, gap verbose (text ++ ')' :: z) = ')' :: z)
  /-- Nothing, as the text ends in a comment. -/
  | comments (halone : gap verbose text = [])
      (hclosing : ∀ z, '\n' ∉ z → gap verbose (text ++ ')' :: z) = [])

lemma gap_meets (verbose : Bool) (text : List Char) : GapMeets verbose text := by
  rcases gap_closing verbose text with hleft | ⟨hnone, hcomment⟩
  · cases hgap : gap verbose text with
    | nil => exact .ends hgap fun z => by rw [hleft, hgap, List.nil_append]
    | cons c rest => exact .begins hgap fun z => by rw [hleft, hgap, List.cons_append]
  · exact .comments hnone hcomment

/-- Where a character of the text is next, it is next with the parenthesis behind the text. -/
lemma gap_closing_of_cons (h : gap verbose text = c :: rest) (z : List Char) :
    gap verbose (text ++ ')' :: z) = c :: (rest ++ ')' :: z) := by
  cases gap_meets verbose text with
  | begins halone hclosing =>
    obtain ⟨rfl, rfl⟩ := List.cons.inj (h.symm.trans halone)
    exact hclosing z
  | ends halone => cases h.symm.trans halone
  | comments halone => cases h.symm.trans halone

/-! ### The three outcomes -/

/-- How a reader meets a closing parenthesis behind a text, which may be followed by more text of
the same line. -/
inductive Meets {α : Type} (lost : α → List Char → Prop)
    (read : List Char → Option (α × List Char)) (text : List Char) : Prop where
  /-- It leaves the parenthesis. -/
  | stops {v : α} {w : List Char} (halone : read text = some (v, w))
      (hclosing : ∀ z, '\n' ∉ z → read (text ++ ')' :: z) = some (v, w ++ ')' :: z))
  /-- The parenthesis is part of a comment. -/
  | passes {v : α} (halone : read text = some (v, []))
      (hclosing : ∀ z, '\n' ∉ z → read (text ++ ')' :: z) = some (v, []))
  /-- The text is refused, and if the reader takes the parenthesis or a dollar sign behind it in
  place of what is missing, it gets lost. -/
  | refuses (halone : read text = none)
      (hclosing : ∀ v rest, read (text ++ [')', '$']) = some (v, rest) → lost v rest)

namespace Meets

variable {α β : Type} {lost : α → List Char → Prop} {lost' : β → List Char → Prop}
  {read read' : List Char → Option (α × List Char)} {text' : List Char}

/-- Reading two texts in two ways that agree has the same outcome. -/
lemma of_eq (h : Meets lost read' text') (halone : read text = read' text')
    (hclosing : ∀ z, '\n' ∉ z → read (text ++ ')' :: z) = read' (text' ++ ')' :: z)) :
    Meets lost read text := by
  cases h with
  | stops h hz =>
    exact .stops (halone.trans h) fun z hline => (hclosing z hline).trans (hz z hline)
  | passes h hz =>
    exact .passes (halone.trans h) fun z hline => (hclosing z hline).trans (hz z hline)
  | refuses h hz =>
    refine .refuses (halone.trans h) fun v rest hread => hz v rest ?_
    exact (hclosing ['$'] (by decide)).symm.trans hread

/-- Both texts are refused. -/
lemma of_none (halone : read text = none) (hclosing : read (text ++ [')', '$']) = none) :
    Meets lost read text :=
  .refuses halone fun _ _ hread => nomatch hclosing.symm.trans hread

lemma mono {lost' : α → List Char → Prop} (h : Meets lost read text)
    (himp : ∀ v rest, lost v rest → lost' v rest) : Meets lost' read text := by
  cases h with
  | stops h hz => exact .stops h hz
  | passes h hz => exact .passes h hz
  | refuses h hz => exact .refuses h fun v rest hread => himp v rest (hz v rest hread)

/-- What is read first decides about the outcome as far as it gets, and what is read next decides
about the rest. -/
lemma bind {next : α → List Char → Option (β × List Char)} (h : Meets lost read text)
    (hnext : ∀ v rest, Meets lost' (next v) rest)
    (hend : ∀ v v' rest, next v [] = some (v', rest) → rest = [])
    (hlost : ∀ v rest, lost v rest → ∀ v' rest', next v rest = some (v', rest') → lost' v' rest') :
    Meets lost' (fun text => (read text).bind fun t => next t.1 t.2) text := by
  cases h with
  | @stops v rest h hz =>
    refine (hnext v rest).of_eq ?_ fun z hline => ?_
    · rw [h, Option.bind_some]
    · rw [hz z hline, Option.bind_some]
  | @passes v h hz =>
    -- nothing is left in either case, so what is read next is the same
    have hnil : ∀ t, read t = some (v, []) → ((read t).bind fun t => next t.1 t.2) = next v [] := by
      intro t ht
      rw [ht, Option.bind_some]
    cases hread : next v [] with
    | none =>
      exact of_none ((hnil _ h).trans hread) ((hnil _ (hz ['$'] (by decide))).trans hread)
    | some t =>
      obtain ⟨v', rest'⟩ := t
      cases hend v v' rest' hread
      exact .passes ((hnil _ h).trans hread) fun z hline => (hnil _ (hz z hline)).trans hread
  | refuses h hz =>
    refine .refuses (by rw [h, Option.bind_none]) fun v' rest' hread => ?_
    obtain ⟨⟨v, rest⟩, hread, hread'⟩ := Option.bind_eq_some_iff.mp hread
    exact hlost v rest (hz v rest hread) v' rest' hread'

/-- What is found does not depend on the text. -/
lemma of_option (v? : Option α) (text : List Char) :
    Meets lost (fun text => v?.map (·, text)) text := by
  cases v? with
  | none => exact of_none rfl rfl
  | some v => exact .stops rfl fun _ _ => rfl

/-- What is read is changed, or refused after all. -/
lemma giving? {f : α → Option β} (h : Meets lost read text)
    (hlost : ∀ v rest, lost v rest → ∀ v', f v = some v' → lost' v' rest) :
    Meets lost' (fun text => (read text).bind (Taken.giving? f)) text := by
  refine h.bind (fun v rest => of_option (f v) rest) ?_ ?_
  · exact fun _ _ _ hread => Taken.rest_eq_of_map hread
  · rintro v rest hl v' rest' hread
    obtain ⟨w, hw, heq⟩ := Option.map_eq_some_iff.mp hread
    obtain ⟨rfl, rfl⟩ := Prod.mk.inj heq
    exact hlost v rest hl _ hw

/-- Blanks and comments are passed over first. -/
lemma gap (h : Meets lost read (gap verbose text))
    (hend : ∀ v rest, read [] = some (v, rest) → rest = []) :
    Meets lost (fun text => read (Regex.gap verbose text)) text := by
  rcases gap_closing verbose text with hleft | ⟨hnone, hcomment⟩
  · exact h.of_eq rfl fun z _ => congrArg read (hleft z)
  · cases hread : read [] with
    | none => exact of_none (by rw [hnone, hread]) (by rw [hcomment _ (by decide), hread])
    | some t =>
      obtain ⟨v, rest⟩ := t
      cases hend v rest hread
      exact .passes (by rw [hnone, hread]) fun z hline => by rw [hcomment z hline, hread]

end Meets

/-! ### Characters with gaps between them -/

variable {kind : Char → Bool}

@[simp] lemma gap_nil : gap verbose [] = [] := by
  cases verbose <;> rfl

@[simp] lemma gap_close {z : List Char} : gap verbose (')' :: z) = ')' :: z := by
  cases verbose <;> rfl

@[simp] lemma gap_dollar {z : List Char} : gap verbose ('$' :: z) = '$' :: z := by
  cases verbose <;> rfl

/-- A text begins with a character or does not. -/
lemma begins_or_not (c : Char) (text : List Char) :
    (∃ rest, text = c :: rest) ∨ ∀ rest, text ≠ c :: rest := by
  by_cases h : ∃ rest, text = c :: rest
  · exact .inl h
  · exact .inr (not_exists.mp h)

/-- A text that does not begin with a character does not do so with a parenthesis behind it. -/
lemma append_close_ne {z : List Char} (hc : c ≠ ')') (h : ∀ rest, text ≠ c :: rest) :
    ∀ rest, text ++ ')' :: z ≠ c :: rest := by
  rintro rest heq
  cases text with
  | nil => exact hc (List.cons.inj heq).1.symm
  | cons d text => exact h text (congrArg (· :: text) (List.cons.inj heq).1)

lemma length_lt_of_gap (h : gap verbose text = c :: rest) : rest.length < text.length := by
  have hle := gap_length_le verbose text
  rw [h, List.length_cons] at hle
  exact hle

lemma seen_spanSpaced :
    (spanSpaced verbose kind text).seen =
      match gap verbose text with
      | [] => ([], [])
      | c :: rest =>
        if kind c then
          (c :: (spanSpaced verbose kind rest).seen.1, (spanSpaced verbose kind rest).seen.2)
        else ([], c :: rest) := by
  rw [spanSpaced]
  split
  · next h => simp [h, Taken.seen]
  · next h =>
    conv_rhs => rw [h]
    dsimp only
    split <;> rfl

/-- Where nothing is passed over, the front of the text is read as it stands. -/
lemma seen_spanSpaced_false :
    (spanSpaced false kind text).seen = (text.takeWhile kind, text.dropWhile kind) := by
  induction text with
  | nil =>
    rw [seen_spanSpaced]
    rfl
  | cons c text ih =>
    rw [seen_spanSpaced]
    cases hc : kind c <;> simp [gap, hc, ih]

lemma drop_length_takeWhile : text.drop (text.takeWhile kind).length = text.dropWhile kind := by
  induction text with
  | nil => rfl
  | cons c text ih => cases hc : kind c <;> simp [hc, ih]

lemma dropWhile_closing (hkind : kind ')' = false) {z : List Char} :
    (text ++ ')' :: z).dropWhile kind = text.dropWhile kind ++ ')' :: z := by
  rw [List.dropWhile_append]
  cases hleft : text.dropWhile kind <;> simp [hkind]

/-- Characters of a kind that a closing parenthesis is not of end in front of it. -/
theorem meets_spanSpaced (hkind : kind ')' = false) (text : List Char) :
    Meets (fun _ _ => False) (fun text => some (spanSpaced verbose kind text).seen) text := by
  cases gap_meets verbose text with
  | @begins c rest halone hclosing =>
    cases hc : kind c with
    | false =>
      refine .stops (v := []) (w := c :: rest) ?_ fun z _ => ?_
      · rw [seen_spanSpaced, halone]
        simp [hc]
      · rw [seen_spanSpaced, hclosing]
        simp [hc]
    | true =>
      have hrest : Meets (fun _ _ => False) _ rest :=
        (meets_spanSpaced hkind rest).giving? (f := fun front => some (c :: front))
          fun _ _ hlost => hlost.elim
      refine hrest.of_eq ?_ fun z _ => ?_
      · rw [seen_spanSpaced, halone]
        simp [hc, Taken.giving?]
      · rw [seen_spanSpaced, hclosing]
        simp [hc, Taken.giving?]
  | ends halone hclosing =>
    refine .stops (v := []) (w := []) (by rw [seen_spanSpaced, halone]) fun z _ => ?_
    rw [seen_spanSpaced, hclosing]
    simp [hkind]
  | comments halone hclosing =>
    refine .passes (v := []) (by rw [seen_spanSpaced, halone]) fun z hline => ?_
    rw [seen_spanSpaced, hclosing z hline]
  termination_by text.length
  decreasing_by exact length_lt_of_gap halone

/-- What stands in front of the first of some character, and what stands behind it. -/
def enclosed? (verbose : Bool) (close : Char) (text : List Char) :
    Option (List Char × List Char) :=
  match (spanSpaced verbose (· != close) text).seen with
  | (name, _ :: rest) => some (name, rest)
  | (_, []) => none

variable {close : Char}

lemma enclosed?_of_rest (h : (spanSpaced verbose (· != close) text).rest = c :: rest) :
    enclosed? verbose close text = some ((spanSpaced verbose (· != close) text).value, rest) := by
  simp only [enclosed?, Taken.seen, h]

lemma enclosed?_of_rest_nil (h : (spanSpaced verbose (· != close) text).rest = []) :
    enclosed? verbose close text = none := by
  simp only [enclosed?, Taken.seen, h]

/-- Without gaps, a text is parted at the first of some character. -/
lemma enclosed?_false :
    enclosed? false close text =
      match text.dropWhile (· != close) with
      | _ :: rest => some (text.takeWhile (· != close), rest)
      | [] => none := by
  rw [enclosed?, seen_spanSpaced_false]
  cases text.dropWhile (· != close) <;> rfl

lemma enclosed?_eq :
    enclosed? verbose close text =
      match gap verbose text with
      | [] => none
      | c :: rest =>
        if c = close then some ([], rest)
        else (enclosed? verbose close rest).bind (Taken.giving? fun name => some (c :: name)) := by
  rw [enclosed?, seen_spanSpaced]
  cases hgap : gap verbose text with
  | nil => rfl
  | cons c rest =>
    by_cases hc : c = close
    · simp [hc]
    · simp only [bne_iff_ne, ne_eq, hc, not_false_eq_true, if_true, if_false, enclosed?]
      obtain ⟨name, left⟩ := (spanSpaced verbose (· != close) rest).seen
      cases left <;> rfl

lemma enclosed?_closing (hparenthesis : close ≠ ')') (hdollar : close ≠ '$') :
    enclosed? verbose close [')', '$'] = none := by
  have hnil : enclosed? verbose close [] = none := by rw [enclosed?_eq, gap_nil]
  have hlast : enclosed? verbose close ['$'] = none := by
    rw [enclosed?_eq, gap_dollar]
    simp [hnil, hdollar.symm]
  rw [enclosed?_eq, gap_close]
  simp [hlast, hparenthesis.symm]

theorem meets_enclosed? (hparenthesis : close ≠ ')') (hdollar : close ≠ '$') (text : List Char) :
    Meets (fun _ _ => False) (enclosed? verbose close) text := by
  cases gap_meets verbose text with
  | @begins c rest halone hclosing =>
    by_cases hc : c = close
    · refine .stops (v := []) (w := rest) ?_ fun z _ => ?_
      · rw [enclosed?_eq, halone]
        simp [hc]
      · rw [enclosed?_eq, hclosing]
        simp [hc]
    · have hrest : Meets (fun _ _ => False) _ rest :=
        (meets_enclosed? hparenthesis hdollar rest).giving? (f := fun name => some (c :: name))
          fun _ _ hlost => hlost.elim
      refine hrest.of_eq ?_ fun z _ => ?_
      · rw [enclosed?_eq, halone]
        simp [hc]
      · rw [enclosed?_eq, hclosing]
        simp [hc]
  | ends halone hclosing =>
    have hnone : enclosed? verbose close [')', '$'] = none :=
      enclosed?_closing hparenthesis hdollar
    rw [enclosed?_eq, gap_close] at hnone
    refine .of_none (by rw [enclosed?_eq, halone]) ?_
    rwa [enclosed?_eq, hclosing]
  | comments halone hclosing =>
    refine .of_none (by rw [enclosed?_eq, halone]) ?_
    rw [enclosed?_eq, hclosing _ (by decide)]
  termination_by text.length
  decreasing_by exact length_lt_of_gap halone

lemma seen_takeSpaced? {n : Nat} :
    (takeSpaced? verbose (n + 1) text).map Taken.seen =
      match gap verbose text with
      | [] => none
      | c :: rest =>
        ((takeSpaced? verbose n rest).map Taken.seen).bind
          (Taken.giving? fun chars => some (c :: chars)) := by
  rw [takeSpaced?]
  split
  · next h => simp [h]
  · next h =>
    conv_rhs => rw [h]
    dsimp only
    cases takeSpaced? verbose n _ <;> rfl

/-- Where characters are missing, the closing parenthesis is taken for one of them. -/
theorem meets_takeSpaced? (n : Nat) (text : List Char) :
    Meets (fun chars _ => ')' ∈ chars) (fun text => (takeSpaced? verbose n text).map Taken.seen)
      text := by
  induction n generalizing text with
  | zero => exact .stops rfl fun _ _ => rfl
  | succ n ih =>
    cases gap_meets verbose text with
    | @begins c rest halone hclosing =>
      have hrest : Meets (fun chars _ => ')' ∈ chars) _ rest :=
        (ih rest).giving? (f := fun chars => some (c :: chars)) fun chars _ hmem _ heq =>
          Option.some.inj heq ▸ List.mem_cons_of_mem c hmem
      refine hrest.of_eq ?_ fun z _ => ?_
      · rw [seen_takeSpaced?, halone]
      · rw [seen_takeSpaced?, hclosing]
    | ends halone hclosing =>
      refine .refuses (by rw [seen_takeSpaced?, halone]) fun chars rest hread => ?_
      rw [seen_takeSpaced?, hclosing] at hread
      obtain ⟨t, -, heq⟩ := Option.bind_eq_some_iff.mp hread
      cases heq
      exact List.mem_cons_self
    | comments halone hclosing =>
      refine .of_none (by rw [seen_takeSpaced?, halone]) ?_
      rw [seen_takeSpaced?, hclosing _ (by decide)]

end Regex

end TreeSchema
