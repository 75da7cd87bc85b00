/-
Symbols and a closing parenthesis behind a text.

A backslash may introduce a code point, the name of a property or a question about words, and each
of these has readers of its own.  All of them stop in front of a closing parenthesis behind what
they need.  Where something is missing, the parenthesis does not help much: it is no digit and no
name, and a reader that takes it for a letter leaves the rest of the text without it.
-/
import TreeSchema.Proofs.Regex.Closing.Basic

namespace TreeSchema

namespace Regex

variable {flags : Flags} {text rest : List Char} {c : Char}

/-! ### Code points -/

/-- Between braces there are as many digits as one likes. -/
lemma seen_readHex?_open {letter : Char} (hopen : gap flags.verbose text = '\x7b' :: rest) :
    (readHex? flags letter text).map Taken.seen =
      (enclosed? flags.verbose '\x7d' rest).bind
        (Taken.giving? fun digits => (hexChar? digits).map (Symbol.literal · false)) := by
  dsimp only [readHex?, Taken.skipGap, Taken.whole, Taken.andThen, Taken.past]
  split
  · next left hopen' =>
    obtain rfl : rest = left := (List.cons.inj (hopen.symm.trans hopen')).2
    split
    · next hclose =>
      rw [enclosed?_of_rest hclose]
      cases hchar : hexChar? (spanSpaced flags.verbose (· != '\x7d') rest).value <;>
        simp [Taken.giving?, hchar]
    · next hclose =>
      rw [enclosed?_of_rest_nil hclose]
      rfl
  · next hother => exact absurd hopen (hother rest)

/-- Without a brace there are as many digits as the letter says. -/
lemma seen_readHex?_counted {letter : Char}
    (hother : ∀ rest, gap flags.verbose text ≠ '\x7b' :: rest) :
    (readHex? flags letter text).map Taken.seen =
      ((takeSpaced? flags.verbose (hexLength letter) text).map Taken.seen).bind
        (Taken.giving? fun digits => (hexChar? digits).map (Symbol.literal · (letter == 'x'))) := by
  dsimp only [readHex?, Taken.skipGap, Taken.whole]
  split
  · next rest hopen => exact absurd hopen (hother rest)
  · cases takeSpaced? flags.verbose (hexLength letter) text with
    | none => rfl
    | some digits =>
      cases hchar : hexChar? digits.value <;>
        simp [Taken.giving?, Taken.seen, Taken.giving, hchar]

/-- A parenthesis is no digit. -/
lemma hexChar?_of_close {digits : List Char} (h : ')' ∈ digits) : hexChar? digits = none := by
  refine if_neg fun hdigits => ?_
  have hall := (Bool.and_eq_true_iff.mp hdigits).2
  have hclose := List.all_eq_true.mp hall ')' h
  revert hclose
  decide

theorem meets_readHex? (flags : Flags) (letter : Char) (text : List Char) :
    Meets (fun _ _ => False) (fun text => (readHex? flags letter text).map Taken.seen) text := by
  have hcounted : Meets (fun _ _ => False) (fun text =>
      ((takeSpaced? flags.verbose (hexLength letter) text).map Taken.seen).bind
        (Taken.giving? fun digits => (hexChar? digits).map (Symbol.literal · (letter == 'x'))))
      text := by
    refine (meets_takeSpaced? _ text).giving? fun chars _ hclose v hv => ?_
    rw [hexChar?_of_close hclose] at hv
    cases hv
  cases gap_meets flags.verbose text with
  | @begins c rest halone hclosing =>
    by_cases hc : c = '\x7b'
    · subst hc
      have henclosed : Meets (fun _ _ => False) (fun rest =>
          (enclosed? flags.verbose '\x7d' rest).bind
            (Taken.giving? fun digits => (hexChar? digits).map (Symbol.literal · false))) rest :=
        (meets_enclosed? (by decide) (by decide) rest).giving? fun _ _ hlost => hlost.elim
      exact henclosed.of_eq (seen_readHex?_open halone) fun z _ => seen_readHex?_open (hclosing z)
    · refine hcounted.of_eq (seen_readHex?_counted (by simp [halone, hc])) fun z _ => ?_
      exact seen_readHex?_counted (by simp [hclosing, hc])
  | ends halone hclosing =>
    refine hcounted.of_eq (seen_readHex?_counted (by simp [halone])) fun z _ => ?_
    exact seen_readHex?_counted (by simp [hclosing])
  | comments halone hclosing =>
    refine hcounted.of_eq (seen_readHex?_counted (by simp [halone])) fun z hline => ?_
    exact seen_readHex?_counted (by simp [hclosing z hline])

/-! ### Properties -/

/-- The set between braces behind the letter of a property. -/
def bracedProperty? (flags : Flags) (negated : Bool) (name : List Char) : Option Symbol :=
  (propertySet? name).bind fun property =>
    (closeSet? flags (negated != property.2) property.1).map .set

/-- The set of a property with a name of one letter. -/
def shortProperty? (flags : Flags) (negated : Bool) (c : Char) : Option Symbol :=
  (namedSet? (Unicode.looseName [c])).bind fun set => (closeSet? flags negated set).map .set

/-- The name of a property behind the gap in front of it. -/
def propertyName? (flags : Flags) (negated : Bool) :
    List Char → Option (Symbol × List Char)
  | [] => none
  | c :: rest =>
    if c = '\x7b' then
      (enclosed? flags.verbose '\x7d' rest).bind (Taken.giving? (bracedProperty? flags negated))
    else if c = '\\' then none
    else (shortProperty? flags negated c).map (·, rest)

lemma seen_readProperty? {negated : Bool} (hunicode : flags.unicode = true) :
    (readProperty? flags negated text).map Taken.seen =
      propertyName? flags negated (gap flags.verbose text) := by
  dsimp only [readProperty?, Taken.skipGap, Taken.whole, Taken.andThen, Taken.past]
  rw [hunicode]
  simp only [Bool.not_true, Bool.false_eq_true, if_false]
  split
  · next hgap =>
    rw [hgap]
    rfl
  · next c rest hgap =>
    conv_rhs => rw [hgap, propertyName?]
    split
    · split
      · next hclose =>
        rw [enclosed?_of_rest hclose]
        cases hset : propertySet? (spanSpaced flags.verbose (· != '\x7d') rest).value with
        | none => simp [Taken.giving?, bracedProperty?, hset]
        | some property =>
          cases hclosed : closeSet? flags (negated != property.2) property.1 <;>
            simp [Taken.giving?, bracedProperty?, hset, hclosed]
      · next hclose =>
        rw [enclosed?_of_rest_nil hclose]
        rfl
    · split
      · rfl
      · cases hset : namedSet? (Unicode.looseName [c]) with
        | none => simp [shortProperty?, hset]
        | some set =>
          cases hclosed : closeSet? flags negated set <;>
            simp [shortProperty?, hset, hclosed]

/-- Where the name is missing, it could be a name of one letter. -/
lemma meets_propertyName? (flags : Flags) (negated : Bool) (text : List Char) :
    Meets (fun _ rest => rest = ['$']) (propertyName? flags negated) text := by
  cases text with
  | nil =>
    refine .refuses rfl fun v rest hread => ?_
    have hread : (shortProperty? flags negated ')').map (·, ['$']) = some (v, rest) := hread
    exact Taken.rest_eq_of_map hread
  | cons c rest =>
    by_cases hopen : c = '\x7b'
    · have henclosed : Meets (fun _ rest => rest = ['$'])
          (fun rest => (enclosed? flags.verbose '\x7d' rest).bind
            (Taken.giving? (bracedProperty? flags negated))) rest :=
        (meets_enclosed? (by decide) (by decide) rest).giving? fun _ _ hlost => hlost.elim
      refine henclosed.of_eq ?_ fun z _ => ?_ <;> simp [propertyName?, hopen]
    · by_cases hslash : c = '\\'
      · exact .of_none (by simp [propertyName?, hslash]) (by simp [propertyName?, hslash])
      · have hshort : ∀ rest, propertyName? flags negated (c :: rest) =
            (shortProperty? flags negated c).map (·, rest) := by
          simp [propertyName?, hopen, hslash]
        exact (Meets.of_option _ rest).of_eq (hshort rest) fun z _ => hshort _

theorem meets_readProperty? (flags : Flags) (negated : Bool) (text : List Char) :
    Meets (fun _ rest => rest = ['$'])
      (fun text => (readProperty? flags negated text).map Taken.seen) text := by
  cases hunicode : flags.unicode with
  | false => exact .of_none (by simp [readProperty?, hunicode]) (by simp [readProperty?, hunicode])
  | true =>
    have hname := (meets_propertyName? flags negated (gap flags.verbose text)).gap
      fun v rest hread => nomatch hread
    exact hname.of_eq (seen_readProperty? hunicode) fun z _ => seen_readProperty? hunicode

/-! ### Questions about words -/

/-- Whether a character may be in the name of a question about words. -/
def isBoundaryChar (c : Char) : Bool := c.isAlpha || c == '-'

/-- The question with a name that is read, at the brace behind the name. -/
def boundaryAtBrace? (flags : Flags) (name : List Char) : List Char → Option (Symbol × List Char)
  | '\x7d' :: rest => ((namedBoundary? flags name).map .assertion).map (·, rest)
  | _ => none

/-- The question with the name in front of a brace. -/
def boundaryName? (flags : Flags) (text : List Char) : Option (Symbol × List Char) :=
  (some (spanSpaced flags.verbose isBoundaryChar text).seen).bind
    fun t => boundaryAtBrace? flags t.1 t.2

lemma meets_boundaryAtBrace? (flags : Flags) (name text : List Char) :
    Meets (fun _ _ => False) (boundaryAtBrace? flags name) text := by
  cases text with
  | nil => exact .of_none rfl rfl
  | cons c rest =>
    by_cases hc : c = '\x7d'
    · subst hc
      exact (Meets.of_option _ rest).of_eq rfl fun _ _ => rfl
    · exact .of_none (by simp [boundaryAtBrace?, hc]) (by simp [boundaryAtBrace?, hc])

lemma meets_boundaryName? (flags : Flags) (text : List Char) :
    Meets (fun _ _ => False) (boundaryName? flags) text :=
  (meets_spanSpaced rfl text).bind (meets_boundaryAtBrace? flags)
    (fun _ _ _ hread => nomatch hread) fun _ _ hlost => hlost.elim

/-- Braces are for the question if they begin as a name does. -/
lemma seen_readBoundary?_named (hgap : gap flags.verbose text = c :: rest)
    (hc : isBoundaryChar c = true) :
    (readBoundary? flags ('\x7b' :: text)).map Taken.seen = boundaryName? flags text := by
  rw [readBoundary?]
  split
  · next hnil => cases hnil.symm.trans hgap
  · next first tail hfirst =>
    obtain ⟨rfl, -⟩ := List.cons.inj (hgap.symm.trans hfirst)
    have hname : (c.isAlpha || c == '-') = true := hc
    dsimp only
    rw [if_pos hname]
    split
    · next left hclose =>
      have hclose : (spanSpaced flags.verbose isBoundaryChar text).rest = '\x7d' :: left := hclose
      dsimp only [boundaryName?, Option.bind_some, Taken.seen]
      rw [hclose, boundaryAtBrace?]
      change Option.map _ ((namedBoundary? flags
        (spanSpaced flags.verbose isBoundaryChar text).value).bind _) = _
      cases namedBoundary? flags (spanSpaced flags.verbose isBoundaryChar text).value <;> rfl
    · next hopen =>
      dsimp only [boundaryName?, Option.bind_some, Taken.seen]
      rw [boundaryAtBrace?]
      · rfl
      · exact hopen

/-- Otherwise they are left. -/
lemma seen_readBoundary?_plain (hgap : gap flags.verbose text = c :: rest)
    (hc : isBoundaryChar c = false) :
    (readBoundary? flags ('\x7b' :: text)).map Taken.seen =
      some (.assertion (.wordBoundary (wordChars flags)), '\x7b' :: text) := by
  rw [readBoundary?]
  split
  · next hnil => cases hnil.symm.trans hgap
  · next first tail hfirst =>
    obtain ⟨rfl, -⟩ := List.cons.inj (hgap.symm.trans hfirst)
    rw [if_neg (by simpa [isBoundaryChar] using hc)]
    rfl

lemma seen_readBoundary?_nil (hgap : gap flags.verbose text = []) :
    (readBoundary? flags ('\x7b' :: text)).map Taken.seen = none := by
  rw [readBoundary?]
  split
  · rfl
  · next hfirst => cases hgap.symm.trans hfirst

lemma seen_readBoundary? (hother : ∀ rest, text ≠ '\x7b' :: rest) :
    (readBoundary? flags text).map Taken.seen =
      some (.assertion (.wordBoundary (wordChars flags)), text) := by
  rw [readBoundary?]
  · rfl
  · exact hother

/-- A brace is left behind a question about words, with a gap and then the parenthesis. -/
def LeavesBrace (flags : Flags) (symbol : Symbol) (rest : List Char) : Prop :=
  (∃ a, symbol = .assertion a) ∧
    ∃ left, rest = '\x7b' :: left ∧ gap flags.verbose left = [')', '$']

theorem meets_readBoundary? (flags : Flags) (text : List Char) :
    Meets (LeavesBrace flags) (fun text => (readBoundary? flags text).map Taken.seen) text := by
  rcases begins_or_not '\x7b' text with ⟨rest, rfl⟩ | hother
  · cases gap_meets flags.verbose rest with
    | @begins c left halone hclosing =>
      cases hc : isBoundaryChar c with
      | false =>
        exact .stops (seen_readBoundary?_plain halone hc)
          fun z _ => seen_readBoundary?_plain (hclosing z) hc
      | true =>
        refine ((meets_boundaryName? flags rest).mono fun _ _ hlost => hlost.elim).of_eq
          (seen_readBoundary?_named halone hc) fun z _ => ?_
        exact seen_readBoundary?_named (hclosing z) hc
    | ends halone hclosing =>
      refine .refuses (seen_readBoundary?_nil halone) fun symbol left hread => ?_
      obtain ⟨rfl, rfl⟩ := Prod.mk.inj
        (Option.some.inj ((seen_readBoundary?_plain (hclosing ['$']) rfl).symm.trans hread))
      exact ⟨⟨_, rfl⟩, _, rfl, hclosing ['$']⟩
    | comments halone hclosing =>
      exact .of_none (seen_readBoundary?_nil halone)
        (seen_readBoundary?_nil (hclosing _ (by decide)))
  · exact .stops (seen_readBoundary? hother)
      fun z _ => seen_readBoundary? (append_close_ne (by decide) hother)

/-! ### Escapes -/

/-- The letters behind which more belongs to an escape. -/
def openingLetters : List Char := ['x', 'u', 'U', 'p', 'P', 'b']

/-- Any other character is an escape by itself. -/
lemma seen_readEscape?_alone (hc : c ∉ openingLetters) :
    (readEscape? flags (c :: rest)).map Taken.seen =
      ((readEscape? flags [c]).map Taken.value).map (·, rest) := by
  simp only [openingLetters, List.mem_cons, List.not_mem_nil, or_false, not_or] at hc
  obtain ⟨hx, hu, hU, hp, hP, hb⟩ := hc
  simp only [readEscape?, hx, hu, hU, hp, hP, hb, or_self, if_false]
  -- in each of the cases left the symbol is found without a look at what follows
  repeat' split
  all_goals rfl

lemma seen_readEscape?_hex (hc : c = 'x' ∨ c = 'u' ∨ c = 'U') :
    (readEscape? flags (c :: rest)).map Taken.seen = (readHex? flags c rest).map Taken.seen := by
  simp only [readEscape?, hc, if_true]
  cases readHex? flags c rest <;> rfl

lemma seen_readEscape?_property (hc : c = 'p' ∨ c = 'P') :
    (readEscape? flags (c :: rest)).map Taken.seen =
      (readProperty? flags (c == 'P') rest).map Taken.seen := by
  have hhex : ¬ (c = 'x' ∨ c = 'u' ∨ c = 'U') := by
    rcases hc with rfl | rfl <;> decide
  simp only [readEscape?, hhex, hc, if_true, if_false]
  cases readProperty? flags (c == 'P') rest <;> rfl

lemma seen_readEscape?_boundary :
    (readEscape? flags ('b' :: rest)).map Taken.seen =
      (readBoundary? flags rest).map Taken.seen := by
  have hcontrol : controlLetter? 'b' = none := rfl
  have hitself : standsForItself 'b' = false := rfl
  simp only [readEscape?, hcontrol, hitself]
  cases readBoundary? flags rest <;> rfl

/-- How an escape gets lost: the parenthesis is taken for a letter, or a brace is left. -/
def EscapeLost (flags : Flags) (symbol : Symbol) (rest : List Char) : Prop :=
  rest = ['$'] ∨ LeavesBrace flags symbol rest

theorem meets_readEscape? (flags : Flags) (text : List Char) :
    Meets (EscapeLost flags) (fun text => (readEscape? flags text).map Taken.seen) text := by
  cases text with
  | nil =>
    refine .refuses rfl fun symbol rest hread => ?_
    have halone : (readEscape? flags [')', '$']).map Taken.seen =
        ((readEscape? flags [')']).map Taken.value).map (·, ['$']) :=
      seen_readEscape?_alone (by decide)
    rw [List.nil_append, halone] at hread
    exact .inl (Taken.rest_eq_of_map hread)
  | cons c rest =>
    by_cases hc : c ∈ openingLetters
    · simp only [openingLetters, List.mem_cons, List.not_mem_nil, or_false] at hc
      have hhex : c = 'x' ∨ c = 'u' ∨ c = 'U' → Meets (EscapeLost flags)
          (fun text => (readEscape? flags text).map Taken.seen) (c :: rest) := fun hc =>
        ((meets_readHex? flags c rest).mono fun _ _ hlost => hlost.elim).of_eq
          (seen_readEscape?_hex hc) fun _ _ => seen_readEscape?_hex hc
      have hproperty : c = 'p' ∨ c = 'P' → Meets (EscapeLost flags)
          (fun text => (readEscape? flags text).map Taken.seen) (c :: rest) := fun hc =>
        ((meets_readProperty? flags (c == 'P') rest).mono fun _ _ => .inl).of_eq
          (seen_readEscape?_property hc) fun _ _ => seen_readEscape?_property hc
      rcases hc with hc | hc | hc | hc | hc | rfl
      · exact hhex (.inl hc)
      · exact hhex (.inr (.inl hc))
      · exact hhex (.inr (.inr hc))
      · exact hproperty (.inl hc)
      · exact hproperty (.inr hc)
      · exact ((meets_readBoundary? flags rest).mono fun _ _ => .inr).of_eq
          seen_readEscape?_boundary fun _ _ => seen_readEscape?_boundary
    · exact (Meets.of_option _ rest).of_eq (seen_readEscape?_alone hc)
        fun _ _ => seen_readEscape?_alone hc

end Regex

end TreeSchema
