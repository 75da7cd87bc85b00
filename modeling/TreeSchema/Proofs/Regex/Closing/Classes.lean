/-
Bracketed classes and a closing parenthesis behind a text.

The reading of a class goes on until its last bracket is closed.  A closing parenthesis is no
bracket, so a class that is refused is refused with a parenthesis behind it too, and a class that is
read is read up to the same place (`meets_readClass?`).  On the way some readers may well take the
parenthesis, as a character of the class or as the end of a range, but then there is no bracket in
what is left.
-/
import TreeSchema.Proofs.Regex.Closing.Symbols
import Mathlib.Data.List.TakeWhile

namespace TreeSchema

namespace Regex

variable {flags : Flags} {text rest : List Char} {c : Char}

/-! ### Carets -/

/-- A text is read behind its caret if it begins with one. -/
def pastCaret {β : Type} (read : Bool → List Char → β) : List Char → β
  | '^' :: rest => read true rest
  | text => read false text

lemma pastCaret_of_ne {β : Type} {read : Bool → List Char → β} (h : ∀ rest, text ≠ '^' :: rest) :
    pastCaret read text = read false text := by
  rw [pastCaret]
  exact h

lemma pastCaret_eq {β : Type} {read : Bool → List Char → β} {negated : Bool}
    (h : (text.head? == some '^') = negated) :
    pastCaret read text = read negated (if negated then text.drop 1 else text) := by
  cases negated with
  | true =>
    cases text with
    | nil => cases h
    | cons c rest =>
      obtain rfl : c = '^' := by simpa using h
      rfl
  | false =>
    refine pastCaret_of_ne ?_
    rintro rest rfl
    cases h

lemma Meets.pastCaret {α : Type} {lost : α → List Char → Prop}
    {read : Bool → List Char → Option (α × List Char)}
    (h : ∀ negated text, Meets lost (read negated) text) (text : List Char) :
    Meets lost (Regex.pastCaret read) text := by
  rcases begins_or_not '^' text with ⟨rest, rfl⟩ | hother
  · exact (h true rest).of_eq rfl fun _ _ => rfl
  · exact (h false text).of_eq (pastCaret_of_ne hother)
      fun _ _ => pastCaret_of_ne (append_close_ne (by decide) hother)

/-! ### The opening bracket -/

/-- A union of single characters. -/
def unionOf (chars : List Char) : Union := chars.foldl (fun u c => u.add ⟨.single c, 0⟩) {}

/-- Something read, if anything is left behind it. -/
def unlessEnd? {α : Type} (v : α) : List Char → Option (α × List Char)
  | [] => none
  | rest => some (v, rest)

/-- The beginning of a class behind its caret and its hyphens. -/
def classFront? (flags : Flags) (negated : Bool) (hyphens : List Char) :
    List Char → Option ((Bool × Union) × List Char)
  | [] => none
  | c :: rest =>
    if hyphens.isEmpty && c == ']' then
      unlessEnd? (negated, unionOf [']']) (gap flags.verbose rest)
    else some ((negated, unionOf hyphens), c :: rest)

/-- The beginning of a class behind its caret. -/
def classInside? (flags : Flags) (negated : Bool) (text : List Char) :
    Option ((Bool × Union) × List Char) :=
  (some (spanSpaced flags.verbose (· == '-') text).seen).bind
    fun t => classFront? flags negated t.1 t.2

/-- The beginning of a class behind its bracket.  There may be a gap behind the caret too. -/
def classStart? (flags : Flags) : List Char → Option ((Bool × Union) × List Char) :=
  pastCaret fun negated text =>
    classInside? flags negated (if negated then gap flags.verbose text else text)

lemma seen_openBracket? :
    (openBracket? flags text).map Taken.seen = classStart? flags (gap flags.verbose text) := by
  unfold openBracket?
  dsimp only
  generalize hstart : (Taken.whole text ()).skipGap flags.verbose = start
  generalize hnegated : (start.rest.head? == some '^') = negated
  generalize hinside :
    (if negated = true then (start.drop 1).skipGap flags.verbose else start) = inside
  have hcaret : classStart? flags (gap flags.verbose text) =
      classInside? flags negated inside.rest := by
    have hgap : gap flags.verbose text = start.rest := congrArg Taken.rest hstart
    rw [hgap, classStart?, pastCaret_eq hnegated]
    subst hinside
    cases negated <;> rfl
  rw [hcaret, classInside?, Option.bind_some, Taken.seen]
  split
  · next hrest =>
    have hrest : (spanSpaced flags.verbose (· == '-') inside.rest).rest = [] := hrest
    rw [hrest]
    rfl
  · next c rest hrest =>
    have hrest : (spanSpaced flags.verbose (· == '-') inside.rest).rest = c :: rest := hrest
    conv_rhs => rw [hrest, classFront?]
    split
    · next hc =>
      refine Eq.trans ?_ (if_pos hc).symm
      cases hgap : gap flags.verbose rest with
      | nil => simp [Taken.skipGap, Taken.past, hgap, unlessEnd?]
      | cons d rest =>
        simp [Taken.skipGap, Taken.past, hgap, unlessEnd?, Taken.seen, unionOf, Taken.giving]
    · next hc =>
      refine Eq.trans ?_ (if_neg hc).symm
      exact congrArg (fun left => some ((negated, unionOf _), left)) hrest

lemma meets_unlessEnd? {α : Type} (v : α) (text : List Char) :
    Meets (fun _ rest => rest = [')', '$']) (unlessEnd? v) text := by
  cases text with
  | nil => exact .refuses rfl fun _ _ hread => (Prod.mk.inj (Option.some.inj hread)).2.symm
  | cons c rest => exact .stops rfl fun _ _ => rfl

lemma meets_classFront? (flags : Flags) (negated : Bool) (hyphens text : List Char) :
    Meets (fun _ rest => rest = [')', '$']) (classFront? flags negated hyphens) text := by
  cases text with
  | nil =>
    refine .refuses rfl fun _ _ hread => ?_
    simp only [List.nil_append, classFront?] at hread
    rw [if_neg (by simp)] at hread
    exact (Prod.mk.inj (Option.some.inj hread)).2.symm
  | cons c rest =>
    by_cases hc : (hyphens.isEmpty && c == ']') = true
    · have hbehind : Meets (fun _ rest => rest = [')', '$'])
          (fun rest => unlessEnd? (negated, unionOf [']']) (gap flags.verbose rest)) rest :=
        (meets_unlessEnd? _ _).gap fun _ _ hread => by cases hread
      exact hbehind.of_eq (if_pos hc) fun _ _ => if_pos hc
    · exact .stops (if_neg hc) fun _ _ => if_neg hc

lemma meets_classInside? (flags : Flags) (negated : Bool) (text : List Char) :
    Meets (fun _ rest => rest = [')', '$']) (classInside? flags negated) text :=
  (meets_spanSpaced rfl text).bind (meets_classFront? flags negated)
    (fun _ _ _ hread => nomatch hread) fun _ _ hlost => hlost.elim

theorem meets_openBracket? (flags : Flags) (text : List Char) :
    Meets (fun _ rest => rest = [')', '$'])
      (fun text => (openBracket? flags text).map Taken.seen) text := by
  have hnil : ∀ negated, classInside? flags negated [] = none := by
    intro negated
    rw [classInside?, seen_spanSpaced, gap_nil]
    rfl
  have hstart : ∀ text, Meets (fun _ rest => rest = [')', '$']) (classStart? flags) text := by
    refine Meets.pastCaret fun negated text => ?_
    cases negated with
    | true =>
      exact (meets_classInside? flags true _).gap fun _ _ hread => nomatch
        (hnil true).symm.trans hread
    | false => exact meets_classInside? flags false text
  refine ((hstart _).gap fun _ _ hread => ?_).of_eq seen_openBracket? fun _ _ => seen_openBracket?
  exact nomatch (hnil false).symm.trans hread

/-! ### Classes by name -/

/-- The class with a name that is read, at the bracket behind the name. -/
def asciiAtBracket? (negated : Bool) (name : List Char) :
    List Char → Option ((CharSet × Bool) × List Char)
  | ']' :: rest => ((asciiClass? (String.ofList name)).map (·, negated)).map (·, rest)
  | _ => none

/-- The class with the name in front of a colon. -/
def asciiName? (negated : Bool) (text : List Char) : Option ((CharSet × Bool) × List Char) :=
  (enclosed? false ':' text).bind fun t => asciiAtBracket? negated t.1 t.2

lemma seen_readAsciiClass? :
    (readAsciiClass? (':' :: text)).map Taken.seen = pastCaret asciiName? text := by
  simp only [readAsciiClass?]
  generalize hnegated : (text.head? == some '^') = negated
  generalize hinside : (if negated = true then (Taken.first ':' text ()).drop 1
    else Taken.first ':' text ()) = inside
  have hcaret : pastCaret asciiName? text = asciiName? negated inside.rest := by
    rw [pastCaret_eq hnegated]
    subst hinside
    cases negated <;> rfl
  have hbehind : (inside.drop (inside.rest.takeWhile (· != ':')).length).rest =
      inside.rest.dropWhile (· != ':') := drop_length_takeWhile
  rw [hcaret, asciiName?, enclosed?_false]
  split
  · next rest hclose =>
    conv_rhs => rw [← hbehind, hclose]
    simp only [Option.bind_some, asciiAtBracket?]
    cases asciiClass? (String.ofList (inside.rest.takeWhile (· != ':'))) <;> rfl
  · next hopen =>
    rw [← hbehind]
    split
    · next c rest hrest =>
      have hc : c = ':' := by
        have hnot := List.head?_dropWhile_not (· != ':') inside.rest
        rw [← hbehind, hrest] at hnot
        simpa using hnot
      subst hc
      rw [Option.bind_some, asciiAtBracket?]
      · rfl
      · rintro left rfl
        exact hopen left hrest
    · rfl

lemma seen_readAsciiClass?_of_ne (h : ∀ rest, text ≠ ':' :: rest) :
    (readAsciiClass? text).map Taken.seen = none := by
  rw [readAsciiClass?]
  · rfl
  · exact h

lemma meets_asciiName? (negated : Bool) (text : List Char) :
    Meets (fun _ _ => False) (asciiName? negated) text := by
  refine (meets_enclosed? (by decide) (by decide) text).bind (fun name rest => ?_)
    (fun _ _ _ hread => nomatch hread) fun _ _ hlost => hlost.elim
  cases rest with
  | nil => exact .of_none rfl rfl
  | cons c rest =>
    by_cases hc : c = ']'
    · subst hc
      exact (Meets.of_option _ rest).of_eq rfl fun _ _ => rfl
    · exact .of_none (by simp [asciiAtBracket?, hc]) (by simp [asciiAtBracket?, hc])

theorem meets_readAsciiClass? (text : List Char) :
    Meets (fun _ _ => False) (fun text => (readAsciiClass? text).map Taken.seen) text := by
  rcases begins_or_not ':' text with ⟨text, rfl⟩ | hother
  · exact (Meets.pastCaret meets_asciiName? text).of_eq seen_readAsciiClass?
      fun _ _ => seen_readAsciiClass?
  · exact .of_none (seen_readAsciiClass?_of_ne hother)
      (seen_readAsciiClass?_of_ne (append_close_ne (by decide) hother))

/-- No class has a parenthesis in its name. -/
lemma asciiClass?_of_close {name : List Char} (h : ')' ∈ name) :
    asciiClass? (String.ofList name) = none := by
  have hne : ∀ s : String, ')' ∉ s.toList → String.ofList name ≠ s := by
    rintro s hs rfl
    exact hs (String.toList_ofList.symm ▸ h)
  unfold asciiClass?
  repeat rw [if_neg (hne _ (by decide))]

lemma asciiAtBracket?_of_close {negated : Bool} {name : List Char} (h : ')' ∈ name) :
    asciiAtBracket? negated name text = none := by
  unfold asciiAtBracket?
  split
  · rw [asciiClass?_of_close h]
    rfl
  · rfl

/-- Where there is no colon, the parenthesis is part of the name. -/
lemma mem_of_enclosed?_closing {name z : List Char} (h : enclosed? false ':' text = none)
    (hclosing : enclosed? false ':' (text ++ ')' :: z) = some (name, rest)) : ')' ∈ name := by
  rw [enclosed?_false] at h hclosing
  have hall : ∀ c ∈ text, (c != ':') = true := by
    refine List.dropWhile_eq_nil_iff.mp ?_
    cases hleft : text.dropWhile (· != ':') with
    | nil => rfl
    | cons c left => simp [hleft] at h
  rw [List.takeWhile_append_of_pos hall, List.takeWhile_cons_of_pos (by decide)] at hclosing
  split at hclosing
  · obtain ⟨rfl, -⟩ := Prod.mk.inj (Option.some.inj hclosing)
    simp
  · cases hclosing

/-- What is no class by name is none with a parenthesis behind it. -/
lemma asciiName?_closing {negated : Bool} {z : List Char} (hz : '\n' ∉ z)
    (h : asciiName? negated text = none) : asciiName? negated (text ++ ')' :: z) = none := by
  rw [asciiName?] at h ⊢
  have hname : Meets (fun _ _ => False) (enclosed? false ':') text :=
    meets_enclosed? (by decide) (by decide) text
  cases hname with
  | @stops name left halone hclosing =>
    rw [halone, Option.bind_some] at h
    rw [hclosing z hz, Option.bind_some]
    cases left with
    | nil => rfl
    | cons c left =>
      by_cases hc : c = ']'
      · subst hc
        simp only [asciiAtBracket?, Option.map_eq_none_iff] at h
        simp [asciiAtBracket?, h]
      · simp [asciiAtBracket?, hc]
  | @passes name halone hclosing =>
    rw [halone] at h
    rw [hclosing z hz, h]
  | refuses halone =>
    cases hclosing : enclosed? false ':' (text ++ ')' :: z) with
    | none => rfl
    | some t => exact asciiAtBracket?_of_close (mem_of_enclosed?_closing halone hclosing)

/-- The same of what stands behind an opening bracket. -/
lemma readAsciiClass?_closing {z : List Char} (hz : '\n' ∉ z)
    (h : (readAsciiClass? text).map Taken.seen = none) :
    (readAsciiClass? (text ++ ')' :: z)).map Taken.seen = none := by
  rcases begins_or_not ':' text with ⟨text, rfl⟩ | hother
  · rw [seen_readAsciiClass?] at h
    rw [List.cons_append, seen_readAsciiClass?]
    rcases begins_or_not '^' text with ⟨rest, rfl⟩ | hother
    · exact asciiName?_closing hz h
    · rw [pastCaret_of_ne hother] at h
      rw [pastCaret_of_ne (append_close_ne (by decide) hother)]
      exact asciiName?_closing hz h
  · exact seen_readAsciiClass?_of_ne (append_close_ne (by decide) hother)

/-! ### Symbols and ranges -/

lemma seen_readClassSymbol?_escape :
    (readClassSymbol? flags ('\\' :: rest)).map Taken.seen =
      (readEscape? flags rest).map Taken.seen := by
  simp only [readClassSymbol?]
  cases readEscape? flags rest <;> rfl

lemma seen_readClassSymbol? (hc : c ≠ '\\') :
    (readClassSymbol? flags (c :: rest)).map Taken.seen = some (.literal c false, rest) := by
  rw [readClassSymbol?]
  · rfl
  · exact hc

theorem meets_readClassSymbol? (flags : Flags) (text : List Char) :
    Meets (EscapeLost flags) (fun text => (readClassSymbol? flags text).map Taken.seen) text := by
  cases text with
  | nil =>
    refine .refuses rfl fun symbol rest hread => .inl ?_
    rw [List.nil_append, seen_readClassSymbol? (by decide)] at hread
    exact (Prod.mk.inj (Option.some.inj hread)).2.symm
  | cons c rest =>
    by_cases hc : c = '\\'
    · subst hc
      exact (meets_readEscape? flags rest).of_eq seen_readClassSymbol?_escape
        fun _ _ => seen_readClassSymbol?_escape
    · exact .stops (seen_readClassSymbol? hc) fun _ _ => seen_readClassSymbol? hc

/-- What is behind blanks and a number sign, as `rangeGuard?` looks for it. -/
def pastSign (text : List Char) : List Char :=
  match text.dropWhile Text.isSpace with
  | '#' :: rest => rest.dropWhile Text.isSpace
  | rest => rest

lemma pastSign_closing {z : List Char} :
    pastSign (text ++ ')' :: z) = pastSign text ++ ')' :: z := by
  have hspace : Text.isSpace ')' = false := rfl
  rw [pastSign, pastSign, dropWhile_closing hspace]
  rcases begins_or_not '#' (text.dropWhile Text.isSpace) with ⟨rest, hrest⟩ | hother
  · rw [hrest]
    exact dropWhile_closing hspace
  · have hleft : ∀ {left : List Char}, (∀ rest, left ≠ '#' :: rest) →
        (match left with
          | '#' :: rest => rest.dropWhile Text.isSpace
          | rest => rest) = left := by
      intro left hne
      split
      · next rest => exact absurd rfl (hne rest)
      · rfl
    rw [hleft hother, hleft (append_close_ne (by decide) hother)]

/-- Only blanks and number signs are passed over. -/
lemma eq_of_pastSign_nil (h : pastSign (c :: rest) = []) : Text.isSpace c = true ∨ c = '#' := by
  cases hspace : Text.isSpace c with
  | true => exact .inl rfl
  | false =>
    refine .inr ?_
    by_contra hc
    rw [pastSign, List.dropWhile_cons_of_neg (by simp [hspace])] at h
    split at h
    · next heq => exact hc (List.cons.inj heq).1
    · cases h

/-- A parenthesis behind the text makes no difference to a hyphen. -/
lemma isLoneHyphen_closing {z : List Char} :
    isLoneHyphen flags (text ++ ')' :: z) = isLoneHyphen flags text := by
  cases hverbose : flags.verbose with
  | false => cases text <;> simp [isLoneHyphen, rangeGuard?, hverbose]
  | true =>
    have hguard : ∀ text, rangeGuard? flags text = (pastSign text).head?.or text.head? := by
      intro text
      simp only [rangeGuard?, hverbose, if_true]
      rfl
    simp only [isLoneHyphen, hguard, pastSign_closing]
    cases hleft : pastSign text with
    | cons c rest => rfl
    | nil =>
      -- the parenthesis decides then, and before it was a blank or a number sign, or nothing
      cases text with
      | nil => rfl
      | cons c rest =>
        rcases eq_of_pastSign_nil hleft with hc | rfl
        · have hbracket : c ≠ ']' := by
            rintro rfl
            cases hc
          have hhyphen : c ≠ '-' := by
            rintro rfl
            cases hc
          simp [hbracket, hhyphen]
        · rfl

/-- The set that a symbol of a class is by itself. -/
def standingAlone? (flags : Flags) : Symbol → Option CharSet
  | .assertion _ => none
  | .set set => some set
  | .literal c byte => literalSet? flags c byte

/-- The range from one symbol to another. -/
def rangeFrom? (flags : Flags) : Symbol → Symbol → Option CharSet
  | .literal low lowByte, .literal top topByte =>
    if low ≤ top then
      match literalSet? flags low lowByte, literalSet? flags top topByte with
      | some _, some _ => some (.range low.toNat top.toNat)
      | _, _ => none
    else none
  | _, _ => none

/-- What is behind the gap behind a symbol of a class. -/
def rangeAt? (flags : Flags) (symbol : Symbol) : List Char → Option (CharSet × List Char)
  | [] => none
  | '-' :: rest =>
    if isLoneHyphen flags rest then (standingAlone? flags symbol).map (·, '-' :: rest)
    else
      ((readClassSymbol? flags (gap flags.verbose rest)).map Taken.seen).bind
        (Taken.giving? (rangeFrom? flags symbol))
  | rest => (standingAlone? flags symbol).map (·, rest)

lemma rangeAt?_of_ne {symbol : Symbol} (hc : c ≠ '-') :
    rangeAt? flags symbol (c :: rest) = (standingAlone? flags symbol).map (·, c :: rest) := by
  rw [rangeAt?]
  · exact List.cons_ne_nil c rest
  · exact fun _ heq => hc (List.cons.inj heq).1

lemma rangeAt?_alone {symbol : Symbol} (hlone : isLoneHyphen flags rest = true) :
    rangeAt? flags symbol ('-' :: rest) = (standingAlone? flags symbol).map (·, '-' :: rest) := by
  rw [rangeAt?, if_pos hlone]

lemma rangeAt?_range {symbol : Symbol} (hlone : isLoneHyphen flags rest = false) :
    rangeAt? flags symbol ('-' :: rest) =
      ((readClassSymbol? flags (gap flags.verbose rest)).map Taken.seen).bind
        (Taken.giving? (rangeFrom? flags symbol)) := by
  rw [rangeAt?, if_neg (by simp [hlone])]

/-- Only a character begins a range. -/
lemma rangeAt?_refused {symbol : Symbol} (hlone : isLoneHyphen flags rest = false)
    (hsymbol : ∀ last, rangeFrom? flags symbol last = none) :
    rangeAt? flags symbol ('-' :: rest) = none := by
  rw [rangeAt?_range hlone]
  cases readClassSymbol? flags (gap flags.verbose rest) with
  | none => rfl
  | some last =>
    rw [Option.map_some, Option.bind_some, Taken.giving?, hsymbol]
    rfl

lemma seen_readRange?_literal {low : Char} {byte : Bool} :
    (readRange? flags (.literal low byte) text).map Taken.seen =
      rangeAt? flags (.literal low byte) (gap flags.verbose text) := by
  dsimp only [readRange?, Taken.skipGap, Taken.whole]
  split
  · next hgap =>
    rw [hgap]
    rfl
  · next rest hgap =>
    conv_rhs => rw [hgap]
    cases hlone : isLoneHyphen flags rest with
    | true =>
      rw [rangeAt?_alone hlone, if_pos rfl]
      simp only [Taken.map_seen_giving, hgap, standingAlone?]
    | false =>
      rw [rangeAt?_range hlone]
      simp only [Bool.false_eq_true, if_false, Taken.past]
      cases readClassSymbol? flags (gap flags.verbose rest) with
      | none => rfl
      | some last =>
        obtain ⟨symbol, left, hleft⟩ := last
        cases symbol with
        | set | assertion => rfl
        | literal top topByte =>
          simp only [Option.bind_eq_bind, Option.bind_some, Option.map_some, Taken.seen,
            Taken.giving?, rangeFrom?]
          split
          · cases literalSet? flags low byte <;> cases literalSet? flags top topByte <;> rfl
          · rfl
  · next hempty hother =>
    obtain ⟨c, rest, hgap⟩ := List.exists_cons_of_ne_nil hempty
    have hc : c ≠ '-' := by
      rintro rfl
      exact hother rest hgap
    simp only [Taken.map_seen_giving, hgap, rangeAt?_of_ne hc, standingAlone?]

lemma seen_readRange?_set {set : CharSet} :
    (readRange? flags (.set set) text).map Taken.seen =
      rangeAt? flags (.set set) (gap flags.verbose text) := by
  dsimp only [readRange?, Taken.skipGap, Taken.whole]
  split
  · next rest hgap =>
    cases hlone : isLoneHyphen flags rest with
    | true => simp [hgap, rangeAt?_alone hlone, standingAlone?, Taken.seen, Taken.giving]
    | false =>
      have hrefused : rangeAt? flags (.set set) ('-' :: rest) = none :=
        rangeAt?_refused hlone fun _ => rfl
      simp [hgap, hrefused]
  · next hgap =>
    rw [hgap]
    rfl
  · next hother hempty =>
    obtain ⟨c, rest, hgap⟩ := List.exists_cons_of_ne_nil hempty
    have hc : c ≠ '-' := by
      rintro rfl
      exact hother rest hgap
    simp [hgap, rangeAt?_of_ne hc, standingAlone?, Taken.seen, Taken.giving]

lemma seen_readRange?_assertion {a : Assertion} :
    (readRange? flags (.assertion a) text).map Taken.seen =
      rangeAt? flags (.assertion a) (gap flags.verbose text) := by
  change none = _
  cases gap flags.verbose text with
  | nil => rfl
  | cons c rest =>
    by_cases hc : c = '-'
    · subst hc
      cases hlone : isLoneHyphen flags rest with
      | true => rw [rangeAt?_alone hlone, standingAlone?, Option.map_none]
      | false => rw [rangeAt?_refused hlone fun _ => rfl]
    · rw [rangeAt?_of_ne hc, standingAlone?, Option.map_none]

lemma seen_readRange? {symbol : Symbol} :
    (readRange? flags symbol text).map Taken.seen =
      rangeAt? flags symbol (gap flags.verbose text) := by
  cases symbol with
  | literal low byte => exact seen_readRange?_literal
  | set set => exact seen_readRange?_set
  | assertion a => exact seen_readRange?_assertion

/-- How a range gets lost: the parenthesis stands behind its end, or is its end. -/
def RangeLost (rest : List Char) : Prop := rest = [')', '$'] ∨ rest = ['$']

lemma meets_rangeAt? (flags : Flags) (symbol : Symbol) (text : List Char) :
    Meets (fun _ rest => RangeLost rest) (rangeAt? flags symbol) text := by
  cases text with
  | nil =>
    refine .refuses rfl fun set rest hread => .inl ?_
    rw [List.nil_append, rangeAt?_of_ne (by decide)] at hread
    exact Taken.rest_eq_of_map hread
  | cons c rest =>
    by_cases hc : c = '-'
    · subst hc
      cases hlone : isLoneHyphen flags rest with
      | true =>
        refine (Meets.of_option _ ('-' :: rest)).of_eq (rangeAt?_alone hlone) fun z _ => ?_
        exact rangeAt?_alone (isLoneHyphen_closing.trans hlone)
      | false =>
        have hrange : Meets (fun _ rest => RangeLost rest) (fun rest =>
            ((readClassSymbol? flags (gap flags.verbose rest)).map Taken.seen).bind
              (Taken.giving? (rangeFrom? flags symbol))) rest := by
          have hlast : Meets (EscapeLost flags)
              (fun rest => (readClassSymbol? flags (gap flags.verbose rest)).map Taken.seen) rest :=
            (meets_readClassSymbol? flags _).gap fun _ _ hread => nomatch hread
          refine hlast.giving? fun last rest hlost set hset => ?_
          rcases hlost with hlost | ⟨⟨a, rfl⟩, -⟩
          · exact .inr hlost
          · cases symbol <;> cases hset
        refine hrange.of_eq (rangeAt?_range hlone) fun z _ => ?_
        exact rangeAt?_range (isLoneHyphen_closing.trans hlone)
    · exact (Meets.of_option _ (c :: rest)).of_eq (rangeAt?_of_ne hc) fun _ _ => rangeAt?_of_ne hc

theorem meets_readRange? (flags : Flags) (symbol : Symbol) (text : List Char) :
    Meets (fun _ rest => RangeLost rest)
      (fun text => (readRange? flags symbol text).map Taken.seen) text :=
  ((meets_rangeAt? flags symbol _).gap fun _ _ hread => nomatch hread).of_eq seen_readRange?
    fun _ _ => seen_readRange?

lemma seen_readClassItem? :
    ((readClassItem? flags text).map fun t => t.1.seen) =
      ((readClassSymbol? flags text).map Taken.seen).bind
        fun t => (readRange? flags t.1 t.2).map Taken.seen := by
  rw [readClassItem?]
  split
  · next hfirst =>
    rw [hfirst]
    rfl
  · next first hfirst =>
    conv_rhs => rw [hfirst]
    simp only [Option.map_some, Option.bind_some, Taken.seen]
    cases readRange? flags first.value first.rest <;> rfl

theorem meets_readClassItem? (flags : Flags) (text : List Char) :
    Meets (fun _ rest => RangeLost rest)
      (fun text => (readClassItem? flags text).map fun t => t.1.seen) text := by
  have hitem : Meets (fun _ rest => RangeLost rest) (fun text =>
      ((readClassSymbol? flags text).map Taken.seen).bind
        fun t => (readRange? flags t.1 t.2).map Taken.seen) text := by
    refine (meets_readClassSymbol? flags text).bind (meets_readRange? flags)
      (fun _ _ _ hread => Taken.rest_eq_nil_of_seen hread) ?_
    intro symbol rest hlost set left hread
    rw [seen_readRange?] at hread
    rcases hlost with rfl | ⟨⟨a, rfl⟩, -⟩
    · rw [gap_dollar, rangeAt?_of_ne (by decide)] at hread
      exact .inr (Taken.rest_eq_of_map hread)
    · rw [← seen_readRange?] at hread
      cases hread
  exact hitem.of_eq seen_readClassItem? fun _ _ => seen_readClassItem?

/-! ### The loop -/

variable {stack : List Waiting} {union : Union}

/-- What a round of the reading leads to: the class, or what waits and the union as far as it is
read. -/
inductive Round where
  | done (whole : Nested)
  | on (stack : List Waiting) (union : Union)

/-- The union with another set. -/
def roundWith (stack : List Waiting) (union : Union) (set : CharSet) : Round :=
  .on stack (union.add ⟨set, 0⟩)

/-- A closing bracket. -/
def closeRound? (flags : Flags) (stack : List Waiting) (union : Union) : Option Round :=
  match applyWaiting flags stack union.close with
  | (.bracket outer negated :: stack, whole) =>
    (closeSet? flags negated whole.set).map fun set =>
      if stack.isEmpty then .done ⟨set, whole.height + 1⟩
      else .on stack (outer.add ⟨set, whole.height + 1⟩)
  | _ => none

/-- An opening bracket, of a class by name or of a class inside the class. -/
def openRound? (flags : Flags) (stack : List Waiting) (union : Union) (text : List Char) :
    Option (Round × List Char) :=
  match (readAsciiClass? text).map Taken.seen with
  | some ((set, negated), rest) =>
    ((closeSet? flags negated set).map (roundWith stack union)).map (·, rest)
  | none =>
    ((openBracket? flags text).map Taken.seen).bind
      (Taken.giving? fun opened => some (.on (.bracket union opened.1 :: stack) opened.2))

/-- An operator between unions. -/
def operatorRound (flags : Flags) (stack : List Waiting) (union : Union) (op : SetOperator) :
    Round :=
  .on (.operator op (applyWaiting flags stack union.close).2 ::
    (applyWaiting flags stack union.close).1) {}

/-- One round of the reading. -/
def classRound? (flags : Flags) (stack : List Waiting) (union : Union) :
    List Char → Option (Round × List Char)
  | [] => none
  | c :: rest =>
    if c = '[' then openRound? flags stack union rest
    else if c = ']' then (closeRound? flags stack union).map (·, rest)
    else
      match operator? (c :: rest) with
      | some op => some (operatorRound flags stack union op, rest.drop 1)
      | none =>
        ((readClassItem? flags (c :: rest)).map fun t => t.1.seen).bind
          (Taken.giving? fun set => some (roundWith stack union set))

/-- All rounds.  Each leaves less of the text. -/
def classOf? (flags : Flags) (stack : List Waiting) (union : Union) (text : List Char) :
    Option (Nested × List Char) :=
  match classRound? flags stack union (gap flags.verbose text) with
  | none => none
  | some (.done whole, rest) => some (whole, rest)
  | some (.on stack union, rest) =>
    if rest.length < text.length then classOf? flags stack union rest else none
  termination_by text.length

theorem seen_readClass? {limit : Nat} (stack : List Waiting) (union : Union) (text : List Char)
    (inside : text.length ≤ limit) :
    (readClass? flags limit stack union text inside).map Taken.seen =
      classOf? flags stack union text := by
  rw [readClass?, classOf?]
  split
  · next hgap =>
    rw [hgap]
    rfl
  · next c rest hgap =>
    have hrest : rest.length < text.length := length_lt_of_gap hgap
    conv_rhs => rw [hgap, classRound?]
    dsimp only
    by_cases hopen : c = '['
    · rw [if_pos hopen, if_pos hopen, openRound?]
      cases readAsciiClass? rest with
      | some named =>
        obtain ⟨⟨set, negated⟩, left, hleft⟩ := named
        dsimp only [Option.map_some, Taken.seen]
        cases closeSet? flags negated set with
        | none => rfl
        | some set =>
          have hlt : left.length < text.length := Nat.lt_of_le_of_lt hleft hrest
          dsimp only [Option.map_some, roundWith]
          rw [if_pos hlt]
          exact seen_readClass? _ _ left _
      | none =>
        cases openBracket? flags rest with
        | none => rfl
        | some opened =>
          obtain ⟨⟨negated, inner⟩, left, hleft⟩ := opened
          have hlt : left.length < text.length := Nat.lt_of_le_of_lt hleft hrest
          dsimp only [Option.map_some, Option.map_none, Option.bind_some, Taken.seen, Taken.giving?]
          rw [if_pos hlt]
          exact seen_readClass? _ _ left _
    · rw [if_neg hopen, if_neg hopen]
      by_cases hclose : c = ']'
      · rw [if_pos hclose, if_pos hclose, closeRound?]
        obtain ⟨waiting, whole⟩ := applyWaiting flags stack union.close
        rcases waiting with _ | ⟨_ | ⟨outer, negated⟩, waiting⟩
        · rfl
        · rfl
        · dsimp only
          cases closeSet? flags negated whole.set with
          | none => rfl
          | some set =>
            dsimp only [Option.map_some]
            by_cases hlast : waiting.isEmpty = true
            · rw [if_pos hlast, if_pos hlast]
              rfl
            · rw [if_neg hlast, if_neg hlast]
              dsimp only
              rw [if_pos hrest]
              exact seen_readClass? _ _ rest _
      · rw [if_neg hclose, if_neg hclose]
        cases hop : operator? (c :: rest) with
        | some op =>
          have hlt : (rest.drop 1).length < text.length := by
            rw [List.length_drop]
            omega
          dsimp only [operatorRound]
          rw [if_pos hlt]
          exact seen_readClass? _ _ (rest.drop 1) _
        | none =>
          cases readClassItem? flags (c :: rest) with
          | none => rfl
          | some item =>
            obtain ⟨⟨set, left, _⟩, hleft⟩ := item
            have hlt : left.length < text.length := by
              have hle := gap_length_le flags.verbose text
              rw [hgap] at hle
              exact Nat.lt_of_lt_of_le hleft hle
            dsimp only [Option.map_some, Option.bind_some, Taken.seen, Taken.giving?, roundWith]
            rw [if_pos hlt]
            exact seen_readClass? _ _ left _
  termination_by text.length

/-- How a round gets lost: it is not the last one, and there is no bracket in what is left. -/
def RoundLost (round : Round) (rest : List Char) : Prop :=
  (∃ stack union, round = .on stack union) ∧ RangeLost rest

lemma meets_openRound? (flags : Flags) (stack : List Waiting) (union : Union) (text : List Char) :
    Meets RoundLost (openRound? flags stack union) text := by
  cases meets_readAsciiClass? text with
  | @stops named left halone hclosing =>
    refine (Meets.of_option ((closeSet? flags named.2 named.1).map (roundWith stack union))
      left).of_eq ?_ fun z hz => ?_
    · rw [openRound?, halone]
    · rw [openRound?, hclosing z hz]
  | @passes named halone hclosing =>
    have hround : ∀ t, (readAsciiClass? t).map Taken.seen = some (named, []) →
        openRound? flags stack union t =
          ((closeSet? flags named.2 named.1).map (roundWith stack union)).map (·, []) := by
      intro t ht
      rw [openRound?, ht]
    cases hround' : (closeSet? flags named.2 named.1).map (roundWith stack union) with
    | none =>
      refine .of_none ?_ ?_
      · rw [hround _ halone, hround', Option.map_none]
      · rw [hround _ (hclosing ['$'] (by decide)), hround', Option.map_none]
    | some round =>
      refine .passes (v := round) ?_ fun z hz => ?_
      · rw [hround _ halone, hround', Option.map_some]
      · rw [hround _ (hclosing z hz), hround', Option.map_some]
  | refuses halone =>
    -- there is no class by name with the parenthesis either, so a class inside is read both times
    have hopened : Meets RoundLost (fun text =>
        ((openBracket? flags text).map Taken.seen).bind
          (Taken.giving? fun opened => some (Round.on (.bracket union opened.1 :: stack) opened.2)))
        text := (meets_openBracket? flags text).giving? fun _ _ hlost _ hround =>
          ⟨⟨_, _, (Option.some.inj hround).symm⟩, .inl hlost⟩
    refine hopened.of_eq ?_ fun z hz => ?_
    · rw [openRound?, halone]
    · rw [openRound?, readAsciiClass?_closing hz halone]

/-- An operator is told by its two characters, and none of them is a parenthesis. -/
lemma operator?_closing {z : List Char} :
    operator? (c :: (rest ++ ')' :: z)) = operator? (c :: rest) := by
  have hpair : ∀ (d : Char) (rest : List Char), operator? (c :: d :: rest) = operator? [c, d] := by
    intro d rest
    simp only [operator?.eq_def]
    split <;> simp_all
  cases rest with
  | nil =>
    rw [List.nil_append, hpair]
    simp [operator?]
  | cons d rest => exact (hpair d _).trans (hpair d rest).symm

lemma drop_closing {op : SetOperator} {z : List Char} (h : operator? (c :: rest) = some op) :
    (rest ++ ')' :: z).drop 1 = rest.drop 1 ++ ')' :: z := by
  cases rest with
  | nil => simp [operator?] at h
  | cons d rest => rfl

lemma meets_classRound? (flags : Flags) (stack : List Waiting) (union : Union) (text : List Char) :
    Meets RoundLost (classRound? flags stack union) text := by
  have hitem : ∀ text, Meets RoundLost (fun text =>
      ((readClassItem? flags text).map fun t => t.1.seen).bind
        (Taken.giving? fun set => some (roundWith stack union set))) text :=
    fun text => (meets_readClassItem? flags text).giving? fun _ _ hlost _ hround =>
      ⟨⟨_, _, (Option.some.inj hround).symm⟩, hlost⟩
  cases text with
  | nil =>
    refine .refuses rfl fun round rest hread => ?_
    cases hitem [] with
    | refuses _ hclosing => exact hclosing round rest hread
    | stops halone => cases halone
    | passes halone => cases halone
  | cons c rest =>
    by_cases hopen : c = '['
    · exact (meets_openRound? flags stack union rest).of_eq (if_pos hopen) fun _ _ => if_pos hopen
    · by_cases hclose : c = ']'
      · have hround : ∀ rest, classRound? flags stack union (c :: rest) =
            (closeRound? flags stack union).map (·, rest) :=
          fun rest => (if_neg hopen).trans (if_pos hclose)
        exact (Meets.of_option _ rest).of_eq (hround rest) fun _ _ => hround _
      · have hround : ∀ rest, classRound? flags stack union (c :: rest) =
            match operator? (c :: rest) with
            | some op => some (operatorRound flags stack union op, rest.drop 1)
            | none =>
              ((readClassItem? flags (c :: rest)).map fun t => t.1.seen).bind
                (Taken.giving? fun set => some (roundWith stack union set)) :=
          fun rest => (if_neg hopen).trans (if_neg hclose)
        cases hop : operator? (c :: rest) with
        | some op =>
          refine .stops (v := operatorRound flags stack union op) (w := rest.drop 1) ?_
            fun z _ => ?_
          · rw [hround, hop]
          · rw [List.cons_append, hround, operator?_closing, hop, drop_closing hop]
        | none =>
          refine (hitem (c :: rest)).of_eq ?_ fun z _ => ?_
          · rw [hround, hop]
          · rw [List.cons_append, hround, operator?_closing, hop]

/-- There is no class in what is left where the reading of a class gets lost. -/
lemma classOf?_of_lost (h : RangeLost rest) : classOf? flags stack union rest = none := by
  have hdollar : ∀ stack union, classOf? flags stack union ['$'] = none := by
    intro stack union
    have hitem : ((readClassItem? flags ['$']).map fun t => t.1.seen) = none := by
      rw [seen_readClassItem?, seen_readClassSymbol? (by decide), Option.bind_some, seen_readRange?,
        gap_nil]
      rfl
    rw [classOf?, gap_dollar, classRound?, if_neg (by decide), if_neg (by decide), hitem]
    rfl
  rcases h with rfl | rfl
  · -- the parenthesis is one more character of the class, and then there is the dollar sign
    have hitem : ((readClassItem? flags [')', '$']).map fun t => t.1.seen) =
        (standingAlone? flags (.literal ')' false)).map (·, ['$']) := by
      rw [seen_readClassItem?, seen_readClassSymbol? (by decide), Option.bind_some, seen_readRange?,
        gap_dollar, rangeAt?_of_ne (by decide)]
    have hop : operator? [')', '$'] = none := rfl
    rw [classOf?, gap_close, classRound?, if_neg (by decide), if_neg (by decide), hop, hitem]
    cases standingAlone? flags (.literal ')' false) with
    | none => rfl
    | some set => exact hdollar _ _
  · exact hdollar stack union

lemma classOf?_done {whole : Nested}
    (h : classRound? flags stack union (gap flags.verbose text) = some (.done whole, rest)) :
    classOf? flags stack union text = some (whole, rest) := by
  rw [classOf?, h]

lemma classOf?_on {stack' : List Waiting} {union' : Union}
    (h : classRound? flags stack union (gap flags.verbose text) = some (.on stack' union', rest)) :
    classOf? flags stack union text =
      if rest.length < text.length then classOf? flags stack' union' rest else none := by
  rw [classOf?, h]

lemma classOf?_refused (h : classRound? flags stack union (gap flags.verbose text) = none) :
    classOf? flags stack union text = none := by
  rw [classOf?, h]

lemma classOf?_nil : classOf? flags stack union [] = none := by
  rw [classOf?, gap_nil]
  rfl

theorem meets_classOf? (flags : Flags) (stack : List Waiting) (union : Union) (text : List Char) :
    Meets (fun _ _ => False) (classOf? flags stack union) text := by
  have hround : Meets RoundLost
      (fun text => classRound? flags stack union (gap flags.verbose text)) text :=
    (meets_classRound? flags stack union _).gap fun _ _ hread => nomatch hread
  cases hround with
  | @stops round left halone hclosing =>
    cases round with
    | done whole => exact .stops (classOf?_done halone) fun z hz => classOf?_done (hclosing z hz)
    | on stack' union' =>
      by_cases hlt : left.length < text.length
      · refine (meets_classOf? flags stack' union' left).of_eq ?_ fun z hz => ?_
        · rw [classOf?_on halone, if_pos hlt]
        · rw [classOf?_on (hclosing z hz), if_pos (by simpa using hlt)]
      · refine .of_none ?_ ?_
        · rw [classOf?_on halone, if_neg hlt]
        · rw [classOf?_on (hclosing ['$'] (by decide)), if_neg (by simpa using hlt)]
  | @passes round halone hclosing =>
    cases round with
    | done whole => exact .passes (classOf?_done halone) fun z hz => classOf?_done (hclosing z hz)
    | on stack' union' =>
      -- nothing is left that could close the class
      refine .of_none ?_ ?_
      · rw [classOf?_on halone, classOf?_nil, ite_self]
      · rw [classOf?_on (hclosing ['$'] (by decide)), classOf?_nil, ite_self]
  | refuses halone hclosing =>
    refine .of_none (classOf?_refused halone) ?_
    cases hclosed : classRound? flags stack union (gap flags.verbose (text ++ [')', '$'])) with
    | none => exact classOf?_refused hclosed
    | some t =>
      obtain ⟨⟨stack', union', hon⟩, hlost⟩ := hclosing t.1 t.2 hclosed
      have hclosed : classRound? flags stack union (gap flags.verbose (text ++ [')', '$'])) =
          some (.on stack' union', t.2) := by rw [hclosed, ← hon]
      rw [classOf?_on hclosed, classOf?_of_lost hlost, ite_self]
  termination_by text.length

end Regex

end TreeSchema
