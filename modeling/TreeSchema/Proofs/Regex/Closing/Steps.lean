/-
Constructs and a closing parenthesis behind a text.

One round of the reading takes up a construct, and what it takes up may be a symbol, a class, a mark
of repetition or the beginning of a group.  Behind the last two there may be a comment, and only
there can the text end in one within a construct.  All that is known of a round is `meets_step?`.
-/
import TreeSchema.Proofs.Regex.Closing.Classes

namespace TreeSchema

namespace Regex

variable {flags : Flags} {text rest : List Char} {c : Char}

/-! ### Repetition -/

lemma meets_readTurned (text : List Char) :
    Meets (fun _ _ => False) (fun text => some (readTurned text).seen) text := by
  have hother : ∀ {text}, (∀ rest, text ≠ '?' :: rest) →
      some (readTurned text).seen = some (false, text) := by
    intro text hne
    rw [readTurned]
    · rfl
    · exact hne
  rcases begins_or_not '?' text with ⟨rest, rfl⟩ | hne
  · exact .stops rfl fun _ _ => rfl
  · exact .stops (hother hne) fun z _ => hother (append_close_ne (by decide) hne)

/-- The number that digits stand for. -/
def decimal (digits : List Char) : Nat := digits.foldl (fun n d => 10 * n + (d.toNat - '0'.toNat)) 0

/-- The number with digits that are read, if they are some and not too many. -/
def count? (digits : List Char) : Option Nat :=
  if digits.isEmpty || Nat.pow 2 32 ≤ decimal digits then none else some (decimal digits)

/-- What is behind the blanks behind a number. -/
def pastBlanks (flags : Flags) (text : List Char) : List Char :=
  if flags.verbose then text else text.dropWhile Text.isSpace

lemma pastBlanks_closing {z : List Char} :
    pastBlanks flags (text ++ ')' :: z) = pastBlanks flags text ++ ')' :: z := by
  unfold pastBlanks
  split
  · rfl
  · exact dropWhile_closing rfl

lemma seen_readCount? :
    (readCount? flags text).map Taken.seen =
      (some (spanSpaced flags.verbose Char.isDigit (text.dropWhile Text.isSpace)).seen).bind
        fun t => (count? t.1).map (·, pastBlanks flags t.2) := by
  have hstart : (Taken.whole text ()).skipSpace.rest = text.dropWhile Text.isSpace :=
    drop_length_takeWhile
  unfold readCount?
  rw [← hstart]
  generalize (Taken.whole text ()).skipSpace = start
  dsimp only [Option.bind_some, Taken.seen, count?, pastBlanks]
  by_cases hrefused : ((spanSpaced flags.verbose Char.isDigit start.rest).value.isEmpty ||
      decide (Nat.pow 2 32 ≤
        decimal (spanSpaced flags.verbose Char.isDigit start.rest).value)) = true
  · rw [if_pos hrefused]
    exact congrArg (Option.map Taken.seen) (if_pos hrefused)
  · rw [if_neg hrefused]
    refine (congrArg (Option.map Taken.seen) (if_neg hrefused)).trans ?_
    cases flags.verbose with
    | true => rfl
    | false => exact congrArg (fun rest => some (_, rest)) drop_length_takeWhile

theorem meets_readCount? (flags : Flags) (text : List Char) :
    Meets (fun _ _ => False) (fun text => (readCount? flags text).map Taken.seen) text := by
  have hcount : ∀ digits rest, Meets (fun (_ : Nat) _ => False)
      (fun rest => (count? digits).map (·, pastBlanks flags rest)) rest := fun digits rest =>
    (Meets.of_option (count? digits) (pastBlanks flags rest)).of_eq rfl
      fun z _ => by rw [pastBlanks_closing]
  have hdigits : Meets (fun (_ : Nat) _ => False) (fun text =>
      (some (spanSpaced flags.verbose Char.isDigit text).seen).bind
        fun t => (count? t.1).map (·, pastBlanks flags t.2)) (text.dropWhile Text.isSpace) := by
    refine (meets_spanSpaced rfl _).bind hcount ?_ fun _ _ hlost => hlost.elim
    rintro digits n rest hread
    obtain ⟨_, -, heq⟩ := Option.map_eq_some_iff.mp hread
    obtain ⟨-, rfl⟩ := Prod.mk.inj heq
    exact ite_self _
  exact hdigits.of_eq seen_readCount? fun z _ => by rw [seen_readCount?, dropWhile_closing rfl]

/-- The bounds with an upper one that is read, at the brace behind it. -/
def upperAt? (least most : Nat) : List Char → Option ((Nat × Option Nat) × List Char)
  | '\x7d' :: rest => if least ≤ most then some ((least, some most), rest) else none
  | _ => none

lemma seen_readUpper?_of_ne {least : Nat} (h : ∀ rest, text ≠ '\x7d' :: rest) :
    (readUpper? flags least text).map Taken.seen =
      ((readCount? flags text).map Taken.seen).bind fun t => upperAt? least t.1 t.2 := by
  rw [readUpper?]
  · cases readCount? flags text with
    | none => rfl
    | some most =>
      dsimp only [Option.bind_eq_bind, Option.bind_some, Option.map_some, Taken.seen]
      split
      · next rest hclose =>
        conv_rhs => rw [hclose, upperAt?]
        split <;> rfl
      · next hopen =>
        rw [upperAt?]
        · rfl
        · exact hopen
  · exact h

lemma meets_upperAt? (least most : Nat) (text : List Char) :
    Meets (fun _ _ => False) (upperAt? least most) text := by
  cases text with
  | nil => exact .of_none rfl rfl
  | cons c rest =>
    by_cases hc : c = '\x7d'
    · subst hc
      by_cases hle : least ≤ most
      · exact .stops (if_pos hle) fun _ _ => if_pos hle
      · exact .of_none (if_neg hle) (if_neg hle)
    · exact .of_none (by simp [upperAt?, hc]) (by simp [upperAt?, hc])

lemma meets_readUpper? (flags : Flags) (least : Nat) (text : List Char) :
    Meets (fun _ _ => False) (fun text => (readUpper? flags least text).map Taken.seen) text := by
  rcases begins_or_not '\x7d' text with ⟨rest, rfl⟩ | hne
  · exact .stops rfl fun _ _ => rfl
  · have hupper := (meets_readCount? flags text).bind (meets_upperAt? least)
      (fun _ _ _ hread => nomatch hread) fun _ _ hlost => hlost.elim
    exact hupper.of_eq (seen_readUpper?_of_ne hne)
      fun _ _ => seen_readUpper?_of_ne (append_close_ne (by decide) hne)

/-- The bounds with a lower one that is read, at what is behind it. -/
def boundsAt? (flags : Flags) (least : Nat) : List Char → Option ((Nat × Option Nat) × List Char)
  | '\x7d' :: rest => some ((least, some least), rest)
  | ',' :: rest => (readUpper? flags least (gap flags.verbose rest)).map Taken.seen
  | _ => none

lemma seen_readBounds? :
    (readBounds? flags text).map Taken.seen =
      ((readCount? flags (gap flags.verbose text)).map Taken.seen).bind
        fun t => boundsAt? flags t.1 t.2 := by
  dsimp only [readBounds?, Taken.skipGap, Taken.whole]
  cases readCount? flags (gap flags.verbose text) with
  | none => rfl
  | some least =>
    dsimp only [Option.bind_eq_bind, Option.bind_some, Option.map_some, Taken.seen, Taken.andThen]
    split
    · next rest hclose =>
      conv_rhs => rw [hclose]
      rfl
    · next rest hcomma =>
      conv_rhs => rw [hcomma]
      dsimp only [Taken.past]
      change _ = (readUpper? flags least.value (gap flags.verbose rest)).map Taken.seen
      cases readUpper? flags least.value (gap flags.verbose rest) <;> rfl
    · next hclose hcomma =>
      rw [boundsAt?]
      · rfl
      · exact hclose
      · exact hcomma

lemma meets_boundsAt? (flags : Flags) (least : Nat) (text : List Char) :
    Meets (fun _ _ => False) (boundsAt? flags least) text := by
  cases text with
  | nil => exact .of_none rfl rfl
  | cons c rest =>
    by_cases hclose : c = '\x7d'
    · subst hclose
      exact .stops rfl fun _ _ => rfl
    · by_cases hcomma : c = ','
      · subst hcomma
        have hupper : Meets (fun _ _ => False) (fun rest =>
            (readUpper? flags least (gap flags.verbose rest)).map Taken.seen) rest :=
          (meets_readUpper? flags least _).gap fun _ _ hread => Taken.rest_eq_nil_of_seen hread
        exact hupper.of_eq rfl fun _ _ => rfl
      · exact .of_none (by simp [boundsAt?, hclose, hcomma]) (by simp [boundsAt?, hclose, hcomma])

theorem meets_readBounds? (flags : Flags) (text : List Char) :
    Meets (fun _ _ => False) (fun text => (readBounds? flags text).map Taken.seen) text := by
  have hnil : (readCount? flags []).map Taken.seen = none := by
    rw [seen_readCount?, List.dropWhile_nil, seen_spanSpaced, gap_nil]
    rfl
  have hbounds := (meets_readCount? flags (gap flags.verbose text)).bind (meets_boundsAt? flags)
    (fun _ _ _ hread => nomatch hread) fun _ _ hlost => hlost.elim
  refine (hbounds.gap fun _ _ hread => ?_).of_eq seen_readBounds? fun _ _ => seen_readBounds?
  rw [hnil] at hread
  cases hread

/-! ### Groups -/

variable {st : State}

/-- The state inside a group with a name, if it may have that name. -/
def namedInside? (st : State) : List Char → Option State
  | [] => none
  | first :: others =>
    if isNameChar true first && others.all (isNameChar false) &&
        !st.names.contains (first :: others) then
      some { st.enterNumbered with names := (first :: others) :: st.names }
    else none

lemma seen_enterNamed? :
    (enterNamed? st text).map Taken.seen =
      (enclosed? false '>' text).bind (Taken.giving? (namedInside? st)) := by
  have hbehind : ((Taken.whole text ()).drop (text.takeWhile (· != '>')).length).rest =
      text.dropWhile (· != '>') := drop_length_takeWhile
  rw [enclosed?_false, ← hbehind, enterNamed?]
  dsimp only
  generalize (Taken.whole text ()).drop (text.takeWhile (· != '>')).length = behind
  generalize text.takeWhile (· != '>') = name
  split
  · next hclose =>
    rw [hclose]
    rfl
  · next c rest hclose =>
    conv_rhs => rw [hclose]
    cases name with
    | nil => rfl
    | cons first others =>
      dsimp only [Option.bind_some, Taken.giving?, namedInside?]
      split <;> rfl

lemma meets_enterNamed? (st : State) (text : List Char) :
    Meets (fun _ _ => False) (fun text => (enterNamed? st text).map Taken.seen) text :=
  ((meets_enclosed? (by decide) (by decide) text).giving? fun _ _ hlost => hlost.elim).of_eq
    seen_enterNamed? fun _ _ => seen_enterNamed?

/-- The state behind flags and the character that ends them. -/
def flagged? (st : State) (letters : List Char) (c : Char) : Option State :=
  (st.flags.change? letters).bind fun flags =>
    if c = ':' then some (st.enter flags)
    else if letters.isEmpty then none
    else some { st with flags, group := st.group.add .directive }

/-- The state behind flags that are read, at what is behind them. -/
def flaggedAt? (st : State) (letters : List Char) : List Char → Option (State × List Char)
  | [] => none
  | c :: rest => (flagged? st letters c).map (·, rest)

lemma seen_enterFlagged? :
    (enterFlagged? st text).map Taken.seen =
      (some (spanSpaced false (fun c => c != ':' && c != ')') text).seen).bind
        fun t => flaggedAt? st t.1 t.2 := by
  have hbehind : ((Taken.whole text ()).drop
      (text.takeWhile fun c => c != ':' && c != ')').length).rest =
        text.dropWhile fun c => c != ':' && c != ')' := drop_length_takeWhile
  rw [seen_spanSpaced_false, Option.bind_some, ← hbehind, enterFlagged?]
  dsimp only
  generalize (Taken.whole text ()).drop
    (text.takeWhile fun c => c != ':' && c != ')').length = behind
  generalize (text.takeWhile fun c => c != ':' && c != ')') = letters
  split
  · next hclose =>
    rw [hclose]
    rfl
  · next c rest hclose =>
    conv_rhs => rw [hclose, flaggedAt?, flagged?]
    cases st.flags.change? letters with
    | none => rfl
    | some flags =>
      dsimp only [Option.bind_some]
      split
      · rfl
      · split <;> rfl

lemma meets_flaggedAt? (st : State) (letters text : List Char) :
    Meets (fun _ rest => rest = ['$']) (flaggedAt? st letters) text := by
  cases text with
  | nil => exact .refuses rfl fun _ _ hread => Taken.rest_eq_of_map hread
  | cons c rest => exact (Meets.of_option _ rest).of_eq rfl fun _ _ => rfl

lemma meets_enterFlagged? (st : State) (text : List Char) :
    Meets (fun _ rest => rest = ['$'])
      (fun text => (enterFlagged? st text).map Taken.seen) text := by
  have hletters : Meets (fun _ _ => False)
      (fun text => some (spanSpaced false (fun c => c != ':' && c != ')') text).seen) text :=
    meets_spanSpaced rfl text
  have hflags := hletters.bind (meets_flaggedAt? st) (fun _ _ _ hread => nomatch hread)
    fun _ _ hlost => hlost.elim
  exact hflags.of_eq seen_enterFlagged? fun _ _ => seen_enterFlagged?

/-- What is behind the question mark at the beginning of a group. -/
def questionAt? (st : State) : List Char → Option (State × List Char)
  | '=' :: _ => none
  | '!' :: _ => none
  | '<' :: '=' :: _ => none
  | '<' :: '!' :: _ => none
  | 'P' :: '<' :: rest => (enterNamed? st rest).map Taken.seen
  | '<' :: rest => (enterNamed? st rest).map Taken.seen
  | rest => (enterFlagged? st rest).map Taken.seen

lemma seen_enterAt?_question :
    (enterAt? st ('?' :: text)).map Taken.seen = questionAt? st text := by
  unfold questionAt?
  split
  · rfl
  · rfl
  · rfl
  · rfl
  · next rest =>
    rw [enterAt?]
    cases enterNamed? st rest <;> rfl
  · next rest hequals hbang =>
    rw [enterAt?]
    · cases enterNamed? st rest <;> rfl
    · exact hequals
    · exact hbang
  · next rest hequals hbang hltequals hltbang hnamed hlt =>
    rw [enterAt?]
    · cases enterFlagged? st text <;> rfl
    · exact hequals
    · exact hbang
    · exact hltequals
    · exact hltbang
    · exact hnamed
    · exact hlt

lemma seen_enterAt?_of_ne (h : ∀ rest, text ≠ '?' :: rest) :
    (enterAt? st text).map Taken.seen = some (st.enterNumbered, text) := by
  unfold enterAt?
  split
  all_goals first | rfl | exact absurd rfl (h _)

/-- Flags are read where nothing else is meant. -/
lemma questionAt?_flagged (hequals : ∀ rest, text ≠ '=' :: rest)
    (hbang : ∀ rest, text ≠ '!' :: rest) (hlt : ∀ rest, text ≠ '<' :: rest)
    (hnamed : ∀ rest, text ≠ 'P' :: '<' :: rest) :
    questionAt? st text = (enterFlagged? st text).map Taken.seen := by
  rw [questionAt?]
  · exact hequals
  · exact hbang
  · exact fun rest => hlt _
  · exact fun rest => hlt _
  · exact hnamed
  · exact hlt

lemma meets_questionAt?_flagged (hequals : ∀ rest, text ≠ '=' :: rest)
    (hbang : ∀ rest, text ≠ '!' :: rest) (hlt : ∀ rest, text ≠ '<' :: rest)
    (hnamed : ∀ rest, text ≠ 'P' :: '<' :: rest) :
    Meets (fun _ rest => rest = ['$']) (questionAt? st) text := by
  refine (meets_enterFlagged? st text).of_eq (questionAt?_flagged hequals hbang hlt hnamed)
    fun z _ => questionAt?_flagged (append_close_ne (by decide) hequals)
      (append_close_ne (by decide) hbang) (append_close_ne (by decide) hlt) fun rest heq => ?_
  cases text with
  | nil => cases heq
  | cons c text =>
    obtain ⟨rfl, hrest⟩ := List.cons.inj heq
    exact append_close_ne (by decide)
      (fun rest htext => hnamed rest (congrArg ('P' :: ·) htext)) rest hrest

lemma meets_questionAt?_lt (st : State) (text : List Char) :
    Meets (fun _ rest => rest = ['$']) (questionAt? st) ('<' :: text) := by
  have hname : Meets (fun _ rest => rest = ['$'])
      (fun text => (enterNamed? st text).map Taken.seen) text :=
    (meets_enterNamed? st text).mono fun _ _ hlost => hlost.elim
  cases text with
  | nil => exact hname.of_eq rfl fun _ _ => rfl
  | cons c rest =>
    by_cases hquestion : c = '=' ∨ c = '!'
    · rcases hquestion with rfl | rfl
      · exact .of_none rfl rfl
      · exact .of_none rfl rfl
    · obtain ⟨hequals, hbang⟩ := not_or.mp hquestion
      exact hname.of_eq (by simp [questionAt?, hequals, hbang])
        fun _ _ => by simp [questionAt?, hequals, hbang]

lemma meets_questionAt? (st : State) (text : List Char) :
    Meets (fun _ rest => rest = ['$']) (questionAt? st) text := by
  rcases begins_or_not '=' text with ⟨rest, rfl⟩ | hequals
  · exact .of_none rfl rfl
  rcases begins_or_not '!' text with ⟨rest, rfl⟩ | hbang
  · exact .of_none rfl rfl
  rcases begins_or_not '<' text with ⟨rest, rfl⟩ | hlt
  · exact meets_questionAt?_lt st rest
  by_cases hnamed : ∃ rest, text = 'P' :: '<' :: rest
  · obtain ⟨rest, rfl⟩ := hnamed
    exact ((meets_enterNamed? st rest).mono fun _ _ hlost => hlost.elim).of_eq rfl fun _ _ => rfl
  · exact meets_questionAt?_flagged hequals hbang hlt (not_exists.mp hnamed)

theorem meets_enterAt? (st : State) (text : List Char) :
    Meets (fun _ rest => rest = ['$']) (fun text => (enterAt? st text).map Taken.seen) text := by
  rcases begins_or_not '?' text with ⟨rest, rfl⟩ | hne
  · exact (meets_questionAt? st rest).of_eq seen_enterAt?_question fun _ _ => seen_enterAt?_question
  · exact .stops (seen_enterAt?_of_ne hne)
      fun z _ => seen_enterAt?_of_ne (append_close_ne (by decide) hne)

lemma seen_enter? :
    (enter? st text).map Taken.seen =
      (enterAt? st (gap st.flags.verbose text)).map Taken.seen := by
  dsimp only [enter?, Taken.skipGap, Taken.whole]
  cases enterAt? st (gap st.flags.verbose text) <;> rfl

theorem meets_enter? (st : State) (text : List Char) :
    Meets (fun _ rest => rest = ['$']) (fun text => (enter? st text).map Taken.seen) text :=
  ((meets_enterAt? st _).gap fun _ _ hread => Taken.rest_eq_nil_of_seen hread).of_eq seen_enter?
    fun _ _ => seen_enter?

/-! ### Rounds -/

/-- How a round gets lost: there is a dollar sign left, or a brace with a gap and then the
parenthesis, which are no bounds. -/
def StepLost (st next : State) (rest : List Char) : Prop :=
  rest = ['$'] ∨
    next.flags = st.flags ∧
      ∃ left, rest = '\x7b' :: left ∧ gap st.flags.verbose left = [')', '$']

/-- The state with its last piece repeated. -/
def repeat? (st : State) (bounds : Nat × Option Nat) (turned : Bool) : Option State :=
  (st.group.modifyLast? (·.repeated bounds.1 bounds.2 (st.flags.short != turned))).map
    fun group => { st with group }

lemma seen_step?_close :
    (step? st ')' rest).map Taken.seen = st.leave?.map (·, rest) := by
  change (st.leave?.map (Taken.whole rest)).map Taken.seen = _
  cases st.leave? <;> rfl

lemma seen_step?_branch :
    (step? st '|' rest).map Taken.seen = some ({ st with group := st.group.branch }, rest) := rfl

/-- The state with a class. -/
def pushClass (st : State) (whole : Nested) : State :=
  st.push (.ofSet st.flags whole.set whole.height)

lemma seen_step?_class :
    (step? st '[' rest).map Taken.seen =
      (((openBracket? st.flags rest).map Taken.seen).bind
        fun t => classOf? st.flags [.bracket {} t.1.1] t.1.2 t.2).bind
          (Taken.giving? fun whole => some (pushClass st whole)) := by
  rw [step?, if_neg (by decide), if_neg (by decide), if_neg (by decide), if_pos rfl]
  cases openBracket? st.flags rest with
  | none => rfl
  | some opened =>
    dsimp only [Option.bind_eq_bind, Option.bind_some, Option.map_some, Taken.seen]
    rw [← seen_readClass? [.bracket {} opened.value.1] opened.value.2 opened.rest opened.bounded]
    cases readClass? st.flags rest.length [.bracket {} opened.value.1] opened.value.2 opened.rest
      opened.bounded <;> rfl

lemma seen_step?_brace :
    (step? st '\x7b' rest).map Taken.seen =
      ((readBounds? st.flags rest).map Taken.seen).bind
        fun t => (some (readTurned (gap st.flags.verbose t.2)).seen).bind
          (Taken.giving? (repeat? st t.1)) := by
  rw [step?, if_neg (by decide), if_neg (by decide), if_neg (by decide), if_neg (by decide),
    if_pos rfl]
  cases readBounds? st.flags rest with
  | none => rfl
  | some bounds =>
    dsimp only [Option.bind_eq_bind, Option.bind_some, Option.map_some, Taken.seen, Taken.giving?,
      repeat?, Taken.andThen, Taken.skipGap]
    cases st.group.modifyLast? _ <;> rfl

lemma seen_step?_escape :
    (step? st '\\' rest).map Taken.seen =
      ((readEscape? st.flags rest).map Taken.seen).bind
        (Taken.giving? fun symbol => (symbol? st.flags symbol).map st.push) := by
  rw [step?, if_neg (by decide), if_neg (by decide), if_neg (by decide), if_neg (by decide),
    if_neg (by decide), if_pos rfl]
  cases readEscape? st.flags rest with
  | none => rfl
  | some symbol =>
    dsimp only [Option.bind_eq_bind, Option.bind_some, Option.map_some, Taken.seen, Taken.giving?]
    cases symbol? st.flags symbol.value <;> rfl

/-- The characters that begin a construct of several. -/
def constructChars : List Char := ['(', ')', '|', '[', '\x7b', '\\']

lemma seen_step?_short {bounds : Nat × Option Nat} (hc : c ∉ constructChars)
    (hbounds : shortBounds? c = some bounds) :
    (step? st c rest).map Taken.seen =
      (some (readTurned rest).seen).bind (Taken.giving? (repeat? st bounds)) := by
  simp only [constructChars, List.mem_cons, List.not_mem_nil, or_false, not_or] at hc
  simp only [step?, hc, if_false, hbounds, Option.bind_some, Taken.giving?, repeat?, Taken.seen,
    Option.bind_eq_bind]
  cases st.group.modifyLast? _ <;> rfl

/-- What any other character stands for by itself. -/
def alone? (flags : Flags) (c : Char) : Option Piece :=
  if c = '.' then dot? flags
  else if c = '^' then some (.ofAssertion (caret flags))
  else if c = '$' then some (.ofAssertion (dollar flags))
  else literal? flags c false

lemma seen_step?_alone (hc : c ∉ constructChars) (hbounds : shortBounds? c = none) :
    (step? st c rest).map Taken.seen = ((alone? st.flags c).map st.push).map (·, rest) := by
  simp only [constructChars, List.mem_cons, List.not_mem_nil, or_false, not_or] at hc
  simp only [step?, hc, if_false, hbounds, Option.map_map, alone?]
  rfl

lemma meets_step?_class (st : State) (rest : List Char) :
    Meets (StepLost st) (fun rest => (step? st '[' rest).map Taken.seen) rest := by
  have hclass : Meets (fun _ _ => False) (fun rest =>
      ((openBracket? st.flags rest).map Taken.seen).bind
        fun t => classOf? st.flags [.bracket {} t.1.1] t.1.2 t.2) rest := by
    refine (meets_openBracket? st.flags rest).bind
      (fun opened left => meets_classOf? st.flags [.bracket {} opened.1] opened.2 left)
      (fun _ _ _ hread => nomatch classOf?_nil.symm.trans hread) ?_
    rintro opened left hlost whole left' hread
    rw [classOf?_of_lost (.inl hlost)] at hread
    cases hread
  exact (hclass.giving? fun _ _ hlost => hlost.elim).of_eq seen_step?_class
    fun _ _ => seen_step?_class

lemma meets_step?_brace (st : State) (rest : List Char) :
    Meets (StepLost st) (fun rest => (step? st '\x7b' rest).map Taken.seen) rest := by
  have hturned : ∀ bounds left, Meets (StepLost st) (fun left =>
      (some (readTurned (gap st.flags.verbose left)).seen).bind
        (Taken.giving? (repeat? st bounds))) left := by
    intro bounds left
    have hmark : Meets (fun _ _ => False)
        (fun left => some (readTurned (gap st.flags.verbose left)).seen) left :=
      (meets_readTurned _).gap fun _ _ hread => by cases hread; rfl
    exact hmark.giving? fun _ _ hlost => hlost.elim
  have hbounds : Meets (StepLost st) (fun rest =>
      ((readBounds? st.flags rest).map Taken.seen).bind
        fun t => (some (readTurned (gap st.flags.verbose t.2)).seen).bind
          (Taken.giving? (repeat? st t.1))) rest := by
    refine (meets_readBounds? st.flags rest).bind hturned ?_ fun _ _ hlost => hlost.elim
    rintro bounds next left hread
    rw [gap_nil] at hread
    exact Taken.rest_eq_of_map hread
  exact hbounds.of_eq seen_step?_brace fun _ _ => seen_step?_brace

lemma meets_step?_escape (st : State) (rest : List Char) :
    Meets (StepLost st) (fun rest => (step? st '\\' rest).map Taken.seen) rest := by
  refine Meets.of_eq (Meets.giving? (meets_readEscape? st.flags rest) ?_) seen_step?_escape
    fun _ _ => seen_step?_escape
  rintro symbol left (hlost | ⟨⟨a, rfl⟩, hbrace⟩) next hnext
  · exact .inl hlost
  · cases hnext
    exact .inr ⟨rfl, hbrace⟩

/-- **A round meets a closing parenthesis** by leaving it, by passing over it in a comment, or by
refusing the text. -/
theorem meets_step? (st : State) (c : Char) (rest : List Char) :
    Meets (StepLost st) (fun rest => (step? st c rest).map Taken.seen) rest := by
  by_cases hc : c ∈ constructChars
  · simp only [constructChars, List.mem_cons, List.not_mem_nil, or_false] at hc
    rcases hc with rfl | rfl | rfl | rfl | rfl | rfl
    · exact ((meets_enter? st rest).mono fun _ _ => .inl).of_eq rfl fun _ _ => rfl
    · exact (Meets.of_option st.leave? rest).of_eq seen_step?_close fun _ _ => seen_step?_close
    · exact .stops seen_step?_branch fun _ _ => seen_step?_branch
    · exact meets_step?_class st rest
    · exact meets_step?_brace st rest
    · exact meets_step?_escape st rest
  · cases hbounds : shortBounds? c with
    | some bounds =>
      exact ((meets_readTurned rest).giving? fun _ _ hlost => hlost.elim).of_eq
        (seen_step?_short hc hbounds) fun _ _ => seen_step?_short hc hbounds
    | none =>
      exact (Meets.of_option _ rest).of_eq (seen_step?_alone hc hbounds)
        fun _ _ => seen_step?_alone hc hbounds

end Regex

end TreeSchema
