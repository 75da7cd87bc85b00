/-
What a round of the reading does to the state.

A round looks at the text and at the flags, and what it finds is a move: to enter a group, to end a
branch, to change the flags, to take up a piece or to repeat the last one.  The rest of the state is
looked at only when the move is made.  `moves_step?` says so once for all constructs but the end
of a group, so what is to be said about a round has to be said about seven moves and `State.leave?`.
-/
import TreeSchema.Proofs.Regex.Closing.Steps
import TreeSchema.Proofs.Regex.Search

namespace TreeSchema

namespace Regex

/-- What a construct does to the state. -/
inductive Move where
  | enter (flags : Flags)
  | enterNumbered
  | enterNamed (name : List Char)
  | change (flags : Flags)
  | branch
  | push (p : Piece)
  | repeated (bounds : Nat × Option Nat) (turned : Bool)

namespace Move

/-- The state behind a move, if it can be made. -/
def make? (st : State) : Move → Option State
  | enter flags => some (st.enter flags)
  | enterNumbered => some st.enterNumbered
  | enterNamed name =>
    if st.names.contains name then none
    else some { st.enterNumbered with names := name :: st.names }
  | change flags => some { st with flags, group := st.group.add .directive }
  | branch => some { st with group := st.group.branch }
  | push p => some (st.push p)
  | repeated bounds turned => repeat? st bounds turned

/-- The bounds of repetitions are in order in what a move adds. -/
def Ordered : Move → Prop
  | push p => p.regex.Ordered
  | repeated bounds _ => ∀ most, bounds.2 = some most → bounds.1 ≤ most
  | _ => True

end Move

variable {flags : Flags} {text rest : List Char} {c : Char}

/-- The flags and the text decide which move is made. -/
def Moves (flags : Flags) (read : State → Option (State × List Char)) : Prop :=
  ∃ move? : Option (Move × List Char),
    (∀ st : State, st.flags = flags → read st = move?.bind (Taken.giving? (·.make? st))) ∧
      ∀ move rest, move? = some (move, rest) → move.Ordered

namespace Moves

variable {α : Type} {read read' : State → Option (State × List Char)}

lemma of_eq (h : Moves flags read') (heq : ∀ st : State, st.flags = flags → read st = read' st) :
    Moves flags read := by
  obtain ⟨move?, hmove, hordered⟩ := h
  exact ⟨move?, fun st hst => (heq st hst).trans (hmove st hst), hordered⟩

lemma of_none (h : ∀ st : State, st.flags = flags → read st = none) : Moves flags read :=
  ⟨none, h, fun _ _ heq => nomatch heq⟩

/-- One move is made. -/
lemma of_move (move : Move) (hordered : move.Ordered)
    (h : ∀ st : State, st.flags = flags → read st = (move.make? st).map (·, rest)) :
    Moves flags read :=
  ⟨some (move, rest), h, fun _ _ heq => (Prod.mk.inj (Option.some.inj heq)).1 ▸ hordered⟩

/-- The move is found in what is read. -/
lemma of_giving? (found? : Option (α × List Char)) (choose? : α → Option Move)
    (hordered : ∀ v left move, found? = some (v, left) → choose? v = some move → move.Ordered)
    (h : ∀ st : State, st.flags = flags → read st =
      found?.bind (Taken.giving? fun v => (choose? v).bind (·.make? st))) :
    Moves flags read := by
  refine ⟨found?.bind (Taken.giving? choose?), fun st hst => ?_, fun move left heq => ?_⟩
  · rw [h st hst, Option.bind_assoc]
    cases found? with
    | none => rfl
    | some t => cases hchoose : choose? t.1 <;> simp [Taken.giving?, hchoose]
  · obtain ⟨⟨v, rest⟩, hfound, heq⟩ := Option.bind_eq_some_iff.mp heq
    obtain ⟨move', hchoose, heq⟩ := Option.map_eq_some_iff.mp heq
    obtain ⟨rfl, -⟩ := Prod.mk.inj heq
    exact hordered v rest _ hfound hchoose

end Moves

/-! ### Groups -/

/-- The move behind a name. -/
def named? : List Char → Option Move
  | [] => none
  | first :: others =>
    if isNameChar true first && others.all (isNameChar false) then
      some (.enterNamed (first :: others))
    else none

lemma moves_enterNamed? (flags : Flags) (text : List Char) :
    Moves flags fun st => (enterNamed? st text).map Taken.seen := by
  refine .of_giving? (enclosed? false '>' text) named? ?_ fun st _ => ?_
  · rintro (_ | ⟨first, others⟩) left move - heq
    · cases heq
    · obtain ⟨-, heq⟩ := Option.ite_none_right_eq_some.mp heq
      cases heq
      trivial
  · rw [seen_enterNamed?]
    congr 2
    funext name
    cases name with
    | nil => rfl
    | cons first others =>
      simp only [namedInside?, named?]
      cases isNameChar true first && others.all (isNameChar false) with
      | false => rfl
      | true =>
        rw [if_pos rfl, Option.bind_some, Move.make?]
        cases st.names.contains (first :: others) <;> rfl

/-- The move behind flags, at the character that ends them. -/
def flagging? (flags : Flags) (letters : List Char) (c : Char) : Option Move :=
  (flags.change? letters).bind fun flags =>
    if c = ':' then some (.enter flags)
    else if letters.isEmpty then none
    else some (.change flags)

lemma flagged?_eq {st : State} {letters : List Char} :
    flagged? st letters c = (flagging? st.flags letters c).bind (·.make? st) := by
  rw [flagged?, flagging?, Option.bind_assoc]
  congr 1
  funext flags
  split
  · rfl
  · split <;> rfl

lemma ordered_flagging? {letters : List Char} {move : Move}
    (h : flagging? flags letters c = some move) : move.Ordered := by
  obtain ⟨flags', -, h⟩ := Option.bind_eq_some_iff.mp h
  split at h
  · cases h
    trivial
  · split at h
    · cases h
    · cases h
      trivial

lemma moves_enterFlagged? (flags : Flags) (text : List Char) :
    Moves flags fun st => (enterFlagged? st text).map Taken.seen := by
  refine Moves.of_eq ?_ fun _ _ => seen_enterFlagged?
  obtain ⟨letters, left⟩ := (spanSpaced false (fun c => c != ':' && c != ')') text).seen
  cases left with
  | nil => exact .of_none fun _ _ => rfl
  | cons c rest =>
    refine .of_giving? (some (letters, rest)) (flagging? flags · c)
      (fun _ _ _ _ => ordered_flagging?) fun st hst => ?_
    subst hst
    rw [Option.bind_some, flaggedAt?, flagged?_eq]
    rfl

lemma moves_questionAt? (flags : Flags) (text : List Char) :
    Moves flags fun st => questionAt? st text := by
  unfold questionAt?
  split
  · exact .of_none fun _ _ => rfl
  · exact .of_none fun _ _ => rfl
  · exact .of_none fun _ _ => rfl
  · exact .of_none fun _ _ => rfl
  · exact moves_enterNamed? flags _
  · exact moves_enterNamed? flags _
  · exact moves_enterFlagged? flags text

lemma moves_enterAt? (flags : Flags) (text : List Char) :
    Moves flags fun st => (enterAt? st text).map Taken.seen := by
  rcases begins_or_not '?' text with ⟨rest, rfl⟩ | hne
  · exact (moves_questionAt? flags rest).of_eq fun _ _ => seen_enterAt?_question
  · exact .of_move .enterNumbered trivial fun _ _ => seen_enterAt?_of_ne hne

lemma moves_enter? (flags : Flags) (text : List Char) :
    Moves flags fun st => (enter? st text).map Taken.seen :=
  (moves_enterAt? flags (gap flags.verbose text)).of_eq fun st hst => by rw [seen_enter?, hst]

/-! ### Repetition -/

lemma ordered_readUpper? {least : Nat} {bounds : Nat × Option Nat}
    (h : (readUpper? flags least text).map Taken.seen = some (bounds, rest)) :
    ∀ most, bounds.2 = some most → bounds.1 ≤ most := by
  rcases begins_or_not '\x7d' text with ⟨left, rfl⟩ | hne
  · cases h
    exact fun _ heq => nomatch heq
  · rw [seen_readUpper?_of_ne hne] at h
    obtain ⟨⟨most, left⟩, -, h⟩ := Option.bind_eq_some_iff.mp h
    unfold upperAt? at h
    split at h
    · obtain ⟨hle, heq⟩ := Option.ite_none_right_eq_some.mp h
      cases heq
      rintro _ ⟨⟩
      exact hle
    · cases h

/-- Bounds that are read are in order. -/
lemma ordered_readBounds? {bounds : Nat × Option Nat}
    (h : (readBounds? flags text).map Taken.seen = some (bounds, rest)) :
    ∀ most, bounds.2 = some most → bounds.1 ≤ most := by
  rw [seen_readBounds?] at h
  obtain ⟨⟨least, left⟩, -, h⟩ := Option.bind_eq_some_iff.mp h
  unfold boundsAt? at h
  split at h
  · cases h
    rintro _ ⟨⟩
    exact le_rfl
  · exact ordered_readUpper? h
  · cases h

lemma ordered_shortBounds? {bounds : Nat × Option Nat} (h : shortBounds? c = some bounds) :
    ∀ most, bounds.2 = some most → bounds.1 ≤ most := by
  unfold shortBounds? at h
  split at h
  · cases h
    rintro _ ⟨⟩
    exact Nat.zero_le 1
  · cases h
    exact fun _ heq => nomatch heq
  · cases h
    exact fun _ heq => nomatch heq
  · cases h

/-! ### Symbols -/

lemma ordered_literal? {byte : Bool} {p : Piece} (h : literal? flags c byte = some p) :
    p.regex.Ordered := by
  rw [literal?] at h
  split at h
  · cases h
    trivial
  · split at h
    · cases h
    · cases h
      trivial

lemma ordered_symbol? {symbol : Symbol} {p : Piece} (h : symbol? flags symbol = some p) :
    p.regex.Ordered := by
  cases symbol with
  | literal c byte => exact ordered_literal? h
  | set set =>
    cases h
    trivial
  | assertion a =>
    cases h
    trivial

lemma ordered_alone? {p : Piece} (h : alone? flags c = some p) : p.regex.Ordered := by
  rw [alone?] at h
  split at h
  · rw [dot?] at h
    split at h
    · cases h
    · cases h
      trivial
  · split at h
    · cases h
      trivial
    · split at h
      · cases h
        trivial
      · exact ordered_literal? h

/-! ### Rounds -/

/-- **The flags and the text decide which move a round makes** if it does not leave a group, and
repetitions in what it adds have their bounds in order. -/
theorem moves_step? (flags : Flags) (hclose : c ≠ ')') (rest : List Char) :
    Moves flags fun st => (step? st c rest).map Taken.seen := by
  by_cases hc : c ∈ constructChars
  · simp only [constructChars, List.mem_cons, List.not_mem_nil, or_false] at hc
    rcases hc with rfl | rfl | rfl | rfl | rfl | rfl
    · exact moves_enter? flags rest
    · exact absurd rfl hclose
    · exact .of_move .branch trivial fun _ _ => seen_step?_branch
    · refine .of_giving? (((openBracket? flags rest).map Taken.seen).bind
          fun t => classOf? flags [.bracket {} t.1.1] t.1.2 t.2)
        (fun whole => some (.push (.ofSet flags whole.set whole.height))) ?_ fun st hst => ?_
      · rintro whole left move - heq
        cases heq
        trivial
      · subst hst
        exact seen_step?_class
    · refine .of_giving? (((readBounds? flags rest).map Taken.seen).bind fun t =>
          (some (readTurned (gap flags.verbose t.2)).seen).bind
            (Taken.giving? fun turned => some (t.1, turned)))
        (fun t => some (.repeated t.1 t.2)) ?_ fun st hst => ?_
      · rintro ⟨bounds, turned⟩ left move hfound heq
        cases heq
        obtain ⟨⟨bounds', behind⟩, hbounds, hfound⟩ := Option.bind_eq_some_iff.mp hfound
        cases hfound
        exact ordered_readBounds? hbounds
      · subst hst
        rw [seen_step?_brace, Option.bind_assoc]
        rfl
    · refine .of_giving? ((readEscape? flags rest).map Taken.seen)
        (fun symbol => (symbol? flags symbol).map .push) ?_ fun st hst => ?_
      · rintro symbol left move - heq
        obtain ⟨p, hp, rfl⟩ := Option.map_eq_some_iff.mp heq
        exact ordered_symbol? hp
      · subst hst
        rw [seen_step?_escape]
        congr 2
        funext symbol
        cases symbol? st.flags symbol <;> rfl
  · cases hbounds : shortBounds? c with
    | some bounds =>
      refine .of_giving? (some (readTurned rest).seen)
        (fun turned => some (.repeated bounds turned)) ?_ fun _ _ => ?_
      · rintro turned left move - heq
        cases heq
        exact ordered_shortBounds? hbounds
      · exact seen_step?_short hc hbounds
    | none =>
      refine .of_giving? (some (c, rest)) (fun c => (alone? flags c).map .push) ?_ fun st hst => ?_
      · rintro c left move - heq
        obtain ⟨p, hp, rfl⟩ := Option.map_eq_some_iff.mp heq
        exact ordered_alone? hp
      · subst hst
        rw [seen_step?_alone hc hbounds]
        cases halone : alone? st.flags c <;> simp [Taken.giving?, halone, Move.make?]

end Regex

end TreeSchema
