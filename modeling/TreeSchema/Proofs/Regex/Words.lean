/-
Patterns that are written as a word between anchors.

Such a pattern can be had in two ways: as the pattern of one text, or from its source, which is read
as a regular expression with further anchors and a group around the word and its anchors.  The
reading is followed here step by step, one lemma for each sort of character that such a source has,
up to the expression that comes out (`spells_anchored`).  It is found in the word and in no other
text, so both ways give patterns that admit the same texts, whatever characters the word has.  Hence
patterns that are written the same cannot be told apart (`Constructed.admits_eq`).
-/
import TreeSchema.Proofs.Pattern
import TreeSchema.Proofs.Regex.Reading

namespace TreeSchema

namespace Regex

variable {st : State} {c : Char} {rest word text : List Char}

/-! ### Steps of the reading -/

lemma gap_of_flags (hflags : st.flags = {}) : gap st.flags.verbose text = text := by
  simp [gap, hflags]

/-- What a character is read as that stands for itself. -/
def letter (c : Char) : Piece := .ofSet {} (.single c) 0

lemma reach_plain (hflags : st.flags = {}) (hc : c ∉ metaChars) :
    st.reach (c :: rest) = (st.push (letter c)).reach rest := by
  have hspecial : ∀ d ∈ metaChars, c ≠ d := by
    rintro d hd rfl
    exact hc hd
  simp only [metaChars, List.forall_mem_cons] at hspecial
  -- whatever `step?` looks for first is a character with a meaning, and this is none of these
  have hshort : shortBounds? c = none := by
    unfold shortBounds?
    split <;> simp_all
  have hstep : step? st c rest = some (.whole rest (st.push (letter c))) := by
    simp [step?, hshort, hspecial, literal?, letter, foldCase, hflags]
  exact reach_step (gap_of_flags hflags) (by rw [hstep]; rfl)

/-- Behind a backslash a character with a meaning stands for itself. -/
lemma reach_escaped (hflags : st.flags = {}) (hc : c ∈ metaChars) :
    st.reach ('\\' :: c :: rest) = (st.push (letter c)).reach rest := by
  have hstep : (step? st '\\' (c :: rest)).map Taken.seen = some (st.push (letter c), rest) := by
    obtain ⟨outer, group, flags, names, numbered⟩ := st
    cases hflags
    simp only [metaChars, List.mem_cons, List.not_mem_nil, or_false] at hc
    rcases hc with rfl | rfl | rfl | rfl | rfl | rfl | rfl | rfl | rfl | rfl | rfl | rfl | rfl |
      rfl | rfl | rfl | rfl | rfl <;> rfl
  exact reach_step (gap_of_flags hflags) hstep

lemma reach_caret (hflags : st.flags = {}) :
    st.reach ('^' :: rest) = (st.push (.ofAssertion .textStart)).reach rest := by
  have hstep : step? st '^' rest = some (.whole rest (st.push (.ofAssertion .textStart))) := by
    simp [step?, shortBounds?, caret, hflags]
  exact reach_step (gap_of_flags hflags) (by rw [hstep]; rfl)

lemma reach_dollar (hflags : st.flags = {}) :
    st.reach ('$' :: rest) = (st.push (.ofAssertion .textEnd)).reach rest := by
  have hstep : step? st '$' rest = some (.whole rest (st.push (.ofAssertion .textEnd))) := by
    simp [step?, shortBounds?, dollar, hflags]
  exact reach_step (gap_of_flags hflags) (by rw [hstep]; rfl)

lemma reach_open (hflags : st.flags = {}) :
    st.reach ('(' :: '?' :: ':' :: rest) = (st.enter {}).reach rest := by
  have hstep : (step? st '(' ('?' :: ':' :: rest)).map Taken.seen = some (st.enter {}, rest) := by
    obtain ⟨outer, group, flags, names, numbered⟩ := st
    cases hflags
    rfl
  exact reach_step (gap_of_flags hflags) hstep

lemma reach_leave {st' : State} (hflags : st.flags = {}) (hleave : st.leave? = some st') :
    st.reach (')' :: rest) = st'.reach rest := by
  have hstep : step? st ')' rest = some (.whole rest st') := by
    simp [step?, hleave]
  exact reach_step (gap_of_flags hflags) (by rw [hstep]; rfl)

/-- The state behind a word. -/
def State.pushWord (st : State) (word : List Char) : State :=
  word.foldl (fun st c => st.push (letter c)) st

lemma escape_cons_of_mem (hc : c ∈ metaChars) : escape (c :: word) = '\\' :: c :: escape word := by
  simp [escape, hc]

lemma escape_cons_of_not_mem (hc : c ∉ metaChars) : escape (c :: word) = c :: escape word := by
  simp [escape, hc]

lemma reach_word (hflags : st.flags = {}) :
    st.reach (escape word ++ rest) = (st.pushWord word).reach rest := by
  induction word generalizing st with
  | nil => rfl
  | cons c word ih =>
    by_cases hc : c ∈ metaChars
    · rw [escape_cons_of_mem hc, List.cons_append, List.cons_append, reach_escaped hflags hc]
      exact ih hflags
    · rw [escape_cons_of_not_mem hc, List.cons_append, reach_plain hflags hc]
      exact ih hflags

lemma State.pushWord_eq : st.pushWord word =
    { st with group := { st.group with
      items := (word.map fun c => Item.piece (letter c)).reverse ++ st.group.items } } := by
  induction word generalizing st with
  | nil => rfl
  | cons c word ih =>
    have hcons : st.pushWord (c :: word) = (st.push (letter c)).pushWord word := rfl
    rw [hcons, ih]
    simp [State.push, Group.add]

/-! ### What is read -/

/-- Pieces in a row. -/
def rowOf (pieces : List Piece) : Piece := closeBranches [closeRow (pieces.reverse.map .piece)]

/-- A word between anchors. -/
def wordPiece (word : List Char) : Piece :=
  rowOf (.ofAssertion .textStart :: word.map letter ++ [.ofAssertion .textEnd])

/-- A word between anchors, in a group between anchors. -/
def anchoredPiece (word : List Char) : Piece :=
  rowOf [.ofAssertion .textStart, (wordPiece word).inGroup none, .ofAssertion .textEnd]

/-- An escaped word between anchors spells the word between anchors. -/
lemma spells_word (word : List Char) : Spells ('^' :: escape word ++ ['$']) (wordPiece word) := by
  rw [Spells, List.cons_append, reach_caret rfl, reach_word rfl, State.pushWord_eq,
    reach_dollar rfl, reach_nil]
  refine ⟨_, rfl, rfl, ?_⟩
  simp [wordPiece, rowOf, Group.close, State.push, Group.add, Function.comp_def]

/-- With a group between further anchors around it, it spells just that. -/
lemma spells_anchored (word : List Char) :
    Spells (Pattern.anchored ('^' :: escape word ++ ['$'])) (anchoredPiece word) := by
  have hsource : Pattern.anchored ('^' :: escape word ++ ['$']) =
      '^' :: '(' :: '?' :: ':' :: '^' :: (escape word ++ ['$', ')', '$']) := by
    simp [Pattern.anchored]
  rw [Spells, hsource, reach_caret rfl, reach_open rfl, reach_caret rfl, reach_word rfl,
    State.pushWord_eq, reach_dollar rfl, reach_leave rfl rfl, reach_dollar rfl, reach_nil]
  refine ⟨_, rfl, rfl, ?_⟩
  simp [anchoredPiece, wordPiece, rowOf, Group.close, State.push, Group.add, State.enter,
    Function.comp_def]

/-- What is spelled is parsed if it is neither too high nor too large. -/
lemma Spells.parse?_eq {e : Piece} (h : Spells text e) :
    parse? text = if e.height ≤ maxHeight ∧ e.plan.fits = true then some e.regex else none := by
  split
  · next hadmissible => exact parse?_eq_some_iff.mpr ⟨e, h, hadmissible, rfl⟩
  · next hnot =>
    refine Option.eq_none_iff_forall_ne_some.mpr fun r hr => ?_
    obtain ⟨e', h', hadmissible, -⟩ := parse?_eq_some_iff.mp hr
    exact hnot (h.unique h' ▸ hadmissible)

/-- Reading a word between anchors as a pattern gives the word and its anchors in a group. -/
lemma parse?_anchored (word : List Char) :
    parse? (Pattern.anchored ('^' :: escape word ++ ['$'])) =
      if (anchoredPiece word).height ≤ maxHeight ∧ (anchoredPiece word).plan.fits = true then
        some (anchoredPiece word).regex else none :=
  (spells_anchored word).parse?_eq

lemma closeRow_pieces {pieces : List Piece} :
    closeRow (pieces.reverse.map .piece) = ⟨concats (pieces.map (·.regex)),
      .ofRow (pieces.map (·.plan)), heightAround (pieces.reverse.map (·.height))⟩ := by
  have hpieces : (pieces.map Item.piece).filterMap Item.piece? = pieces := by
    rw [List.filterMap_map]
    exact List.filterMap_some
  simp only [closeRow, ← List.map_reverse, List.reverse_reverse, hpieces, List.map_map]
  rfl

lemma regex_rowOf {pieces : List Piece} :
    (rowOf pieces).regex = concats (pieces.map (·.regex)) := by
  rw [rowOf, closeRow_pieces]
  rfl

lemma plan_rowOf {pieces : List Piece} :
    (rowOf pieces).plan = .ofChoice [.ofRow (pieces.map (·.plan))] := by
  rw [rowOf, closeRow_pieces]
  rfl

lemma height_rowOf {pieces : List Piece} :
    (rowOf pieces).height = heightAround (pieces.reverse.map (·.height)) := by
  rw [rowOf, closeRow_pieces]
  exact Nat.max_eq_right (Nat.zero_le _)

lemma regex_wordPiece : (wordPiece word).regex =
    concats (.assert .textStart :: word.map ofChar ++ [.assert .textEnd]) := by
  have hword : (word.map letter).map (·.regex) = word.map ofChar := by
    rw [List.map_map]
    rfl
  rw [wordPiece, regex_rowOf, List.map_append, List.map_cons, hword]
  rfl

lemma ordered_wordPiece : (wordPiece word).regex.Ordered := by
  rw [regex_wordPiece]
  refine ordered_concats fun r hr => ?_
  simp only [List.cons_append, List.mem_cons, List.mem_append, List.mem_map] at hr
  rcases hr with rfl | ⟨c, -, rfl⟩ | rfl | hr
  · trivial
  · trivial
  · trivial
  · cases hr

/-- A word between anchors matches the word from its beginning to its end. -/
lemma matches_wordPiece_iff {i j : Nat} :
    Matches text (wordPiece word).regex i j ↔ text = word ∧ i = 0 ∧ j = text.length := by
  rw [regex_wordPiece, ← matches_exactly_iff, List.cons_append, matches_concats_cons_iff]
  simp only [matches_concats_append_iff, exactly, matches_concat_iff]
  rfl

/-- It is found in the word and in no other text. -/
lemma foundIn_wordPiece_iff : (wordPiece word).regex.FoundIn text ↔ text = word := by
  simp [FoundIn, matches_wordPiece_iff]

/-- The expression that is read with a group between further anchors. -/
lemma regex_anchoredPiece :
    (anchoredPiece word).regex =
      .concat (.assert .textStart) (.concat (wordPiece word).regex (.assert .textEnd)) :=
  regex_rowOf

lemma ordered_anchoredPiece : (anchoredPiece word).regex.Ordered := by
  rw [regex_anchoredPiece]
  exact ⟨trivial, ordered_wordPiece, trivial⟩

/-- This one too is found in the word and in no other text. -/
lemma foundIn_anchoredPiece_iff : (anchoredPiece word).regex.FoundIn text ↔ text = word := by
  rw [regex_anchoredPiece]
  simp only [FoundIn, matches_concat_iff, matches_wordPiece_iff, matches_textStart_iff,
    matches_textEnd_iff]
  constructor
  · rintro ⟨_, _, _, -, _, ⟨rfl, -⟩, -⟩
    rfl
  · rintro rfl
    exact ⟨0, _, 0, ⟨rfl, rfl⟩, _, ⟨rfl, rfl, rfl⟩, rfl, rfl⟩

lemma escape_cons_ne_nil : escape (c :: word) ≠ [] := by
  by_cases hc : c ∈ metaChars
  · rw [escape_cons_of_mem hc]
    exact List.cons_ne_nil _ _
  · rw [escape_cons_of_not_mem hc]
    exact List.cons_ne_nil _ _

/-- Different words are written differently. -/
lemma escape_injective : Function.Injective escape := by
  intro a b h
  induction a generalizing b with
  | nil =>
    cases b with
    | nil => rfl
    | cons d b => exact absurd h.symm escape_cons_ne_nil
  | cons c a ih =>
    cases b with
    | nil => exact absurd h escape_cons_ne_nil
    | cons d b =>
      -- the backslash tells the two sorts of characters apart, as it is escaped itself
      have hbackslash : '\\' ∈ metaChars := by decide
      by_cases hc : c ∈ metaChars <;> by_cases hd : d ∈ metaChars
      · rw [escape_cons_of_mem hc, escape_cons_of_mem hd] at h
        obtain ⟨rfl, hrest⟩ := List.cons.inj (List.cons.inj h).2
        rw [ih hrest]
      · rw [escape_cons_of_mem hc, escape_cons_of_not_mem hd] at h
        exact absurd ((List.cons.inj h).1 ▸ hbackslash) hd
      · rw [escape_cons_of_not_mem hc, escape_cons_of_mem hd] at h
        exact absurd ((List.cons.inj h).1 ▸ hbackslash) hc
      · rw [escape_cons_of_not_mem hc, escape_cons_of_not_mem hd] at h
        obtain ⟨rfl, hrest⟩ := List.cons.inj h
        rw [ih hrest]

lemma toNat_lt_of_isAlpha (hc : c.isAlpha = true) : c.toNat < 128 := by
  rcases Bool.or_eq_true_iff.mp (show (c.isUpper || c.isLower) = true from hc) with hupper | hlower
  · have hbounds : 'A'.val ≤ c.val ∧ c.val ≤ 'Z'.val := of_decide_eq_true hupper
    exact Nat.lt_of_le_of_lt (UInt32.le_iff_toNat_le.mp hbounds.2) (by decide)
  · have hbounds : (decide ('a'.val ≤ c.val) && decide (c.val ≤ 'z'.val)) = true := hlower
    have hle : c.val ≤ 'z'.val := of_decide_eq_true (Bool.and_eq_true_iff.mp hbounds).2
    exact Nat.lt_of_le_of_lt (UInt32.le_iff_toNat_le.mp hle) (by decide)

lemma ranges_single (hc : c.isAlpha = true) : (CharSet.single c).ranges = [(c.toNat, c.toNat)] := by
  have hlt := toNat_lt_of_isAlpha hc
  -- no letter is as high as the surrogates, so nothing is left above them
  have hbelow : min c.toNat 0xD7FF = c.toNat := by omega
  have habove : c.toNat < max c.toNat 0xE000 := by omega
  simp [CharSet.ranges, CharSet.spans, CharSet.single, Ranges.joined, Ranges.joinFrom,
    Ranges.withoutSurrogates, hbelow, habove]

lemma plan_letter (hc : c.isAlpha = true) : (letter c).plan = .text [c] := by
  simp [letter, Piece.ofSet, Plan.ofSet, ranges_single hc, Plan.ofRanges]

/-- Each letter is a part by itself. -/
lemma flatMap_parts_letters (hword : ∀ c ∈ word, c.isAlpha = true) :
    (word.map fun c => (letter c).plan).flatMap Plan.parts =
      word.map fun c => (letter c).plan := by
  induction word with
  | nil => rfl
  | cons c word ih =>
    obtain ⟨hc, hword⟩ := List.forall_mem_cons.mp hword
    rw [List.map_cons, List.flatMap_cons, ih hword, plan_letter hc]
    rfl

/-- The letters of a word make up one text. -/
lemma foldr_prepend_letters (hword : ∀ c ∈ word, c.isAlpha = true) (hne : word ≠ [])
    {a : Assertion} {rest : List Plan} :
    (word.map fun c => (letter c).plan).foldr Plan.prepend (.look a :: rest) =
      .text word :: .look a :: rest := by
  induction word with
  | nil => exact absurd rfl hne
  | cons c word ih =>
    obtain ⟨hc, hword⟩ := List.forall_mem_cons.mp hword
    rw [List.map_cons, List.foldr_cons, plan_letter hc]
    cases word with
    | nil => rfl
    | cons d word =>
      rw [ih hword (List.cons_ne_nil d word)]
      rfl

lemma ofRow_letters (hword : ∀ c ∈ word, c.isAlpha = true) (hne : word ≠ []) {a b : Assertion} :
    Plan.ofRow (.look a :: (word.map fun c => (letter c).plan) ++ [.look b]) =
      .row [.look a, .text word, .look b] := by
  have hparts : (Plan.look a :: (word.map fun c => (letter c).plan) ++ [Plan.look b]).flatMap
      Plan.parts = .look a :: (word.map fun c => (letter c).plan) ++ [.look b] := by
    rw [List.flatMap_append, List.flatMap_cons, flatMap_parts_letters hword]
    rfl
  have hlast : [Plan.look b].foldr Plan.prepend [] = [.look b] := rfl
  rw [Plan.ofRow, hparts, List.foldr_append, List.foldr_cons, hlast,
    foldr_prepend_letters hword hne]
  rfl

lemma plan_wordPiece (hword : ∀ c ∈ word, c.isAlpha = true) (hne : word ≠ []) :
    (wordPiece word).plan = .row [.look .textStart, .text word, .look .textEnd] := by
  have hrow := ofRow_letters hword hne (a := .textStart) (b := .textEnd)
  rw [wordPiece, plan_rowOf, List.map_append, List.map_cons, List.map_map]
  exact congrArg (fun plan => Plan.ofChoice [plan]) hrow

/-- The group is none for the plan, which has all anchors in one row with the word. -/
lemma plan_anchoredPiece (hword : ∀ c ∈ word, c.isAlpha = true) (hne : word ≠ []) :
    (anchoredPiece word).plan = .row
      [.look .textStart, .look .textStart, .text word, .look .textEnd, .look .textEnd] := by
  have hgroup : ((wordPiece word).inGroup none).plan =
      .row [.look .textStart, .text word, .look .textEnd] := plan_wordPiece hword hne
  rw [anchoredPiece, plan_rowOf, List.map_cons, List.map_cons, hgroup]
  rfl

/-- A row of pieces in which nothing is nested has a height of at most one. -/
lemma height_rowOf_le {pieces : List Piece} (hflat : ∀ p ∈ pieces, p.height = 0) :
    (rowOf pieces).height ≤ 1 := by
  have htop : ∀ heights : List Nat, (∀ h ∈ heights, h = 0) → heights.foldl max 0 = 0 := by
    intro heights hzero
    induction heights with
    | nil => rfl
    | cons h heights ih =>
      obtain ⟨rfl, hrest⟩ := List.forall_mem_cons.mp hzero
      exact ih hrest
  have hzero : ∀ h ∈ pieces.reverse.map (·.height), h = 0 := by
    intro h hmem
    obtain ⟨p, hp, rfl⟩ := List.mem_map.mp hmem
    exact hflat p (List.mem_reverse.mp hp)
  rw [height_rowOf, heightAround, htop _ hzero]
  split <;> decide

lemma height_wordPiece_le : (wordPiece word).height ≤ 1 := by
  refine height_rowOf_le fun p hp => ?_
  simp only [List.cons_append, List.mem_cons, List.mem_append, List.mem_map] at hp
  rcases hp with rfl | ⟨c, -, rfl⟩ | rfl | hp
  · rfl
  · rfl
  · rfl
  · cases hp

lemma height_anchoredPiece_le : (anchoredPiece word).height ≤ maxHeight := by
  have hinner : (wordPiece word).height ≤ 1 := height_wordPiece_le
  have houter : (anchoredPiece word).height =
      max (max 0 ((wordPiece word).height + 1)) 0 + 1 := by
    rw [anchoredPiece, height_rowOf]
    rfl
  rw [houter, maxHeight]
  omega

/-- The bytes of a word are its letters. -/
lemma textLength_word (hword : ∀ c ∈ word, c.isAlpha = true) :
    Plan.textLength word = word.length := by
  have hfrom : ∀ n, word.foldl (fun n c => n + c.utf8Size) n = n + word.length := by
    induction word with
    | nil => exact fun _ => rfl
    | cons c word ih =>
      intro n
      obtain ⟨hc, hword⟩ := List.forall_mem_cons.mp hword
      have hsize : c.utf8Size = 1 := by
        have hlt := toNat_lt_of_isAlpha hc
        exact Char.utf8Size_eq_one_iff.mpr (UInt32.le_iff_toNat_le.mpr (Nat.le_of_lt_succ hlt))
      rw [List.foldl_cons, ih hword, hsize, List.length_cons]
      omega
  rw [Plan.textLength, hfrom, Nat.zero_add]

/-! ### How many states it takes -/

namespace Plan

variable {plan : Plan} {parts : List Plan} {d : Direction} {n : Nat}

/-- The plan is a text or looks at what is around. -/
def Flat : Plan → Prop
  | .text _ | .look _ => True
  | _ => False

/-- How many states a flat plan takes. -/
def width : Plan → Nat
  | .text chars => textLength chars
  | _ => 1

/-- How many states several flat plans take by themselves. -/
def widths : List Plan → Nat
  | [] => 0
  | plan :: rest => plan.width + widths rest

lemma addStates_addStates (t : Tally) (m n : Nat) :
    (t.addStates m).addStates n = t.addStates (m + n) := by
  simp [Tally.addStates, Nat.add_assoc]

lemma isOver_addStates (h : 32 * n ≤ Tally.limit) : (Tally.addStates n {}).isOver = false := by
  have hbytes : (Tally.addStates n {}).bytes = 32 * n := by
    simp [Tally.bytes, Tally.addStates]
  rw [Tally.isOver, hbytes]
  exact decide_eq_false (Nat.not_lt.mpr h)

lemma build_of_flat (hflat : plan.Flat) (h : 32 * n ≤ Tally.limit) :
    plan.build d (Tally.addStates n {}) = Tally.addStates (n + plan.width) {} := by
  have hover := isOver_addStates h
  cases plan with
  | text chars => simp [build, hover, addStates_addStates, width]
  | look a => simp [build, hover, addStates_addStates, width]
  | _ => exact hflat.elim

lemma endsInLoop_of_flat (hflat : plan.Flat) : plan.endsInLoop d = false := by
  cases plan with
  | text chars => rfl
  | look a => rfl
  | _ => exact hflat.elim

lemma rowEndsInLoop_of_flat (hflat : ∀ plan ∈ parts, plan.Flat) :
    rowEndsInLoop d parts = false := by
  induction parts with
  | nil => rfl
  | cons plan rest ih =>
    obtain ⟨hplan, hrest⟩ := List.forall_mem_cons.mp hflat
    cases d with
    | forward => simp [rowEndsInLoop, endsInLoop_of_flat hplan, ih hrest]
    | backward => exact endsInLoop_of_flat hplan

lemma link_of_flat (hflat : plan.Flat) (t : Tally) : plan.link d t = t := by
  simp [link, endsInLoop_of_flat hflat]

/-- Flat plans in a row take the states that they take by themselves, whichever way the machine
reads. -/
lemma buildRow_of_flat (hflat : ∀ plan ∈ parts, plan.Flat)
    (h : 32 * (n + widths parts) ≤ Tally.limit) :
    buildRow d parts (Tally.addStates n {}) = Tally.addStates (n + widths parts) {} := by
  induction parts generalizing n with
  | nil =>
    rw [buildRow]
    rfl
  | cons plan rest ih =>
    obtain ⟨hplan, hrest⟩ := List.forall_mem_cons.mp hflat
    rw [widths] at h ⊢
    have hwhole : 32 * (n + plan.width + widths rest) ≤ Tally.limit := by omega
    cases d with
    -- forward, the first plan of the row is built first, and backward it comes last
    | forward =>
      rw [buildRow, link_of_flat hplan, build_of_flat hplan (by omega), ih hrest hwhole]
      cases rest with
      | nil => rfl
      | cons next rest => simp [Nat.add_assoc]
    | backward =>
      rw [Nat.add_comm plan.width, ← Nat.add_assoc]
      simp only [buildRow]
      rw [ih hrest (by omega)]
      cases rest with
      | nil => exact build_of_flat hplan (by omega)
      | cons next rest =>
        simp only [link_of_flat (hrest next List.mem_cons_self)]
        exact build_of_flat hplan (by omega)

/-- Flat plans in a row are not too large if a match can begin and end at one place only and
there is room for four states more. -/
lemma fits_row_of_flat (hflat : ∀ plan ∈ parts, plan.Flat)
    (hstart : rowAnchoredAtStart parts = true) (hend : rowAnchoredAtEnd parts = true)
    (h : 32 * (4 + widths parts) ≤ Tally.limit) : (Plan.row parts).fits = true := by
  have hbuild : ∀ (d : Direction) (n : Nat), n ≤ 4 →
      (Plan.row parts).build d (Tally.addStates n {}) = Tally.addStates (n + widths parts) {} := by
    intro d n hn
    have hover : (Tally.addStates n {}).isOver = false := isOver_addStates (by omega)
    rw [build, hover]
    exact buildRow_of_flat hflat (by omega)
  have hlink : ∀ (d : Direction) (t : Tally), (Plan.row parts).link d t = t := by
    intro d t
    simp [link, endsInLoop, rowEndsInLoop_of_flat hflat]
  have hforward : (Plan.row parts).tally .forward = Tally.addStates (4 + widths parts) {} := by
    simp only [tally, anchored, anchoredAtStart, hstart, if_true, addStates_addStates, hlink]
    rw [hbuild .forward 2 (by decide), addStates_addStates]
    congr 1
    omega
  have hbackward : (Plan.row parts).tally .backward = Tally.addStates (2 + widths parts) {} := by
    simp only [tally, anchored, anchoredAtEnd, hend, if_true, hlink]
    rw [hbuild .backward 1 (by decide), addStates_addStates]
    congr 1
    omega
  rw [fits, hforward, hbackward, isOver_addStates h, isOver_addStates (by omega)]
  rfl

end Plan

/-- A word of moderate length is not too large between anchors. -/
lemma fits_anchoredPiece (hword : ∀ c ∈ word, c.isAlpha = true) (hne : word ≠ [])
    (hlength : word.length ≤ 1000) : (anchoredPiece word).plan.fits = true := by
  rw [plan_anchoredPiece hword hne]
  refine Plan.fits_row_of_flat ?_ rfl rfl ?_
  · simp [Plan.Flat]
  · have hlimit : Tally.limit = 10485760 := rfl
    simp only [Plan.widths, Plan.width, textLength_word hword, hlimit]
    omega

end Regex

namespace Pattern

variable {literal text : String} {p : Pattern}

lemma toList_source_exact (literal : String) :
    (exact literal).source.toList = '^' :: Regex.escape literal.toList ++ ['$'] := by
  simp [exact]

/-- **The pattern of one text does what its source says.**  If the source is read as an expression,
as it stands, this expression is found in the texts that the pattern admits and in no others. -/
theorem foundIn_source_exact {e : Regex}
    (h : Regex.parse? (exact literal).source.toList = some e) (text : String) :
    e.foundIn text = (exact literal).admits text := by
  rw [toList_source_exact, (Regex.spells_word literal.toList).parse?_eq,
    Option.ite_none_right_eq_some] at h
  rw [← Option.some.inj h.2, Bool.eq_iff_iff, admits_exact_iff,
    Regex.foundIn_iff Regex.ordered_wordPiece, Regex.foundIn_wordPiece_iff, String.toList_inj]

/-- The source of the pattern of one text, read as a pattern, is read as this text between anchors,
if it is read at all. -/
lemma regex_of_exact_source (h : ofSource? (exact literal).source = some p) :
    p.regex = (Regex.anchoredPiece literal.toList).regex := by
  obtain ⟨regex, hread, rfl⟩ := Option.map_eq_some_iff.mp h
  rw [toList_source_exact, Regex.parse?_anchored, Option.ite_none_right_eq_some] at hread
  exact (Option.some.inj hread.2).symm

lemma admits_of_exact_source (h : ofSource? (exact literal).source = some p) :
    p.admits text = true ↔ text = literal := by
  rw [admits, regex_of_exact_source h, Regex.foundIn_iff Regex.ordered_anchoredPiece,
    Regex.foundIn_anchoredPiece_iff, String.toList_inj]

/-- **The source of the pattern of a word, read as a pattern, is that pattern again:** written the
same, and admitting the word and no other text. -/
theorem ofSource?_exact (hword : ∀ c ∈ literal.toList, c.isAlpha = true)
    (hne : literal.toList ≠ []) (hlength : literal.toList.length ≤ 1000) :
    ∃ p, ofSource? (exact literal).source = some p ∧ p.same (exact literal) = true ∧
      ∀ text, p.admits text = true ↔ text = literal := by
  have hread : ofSource? (exact literal).source =
      some ⟨(exact literal).source, (Regex.anchoredPiece literal.toList).regex⟩ := by
    rw [ofSource?, toList_source_exact, Regex.parse?_anchored,
      if_pos ⟨Regex.height_anchoredPiece_le, Regex.fits_anchoredPiece hword hne hlength⟩]
    rfl
  exact ⟨_, hread, by simp [same], fun _ => admits_of_exact_source hread⟩

/-! ### Patterns that are written the same -/

/-- The pattern is made in one of the two ways: from its source, or for one text. -/
inductive Constructed : Pattern → Prop where
  | ofSource {p : Pattern} (h : ofSource? p.source = some p) : Constructed p
  | exact (literal : String) : Constructed (exact literal)

lemma literal_eq_of_source_eq {other : String} (h : (exact literal).source = (exact other).source) :
    literal = other := by
  have hescape : Regex.escape literal.toList = Regex.escape other.toList := by
    simpa [exact] using congrArg String.toList h
  exact String.toList_inj.mp (Regex.escape_injective hescape)

/-- **Patterns that are written the same admit the same texts**, in whichever way each is made. -/
theorem Constructed.admits_eq {q : Pattern} (hp : p.Constructed) (hq : q.Constructed)
    (h : p.same q = true) (text : String) : p.admits text = q.admits text := by
  have hsource : p.source = q.source := by simpa [same] using h
  cases hp with
  | ofSource hp =>
    cases hq with
    | ofSource hq =>
      rw [hsource, hq] at hp
      rw [Option.some.inj hp]
    | exact literal =>
      rw [hsource] at hp
      rw [Bool.eq_iff_iff, admits_of_exact_source hp, admits_exact_iff]
  | exact literal =>
    cases hq with
    | ofSource hq =>
      rw [← hsource] at hq
      rw [Bool.eq_iff_iff, admits_of_exact_source hq, admits_exact_iff]
    | exact other => rw [literal_eq_of_source_eq hsource]

end Pattern

end TreeSchema
