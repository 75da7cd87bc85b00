/-
Reading regular expressions.

The text is read from left to right.  What is open around the place reached, groups and their
earlier branches, waits on a stack, so `Regex.parse?` is one loop that takes up some text
in each round.  Constructs may nest to 250 levels, and an expression with a machine over the
limit of `Plan.fits` is refused.
-/
import TreeSchema.Regex.Class
import TreeSchema.Regex.MachineSize
import TreeSchema.Unicode.Recent

namespace TreeSchema

namespace Regex

/-- How deep constructs may nest. -/
def maxHeight : Nat := 250

/-! ### Parts of an expression -/

/-- An expression with its plan and the number of constructs nested in it. -/
structure Piece where
  regex : Regex
  plan : Plan
  height : Nat

namespace Piece

/-- One character of a set. -/
def ofSet (flags : Flags) (set : CharSet) (height : Nat) : Piece :=
  ⟨.char set, .ofSet (!flags.unicode) set, height⟩

def ofAssertion (a : Assertion) : Piece := ⟨.assert a, .look a, 0⟩

/-- The piece repeated. -/
def repeated (p : Piece) (least : Nat) (most : Option Nat) (short : Bool) : Piece :=
  ⟨.times p.regex least most, p.plan.repeated least most short, p.height + 1⟩

/-- The piece in parentheses, which remember what matches if they have a number. -/
def inGroup (p : Piece) (number : Option Nat) : Piece :=
  { p with
    plan := match number with
      | some n => .group n p.plan
      | none => p.plan
    height := p.height + 1 }

end Piece

/-- What is read one after the other: pieces, and directives that only change flags. -/
inductive Item where
  | piece (p : Piece)
  | directive

def Item.height : Item → Nat
  | .piece p => p.height
  | .directive => 0

def Item.piece? : Item → Option Piece
  | .piece p => some p
  | .directive => none

/-- The height of a construct around others, which is one only around several. -/
def heightAround (heights : List Nat) : Nat :=
  let top := heights.foldl max 0
  if 2 ≤ heights.length then top + 1 else top

/-- Items in a row, the last one first. -/
def closeRow (items : List Item) : Piece :=
  let pieces := items.reverse.filterMap Item.piece?
  ⟨concats (pieces.map Piece.regex), .ofRow (pieces.map Piece.plan),
    heightAround (items.map Item.height)⟩

/-- Branches, the last one first. -/
def closeBranches (branches : List Piece) : Piece :=
  let pieces := branches.reverse
  ⟨eithers (pieces.map Piece.regex), .ofChoice (pieces.map Piece.plan),
    heightAround (branches.map Piece.height)⟩

/-- What is read of a group: its earlier branches and the items of the present one, the
last ones first. -/
structure Group where
  branches : List Piece := []
  items : List Item := []

namespace Group

/-- The group with another item. -/
def add (g : Group) (item : Item) : Group := { g with items := item :: g.items }

/-- The group with its branch closed. -/
def branch (g : Group) : Group := ⟨closeRow g.items :: g.branches, []⟩

/-- All of a group. -/
def close (g : Group) : Piece := closeBranches (closeRow g.items :: g.branches)

/-- The group with its last piece changed; there has to be one. -/
def modifyLast? (g : Group) (f : Piece → Piece) : Option Group :=
  match g.items with
  | .piece p :: items => some { g with items := .piece (f p) :: items }
  | _ => none

end Group

/-- A group that is open around the present one: what is read of it, the flags in it, and the
number of the group inside it if that has one. -/
structure Open where
  group : Group
  flags : Flags
  number : Option Nat

/-- Where the reading stands: the groups around, the present group and its flags, the names that
groups have and how many are numbered. -/
structure State where
  outer : List Open := []
  group : Group := {}
  flags : Flags := {}
  names : List (List Char) := []
  numbered : Nat := 0

namespace State

/-- The state with another piece. -/
def push (st : State) (p : Piece) : State := { st with group := st.group.add (.piece p) }

/-- The state inside a new group. -/
def enter (st : State) (flags : Flags) : State :=
  { st with outer := ⟨st.group, st.flags, none⟩ :: st.outer, group := {}, flags }

/-- The state inside a new group that has a number. -/
def enterNumbered (st : State) : State :=
  { st with
    outer := ⟨st.group, st.flags, some (st.numbered + 1)⟩ :: st.outer
    group := {}
    numbered := st.numbered + 1 }

/-- The state behind the present group, if it is one. -/
def leave? (st : State) : Option State :=
  match st.outer with
  | [] => none
  | around :: outer =>
    let whole := st.group.close.inGroup around.number
    some { st with outer, flags := around.flags, group := around.group.add (.piece whole) }

/-- The whole expression, if no group is open and it is neither too high nor too large. -/
def finish? (st : State) : Option Regex :=
  let whole := st.group.close
  if st.outer.isEmpty && whole.height ≤ maxHeight && whole.plan.fits then some whole.regex
  else none

end State

/-! ### Symbols -/

/-- What a literal stands for under flags. -/
def literal? (flags : Flags) (c : Char) (byte : Bool) : Option Piece :=
  if flags.unicode || c.toNat < 128 then some (.ofSet flags (foldCase flags (.single c)) 0)
  else if byte then none
  else some (.ofSet flags (.single c) 0)

/-- What the dot stands for under flags. -/
def dot? (flags : Flags) : Option Piece :=
  if !flags.unicode then none
  else
    let excluded : CharSet :=
      if flags.dotAll then .empty
      else if flags.crlf then .union (.single '\r') (.single '\n')
      else .single '\n'
    some (.ofSet flags (.compl excluded) 0)

/-- The assertion of a caret under flags. -/
def caret (flags : Flags) : Assertion :=
  if flags.multiLine then (if flags.crlf then .lineStartCrlf else .lineStart) else .textStart

/-- The assertion of a dollar sign under flags. -/
def dollar (flags : Flags) : Assertion :=
  if flags.multiLine then (if flags.crlf then .lineEndCrlf else .lineEnd) else .textEnd

/-- What a symbol stands for under flags. -/
def symbol? (flags : Flags) : Symbol → Option Piece
  | .literal c byte => literal? flags c byte
  | .set set => some (.ofSet flags set 0)
  | .assertion a => some (.ofAssertion a)

/-! ### Groups -/

/-- Whether a character may be in the name of a group: a letter or an underscore, or, but
not as the first, a number, a dot or a bracket. -/
def isNameChar (first : Bool) (c : Char) : Bool :=
  let among (table : String) : Bool := (Unicode.CodePoints.ofText table).contains c
  c == '_' || among Unicode.alphabeticText || among Unicode.recentAlphabeticText ||
    (!first && (c == '.' || c == '[' || c == ']' ||
      ["Nd", "Nl", "No"].contains (Unicode.category c) || among Unicode.recentNumberText))

/-- Enters a named group at its name. -/
def enterNamed? (st : State) (text : List Char) : Option (Taken text.length State) :=
  let name := text.takeWhile (· != '>')
  let behind := (Taken.whole text ()).drop name.length
  match hclose : behind.rest with
  | [] => none
  | _ :: _ =>
    match name with
    | [] => none
    | first :: others =>
      if isNameChar true first && others.all (isNameChar false) &&
          !st.names.contains (first :: others) then
        let inside := { st.enterNumbered with names := (first :: others) :: st.names }
        some ((behind.past hclose).giving inside)
      else none

/-- Enters a group behind its parenthesis and question mark, or changes the flags of the
present one. -/
def enterFlagged? (st : State) (text : List Char) : Option (Taken text.length State) :=
  let letters := text.takeWhile fun c => c != ':' && c != ')'
  let behind := (Taken.whole text ()).drop letters.length
  match hclose : behind.rest with
  | [] => none
  | c :: _ =>
    let next := behind.past hclose
    match st.flags.change? letters with
    | none => none
    | some flags =>
      if c = ':' then some (next.giving (st.enter flags))
      else if letters.isEmpty then none
      else some (next.giving { st with flags, group := st.group.add .directive })

/-- Enters a group by what stands behind its parenthesis.  Questions about what stands
before or behind are not understood. -/
def enterAt? (st : State) (text : List Char) : Option (Taken text.length State) :=
  match text with
  | '?' :: '=' :: _ => none
  | '?' :: '!' :: _ => none
  | '?' :: '<' :: '=' :: _ => none
  | '?' :: '<' :: '!' :: _ => none
  | '?' :: 'P' :: '<' :: rest => (enterNamed? st rest).map (·.behind.behind.behind)
  | '?' :: '<' :: rest => (enterNamed? st rest).map (·.behind.behind)
  | '?' :: rest => (enterFlagged? st rest).map (·.behind)
  | rest => some (.whole rest st.enterNumbered)

/-- Enters a group behind its parenthesis. -/
def enter? (st : State) (text : List Char) : Option (Taken text.length State) :=
  let start := (Taken.whole text ()).skipGap st.flags.verbose
  (enterAt? st start.rest).map start.andThen

/-! ### Repetition -/

/-- Reads a question mark behind a repetition, which prefers the other length then. -/
def readTurned (text : List Char) : Taken text.length Bool :=
  match text with
  | '?' :: rest => .first '?' rest true
  | rest => .whole rest false

/-- Reads a number between blanks. -/
def readCount? (flags : Flags) (text : List Char) : Option (Taken text.length Nat) :=
  let start := (Taken.whole text ()).skipSpace
  let digits := start.andThen (spanSpaced flags.verbose Char.isDigit start.rest)
  let after := if flags.verbose then digits else digits.skipSpace
  let n := digits.value.foldl (fun n d => 10 * n + (d.toNat - '0'.toNat)) 0
  if digits.value.isEmpty || Nat.pow 2 32 ≤ n then none else some (after.giving n)

/-- Reads the upper bound behind a comma, if there is one, and the closing brace. -/
def readUpper? (flags : Flags) (least : Nat) (text : List Char) :
    Option (Taken text.length (Nat × Option Nat)) :=
  match text with
  | '\x7d' :: rest => some (.first '\x7d' rest (least, none))
  | text => do
    let most ← readCount? flags text
    match hclose : most.rest with
    | '\x7d' :: _ =>
      if least ≤ most.value then return (most.past hclose).giving (least, some most.value)
      else none
    | _ => none

/-- Reads the bounds between braces, behind the opening one. -/
def readBounds? (flags : Flags) (text : List Char) :
    Option (Taken text.length (Nat × Option Nat)) := do
  let start := (Taken.whole text ()).skipGap flags.verbose
  let least ← (readCount? flags start.rest).map start.andThen
  match hnext : least.rest with
  | '\x7d' :: _ => return (least.past hnext).giving (least.value, some least.value)
  | ',' :: _ =>
    let behind := (least.past hnext).skipGap flags.verbose
    (readUpper? flags least.value behind.rest).map behind.andThen
  | _ => none

/-! ### The loop -/

/-- The bounds of the three short marks of repetition. -/
def shortBounds? : Char → Option (Nat × Option Nat)
  | '?' => some (0, some 1)
  | '*' => some (0, none)
  | '+' => some (1, none)
  | _ => none

/-- Reads one construct that begins with `c`. -/
def step? (st : State) (c : Char) (rest : List Char) : Option (Taken rest.length State) :=
  if c = '(' then enter? st rest
  else if c = ')' then st.leave?.map (.whole rest)
  else if c = '|' then some (.whole rest { st with group := st.group.branch })
  else if c = '[' then do
    let opened ← openBracket? st.flags rest
    let set ← readClass? st.flags rest.length [.bracket {} opened.value.1] opened.value.2
      opened.rest opened.bounded
    return set.giving (st.push (.ofSet st.flags set.value.set set.value.height))
  else if c = '\x7b' then do
    let bounds ← readBounds? st.flags rest
    let next := bounds.skipGap st.flags.verbose
    let after := next.andThen (readTurned next.rest)
    let group ← st.group.modifyLast?
      (·.repeated bounds.value.1 bounds.value.2 (st.flags.short != after.value))
    return after.giving { st with group }
  else if c = '\\' then do
    let symbol ← readEscape? st.flags rest
    let piece ← symbol? st.flags symbol.value
    return symbol.giving (st.push piece)
  else
    match shortBounds? c with
    | some bounds => do
      let after := readTurned rest
      let group ← st.group.modifyLast?
        (·.repeated bounds.1 bounds.2 (st.flags.short != after.value))
      return after.giving { st with group }
    | none =>
      let piece? :=
        if c = '.' then dot? st.flags
        else if c = '^' then some (.ofAssertion (caret st.flags))
        else if c = '$' then some (.ofAssertion (dollar st.flags))
        else literal? st.flags c false
      piece?.map fun piece => .whole rest (st.push piece)

/-- Reads on from a state to the end. -/
def parseFrom? (st : State) (text : List Char) : Option Regex :=
  match h : gap st.flags.verbose text with
  | [] => st.finish?
  | c :: rest =>
    have hrest : rest.length < text.length := by
      have := gap_length_le st.flags.verbose text
      rw [h, List.length_cons] at this
      omega
    match step? st c rest with
    | none => none
    | some next =>
      have hnext : next.rest.length < text.length := Nat.lt_of_le_of_lt next.bounded hrest
      parseFrom? next.value next.rest
  termination_by text.length

/-- The expression that a text is, if it is one. -/
def parse? (text : List Char) : Option Regex := parseFrom? {} text

end Regex

end TreeSchema
