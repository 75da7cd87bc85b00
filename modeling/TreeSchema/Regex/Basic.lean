/-
Regular expressions and what they match.

An expression is matched against the stretch of a text between two places, and may ask
about the places themselves: whether a line or a word begins or ends there.  So the relation
`Regex.Matches text r i j` speaks of the whole text and of two places in it, from `0`, the
beginning, to the length of the text.

Which of several matches would be found first plays no part here: an expression either
matches a stretch or does not.
-/
import TreeSchema.Regex.CharSet

namespace TreeSchema

/-- What can be asked about a place in a text.  Words are made of the characters of the
set given. -/
inductive Assertion where
  | textStart
  | textEnd
  | lineStart
  | lineEnd
  /-- A line that may end in a carriage return and a line feed. -/
  | lineStartCrlf
  | lineEndCrlf
  | wordBoundary (word : CharSet)
  | noWordBoundary (word : CharSet)
  | wordStart (word : CharSet)
  | wordEnd (word : CharSet)
  | wordStartHalf (word : CharSet)
  | wordEndHalf (word : CharSet)
  deriving DecidableEq, Repr

namespace Assertion

/-- Whether the neighbour of a place belongs to a word. -/
def inWord (word : CharSet) (neighbour : Option Char) : Bool :=
  match neighbour with
  | some c => word.contains c
  | none => false

/-- Whether an assertion holds at the place between two neighbours; a missing neighbour
is an end of the text. -/
def holds (a : Assertion) (before after : Option Char) : Bool :=
  match a with
  | .textStart => before.isNone
  | .textEnd => after.isNone
  | .lineStart => before.isNone || before == some '\n'
  | .lineEnd => after.isNone || after == some '\n'
  | .lineStartCrlf =>
    before.isNone || before == some '\n' || (before == some '\r' && after != some '\n')
  | .lineEndCrlf =>
    after.isNone || after == some '\r' || (after == some '\n' && before != some '\r')
  | .wordBoundary word => inWord word before != inWord word after
  | .noWordBoundary word => inWord word before == inWord word after
  | .wordStart word => !inWord word before && inWord word after
  | .wordEnd word => inWord word before && !inWord word after
  | .wordStartHalf word => !inWord word before
  | .wordEndHalf word => !inWord word after

end Assertion

/-- A regular expression. -/
inductive Regex where
  /-- The empty stretch. -/
  | empty
  /-- One character of a set. -/
  | char (set : CharSet)
  /-- The empty stretch at a place of a certain kind. -/
  | assert (assertion : Assertion)
  | concat (first second : Regex)
  | either (left right : Regex)
  /-- A number of times in a row, from `least` to `most` if there is a bound. -/
  | times (r : Regex) (least : Nat) (most : Option Nat)
  deriving Repr

namespace Regex

/-- The character in front of a place. -/
def before (text : List Char) (i : Nat) : Option Char := if i = 0 then none else text[i - 1]?

/-- `r` matches the stretch of `text` from `i` to `j`. -/
inductive Matches (text : List Char) : Regex → Nat → Nat → Prop where
  | empty {i : Nat} : i ≤ text.length → Matches text .empty i i
  | char {set : CharSet} {i : Nat} {c : Char} :
      text[i]? = some c → set.contains c = true → Matches text (.char set) i (i + 1)
  | assert {a : Assertion} {i : Nat} :
      i ≤ text.length → a.holds (before text i) text[i]? = true → Matches text (.assert a) i i
  | concat {r s : Regex} {i j k : Nat} :
      Matches text r i j → Matches text s j k → Matches text (.concat r s) i k
  | left {r s : Regex} {i j : Nat} : Matches text r i j → Matches text (.either r s) i j
  | right {r s : Regex} {i j : Nat} : Matches text s i j → Matches text (.either r s) i j
  | stop {r : Regex} {most : Option Nat} {i : Nat} :
      i ≤ text.length → Matches text (.times r 0 most) i i
  | more {r : Regex} {least : Nat} {most : Option Nat} {i j k : Nat} :
      most ≠ some 0 → Matches text r i j →
      Matches text (.times r (least - 1) (most.map (· - 1))) j k →
      Matches text (.times r least most) i k

/-- An expression is found in a text when it matches some stretch of it. -/
def FoundIn (r : Regex) (text : List Char) : Prop := ∃ i j, Matches text r i j

/-- The text from its beginning to its end. -/
def matchesAll (r : Regex) (text : List Char) : Prop := Matches text r 0 text.length

/-! ### Building expressions -/

/-- One given character. -/
def ofChar (c : Char) : Regex := .char (.single c)

/-- One expression after the other. -/
def concats : List Regex → Regex
  | [] => .empty
  | [r] => r
  | r :: rs => .concat r (concats rs)

/-- One expression or another; of no expressions, the one that nothing matches. -/
def eithers : List Regex → Regex
  | [] => .char .empty
  | [r] => r
  | r :: rs => .either r (eithers rs)

/-- The characters of a text, one after the other. -/
def ofText (text : List Char) : Regex := concats (text.map ofChar)

/-- Exactly the given text, from beginning to end. -/
def exactly (text : List Char) : Regex :=
  .concat (.assert .textStart) (.concat (ofText text) (.assert .textEnd))

end Regex

end TreeSchema
