/-
Sets of code points, as text.

The tables of character properties are written the way the Unicode database writes them:
code points in hexadecimal, a hyphen between the two ends of a range, and blanks
between ranges.  `CodePoints.ofText` reads such a table.
-/
import TreeSchema.Text.Split

namespace TreeSchema

namespace Unicode

/-- The words of a text, which blanks and line breaks separate. -/
def words (text : List Char) : List (List Char) :=
  (Text.split ' ' (text.map fun c => if c = '\n' then ' ' else c)).filter fun word => !word.isEmpty

/-- The value of a hexadecimal digit. -/
def hexDigit? (c : Char) : Option Nat :=
  if '0' ≤ c ∧ c ≤ '9' then some (c.toNat - '0'.toNat)
  else if 'a' ≤ c ∧ c ≤ 'f' then some (c.toNat - 'a'.toNat + 10)
  else if 'A' ≤ c ∧ c ≤ 'F' then some (c.toNat - 'A'.toNat + 10)
  else none

/-- The number that hexadecimal digits stand for; anything else is passed over. -/
def hexValue (digits : List Char) : Nat :=
  (digits.filterMap hexDigit?).foldl (fun n d => 16 * n + d) 0

/-- A set of code points: a list of ranges, ends included. -/
structure CodePoints where
  ranges : List (Nat × Nat)
  deriving DecidableEq, Repr

namespace CodePoints

/-- Reads a table. -/
def ofText (table : String) : CodePoints :=
  ⟨(words table.toList).map fun word =>
    match (Text.split '-' word).map hexValue with
    | [low, high] => (low, high)
    | [only] => (only, only)
    | _ => (1, 0)⟩

/-- Whether a code point is in the set. -/
def has (set : CodePoints) (n : Nat) : Bool :=
  set.ranges.any fun range => range.1 ≤ n && n ≤ range.2

/-- Whether a character is in the set. -/
def contains (set : CodePoints) (c : Char) : Bool := set.has c.toNat

end CodePoints

/-- A name without the things that do not count in one: case, blanks, hyphens,
underscores and a leading `is`. -/
def looseName (name : List Char) : String :=
  let hasIs := (name.take 2).map Char.toLower == ['i', 's']
  let kept := ((if hasIs then name.drop 2 else name).filter fun c =>
    c.toNat < 128 && c != ' ' && c != '_' && c != '-').map Char.toLower
  -- the name `isc` stands for itself, not for `c`
  if hasIs && kept == ['c'] then "isc" else String.ofList kept

end Unicode

end TreeSchema
