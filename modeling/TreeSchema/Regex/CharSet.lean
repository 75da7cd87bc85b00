/-
Sets of characters.

A character class of a regular expression is kept as it is built up: ranges, properties of
characters, and the set operations on them.  `CharSet.has` says which code points are in
the set.  Closing a set under change of case is one of the operations, so a class that
ignores case needs no list of its members.
-/
import TreeSchema.Unicode.CaseFolding
import TreeSchema.Unicode.GeneralCategory

namespace TreeSchema

open Unicode (CodePoints)

/-- A set of characters, as it is built up. -/
inductive CharSet where
  | empty
  | range (low high : Nat)
  /-- The code points of a table. -/
  | table (points : CodePoints)
  /-- The code points whose general category is one of those given. -/
  | category (names : List String)
  | union (left right : CharSet)
  | inter (left right : CharSet)
  | compl (set : CharSet)
  /-- The members and what differs from a member in case only. -/
  | anyCase (set : CharSet)
  /-- The members and the ASCII letters that differ from a member in case only. -/
  | anyAsciiCase (set : CharSet)
  deriving DecidableEq, Repr

namespace CharSet

/-- The ASCII letter that differs from a code point in case only, or the code point. -/
def otherAsciiCase (n : Nat) : Nat :=
  if 0x41 ≤ n ∧ n ≤ 0x5A then n + 0x20
  else if 0x61 ≤ n ∧ n ≤ 0x7A then n - 0x20
  else n

/-- The members of a set. -/
def has : CharSet → Nat → Bool
  | .empty, _ => false
  | .range low high, n => low ≤ n && n ≤ high
  | .table points, n => points.has n
  | .category names, n => names.contains (Unicode.categoryAt Unicode.categoryRuns n)
  | .union left right, n => left.has n || right.has n
  | .inter left right, n => left.has n && right.has n
  | .compl set, n => !set.has n
  | .anyCase set, n => (Unicode.caseVariants n).any set.has
  | .anyAsciiCase set, n => set.has n || set.has (otherAsciiCase n)

/-- Whether a character is in a set. -/
def contains (set : CharSet) (c : Char) : Bool := set.has c.toNat

/-- The set of one character. -/
def single (c : Char) : CharSet := .range c.toNat c.toNat

/-- The union of several sets. -/
def unions (sets : List CharSet) : CharSet := sets.foldl .union .empty

/-- The members of the left set that are not in the right one. -/
def diff (left right : CharSet) : CharSet := .inter left (.compl right)

/-- The members of just one of two sets. -/
def symmDiff (left right : CharSet) : CharSet := .union (diff left right) (diff right left)

/-- The set or its complement. -/
def complIf (negated : Bool) (set : CharSet) : CharSet := if negated then .compl set else set

/-- Whether no byte beyond ASCII is in a set. -/
def isAscii (set : CharSet) : Bool := (List.range 128).all fun n => !set.has (128 + n)

/-- The ASCII members of a set. -/
def ascii (set : CharSet) : CharSet := .inter (.range 0 127) set

theorem has_single {c d : Char} : (single c).contains d = true ↔ d = c := by
  simp only [contains, single, has, Bool.and_eq_true, decide_eq_true_eq]
  constructor
  · intro h
    exact Char.toNat_inj.mp (Nat.le_antisymm h.2 h.1)
  · rintro rfl
    exact ⟨Nat.le_refl _, Nat.le_refl _⟩

end CharSet

end TreeSchema
