/-
The ranges of a set of characters.

`CharSet.ranges` lists the members of a set as ranges of code points, in order, with a gap
between each and the next.  Sets are first spread out into ranges in any order, which
may overlap; `Ranges.joined` then sorts them and joins those that touch.

Surrogates are no characters, so they are cut out at the end.
-/
import TreeSchema.Regex.CharSet

namespace TreeSchema

/-- Ranges of numbers, ends included. -/
abbrev Ranges : Type := List (Nat × Nat)

namespace Ranges

/-- The largest code point. -/
def lastPoint : Nat := 0x10FFFF

/-- Joins the range from `low` to `high` with those of the given ones, sorted by their lower
ends, that touch it, and the rest with each other. -/
def joinFrom (low high : Nat) : Ranges → Ranges
  | [] => [(low, high)]
  | (l, h) :: rest =>
    if l ≤ high + 1 then joinFrom low (max high h) rest else (low, high) :: joinFrom l h rest

/-- The ranges in order, those that touch joined and the empty ones left out. -/
def joined (ranges : Ranges) : Ranges :=
  match (ranges.filter fun r => r.1 ≤ r.2).mergeSort fun a b => a.1 ≤ b.1 with
  | [] => []
  | (low, high) :: rest => joinFrom low high rest

/-- What lies from `low` on between ranges that are in order. -/
def gapsFrom (low : Nat) : Ranges → Ranges
  | [] => if low ≤ lastPoint then [(low, lastPoint)] else []
  | (l, h) :: rest =>
    if low < l then (low, l - 1) :: gapsFrom (h + 1) rest else gapsFrom (h + 1) rest

/-- The code points outside some ranges. -/
def outside (ranges : Ranges) : Ranges := gapsFrom 0 ranges.joined

/-- Whether a number is in one of the ranges. -/
def has (ranges : Ranges) (n : Nat) : Bool := ranges.any fun r => r.1 ≤ n && n ≤ r.2

/-- The part of each range between two bounds, moved up by `up` and then down by `down`. -/
def shifted (low high up down : Nat) (ranges : Ranges) : Ranges :=
  (ranges.filter fun r => max low r.1 ≤ min high r.2).map fun r =>
    (max low r.1 + up - down, min high r.2 + up - down)

/-- A range without its surrogates. -/
def withoutSurrogates (range : Nat × Nat) : Ranges :=
  [(range.1, min range.2 0xD7FF), (max range.1 0xE000, range.2)].filter fun r => r.1 ≤ r.2

end Ranges

namespace CharSet

/-- The ranges of the categories in the given runs, of which the first begins at `start`. -/
def categoryRanges (names : List String) (start : Nat) : List (String × Nat) → Ranges
  | [] => []
  | (name, length) :: rest =>
    let others := categoryRanges names (start + length) rest
    if names.contains name && 0 < length then (start, start + length - 1) :: others
    else others

/-- The members of a set as ranges in any order, which may touch or overlap. -/
def spans : CharSet → Ranges
  | .empty => []
  | .range low high => [(low, high)]
  | .table points => points.ranges
  | .category names => categoryRanges names 0 Unicode.categoryRuns
  | .union left right => left.spans ++ right.spans
  | .inter left right => Ranges.outside (left.spans.outside ++ right.spans.outside)
  | .compl set => set.spans.outside
  | .anyCase set =>
    let ranges := set.spans.joined
    ranges ++ ((Unicode.caseGroups.filter (·.any ranges.has)).flatMap (·.map fun n => (n, n)))
  | .anyAsciiCase set =>
    let ranges := set.spans
    ranges ++ ranges.shifted 0x41 0x5A 0x20 0 ++ ranges.shifted 0x61 0x7A 0 0x20

/-- The members of a set that are characters, as ranges in order with gaps between them. -/
def ranges (set : CharSet) : Ranges := set.spans.joined.flatMap Ranges.withoutSurrogates

end CharSet

end TreeSchema
