/-
The shortest decimal that reads back.

The reals that round to a finite double `m · 2 ^ q` form an interval around it,
ends included exactly when `m` is even.  `Binary64.shortest` goes through the
decimal grids of one, two, … seventeen significant digits and takes the first
grid with a point in that interval; of two such points next to the value it takes
the nearer one, and the one that a `Halfway` rule says when they are equally near.

If any point of a grid lies in the interval then so does one of the two grid points
next to the value, so looking at these two is enough.
-/
import TreeSchema.Binary64.Basic

namespace TreeSchema

/-- A positive decimal: `digits · 10 ^ exponent`. -/
structure Decimal where
  digits : Nat
  exponent : Int
  deriving DecidableEq, Repr

namespace Decimal

/-- Moves the zeros at the end of the digits into the exponent, at most `limit`
of them. -/
def stripZeros (limit : Nat) (d : Decimal) : Decimal :=
  match limit with
  | 0 => d
  | limit + 1 =>
    if d.digits % 10 = 0 then stripZeros limit ⟨d.digits / 10, d.exponent + 1⟩ else d

end Decimal

namespace Binary64

/-- The number `k` with `10 ^ (k - 1) ≤ num / den < 10 ^ k`, for a fraction of
the magnitude of a double. -/
def decimalOrder (num den : Nat) : Int :=
  if den ≤ num then (Nat.toDigits 10 (num / den)).length
  else
    match (List.range 400).find? fun j => den ≤ num * Nat.pow 10 j with
    | some j => 1 - (j : Int)
    | none => 0

/-- The rounding interval of a double in quarters of its last place: the distance
down, the distance up, and whether the ends belong to it. -/
structure RoundingInterval where
  below : Nat
  above : Nat
  closed : Bool

/-- Below a power of two the doubles lie twice as close as above it. -/
def roundingInterval (x : Binary64) : RoundingInterval where
  below := if x.fraction = 0 ∧ 1 < x.exponentField then 1 else 2
  above := 2
  closed := x.significand % 2 == 0

/-- Which of two equally near decimals is taken. -/
inductive Halfway where
  /-- The one with the larger magnitude. -/
  | up
  /-- The one whose last digit is even. -/
  | toEven
  deriving DecidableEq, Repr

/-- Whether the upper one is taken of two equally near decimals, where `lower` is the digits
of the other. -/
def Halfway.takesUpper (halfway : Halfway) (lower : Nat) : Bool :=
  match halfway with
  | .up => true
  | .toEven => lower % 2 == 1

/-- The grid point `digits · 10 ^ exponent` lies in the rounding interval of `x`. -/
def roundsFrom (x : Binary64) (d : Decimal) : Bool :=
  let interval := x.roundingInterval
  -- everything in quarters of the last place, over a common denominator
  let point := 4 * d.digits * Nat.pow 10 d.exponent.toNat * x.denominator
  let unit := Nat.pow 2 x.exponent.toNat * Nat.pow 10 (-d.exponent).toNat
  let low := (4 * x.significand - interval.below) * unit
  let high := (4 * x.significand + interval.above) * unit
  if interval.closed then low ≤ point && point ≤ high else low < point && point < high

/-- The point of the grid of `n` significant digits next to `x` that rounds to
`x`, if there is one. -/
def gridPoint (halfway : Halfway) (x : Binary64) (n : Nat) : Option Decimal :=
  let exponent := decimalOrder x.numerator x.denominator - n
  let num := x.numerator * Nat.pow 10 (-exponent).toNat
  let den := x.denominator * Nat.pow 10 exponent.toNat
  let lower : Decimal := ⟨num / den, exponent⟩
  let upper : Decimal := ⟨num / den + 1, exponent⟩
  let upperFirst := den < 2 * (num % den) ||
    (den == 2 * (num % den) && halfway.takesUpper (num / den))
  let candidates := if upperFirst then [upper, lower] else [lower, upper]
  candidates.find? x.roundsFrom

/-- The shortest decimal that reads back as the magnitude of `x`, for `x` finite
and not zero.  Seventeen digits always suffice. -/
def shortest (halfway : Halfway) (x : Binary64) : Decimal :=
  match (List.range 17).findSome? fun n => x.gridPoint halfway (n + 1) with
  | some d => d.stripZeros 400
  | none => ⟨x.significand, 0⟩

end Binary64

end TreeSchema
