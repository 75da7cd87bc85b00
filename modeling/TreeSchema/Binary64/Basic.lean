/-
Doubles as words.

A double is its 64-bit word: a sign bit, eleven exponent bits and fifty-two
fraction bits.  A finite word with significand `m` and exponent `q` stands for
`± m · 2 ^ q`; everything here is exact arithmetic on `m` and `q`, so no
operation depends on the machine's own floating-point unit.

* `Binary64.roundRatio` is the double nearest to a fraction, ties to the even
  significand; conversion from integers and the two arithmetic operations of the
  number reader, `scaleUp` and `scaleDown`, are instances of it.
* `Binary64.rank` places all doubles on one line: both zeros share a place and
  every NaN shares the last one, so comparing ranks is a total preorder.
-/

namespace TreeSchema

/-- A double, by its word. -/
structure Binary64 where
  word : UInt64
  deriving DecidableEq, Repr

namespace Binary64

/-! ### The fields of a word -/

/-- The exponent field that marks infinities and NaNs, moved into place: the
magnitude of infinity. -/
def infinityMagnitude : Nat := 2047 * Nat.pow 2 52

/-- Whether the sign bit is set. -/
def isNegative (x : Binary64) : Bool := Nat.pow 2 63 ≤ x.word.toNat

/-- The word without its sign bit. -/
def magnitude (x : Binary64) : Nat := x.word.toNat % Nat.pow 2 63

/-- The double of a given sign and magnitude. -/
def ofMagnitude (negative : Bool) (magnitude : Nat) : Binary64 :=
  ⟨UInt64.ofNat (magnitude % Nat.pow 2 63 + if negative then Nat.pow 2 63 else 0)⟩

def isNaN (x : Binary64) : Bool := infinityMagnitude < x.magnitude

def isInfinite (x : Binary64) : Bool := x.magnitude == infinityMagnitude

def isFinite (x : Binary64) : Bool := x.magnitude < infinityMagnitude

/-- Both zeros. -/
def isZero (x : Binary64) : Bool := x.magnitude == 0

/-- The fifty-two fraction bits. -/
def fraction (x : Binary64) : Nat := x.magnitude % Nat.pow 2 52

/-- The eleven exponent bits. -/
def exponentField (x : Binary64) : Nat := x.magnitude / Nat.pow 2 52

/-- The significand `m` of a finite double `± m · 2 ^ q`. -/
def significand (x : Binary64) : Nat :=
  if x.exponentField = 0 then x.fraction else Nat.pow 2 52 + x.fraction

/-- The exponent `q` of a finite double `± m · 2 ^ q`. -/
def exponent (x : Binary64) : Int :=
  if x.exponentField = 0 then -1074 else (x.exponentField : Int) - 1075

/-- The same magnitude with the sign turned. -/
def neg (x : Binary64) : Binary64 := ofMagnitude (!x.isNegative) x.magnitude

instance : Neg Binary64 := ⟨neg⟩

/-! ### Order -/

/-- The place of a double on the line of all doubles.  The zeros share place
`0` and all NaNs share the place after positive infinity. -/
def rank (x : Binary64) : Int :=
  if x.isNaN then infinityMagnitude + 1
  else if x.isNegative then -(x.magnitude : Int)
  else x.magnitude

/-- `x` lies strictly before `y`. -/
def precedes (x y : Binary64) : Bool := x.rank < y.rank

/-- `x` and `y` share a place. -/
def sameRank (x y : Binary64) : Bool := x.rank == y.rank

/-! ### Rounding -/

/-- The quotient `num / den` rounded to the nearest natural number, a tie going
to the even one. -/
def roundQuotient (num den : Nat) : Nat :=
  let quotient := num / den
  let twice := 2 * (num % den)
  if twice < den then quotient
  else if den < twice then quotient + 1
  else quotient + quotient % 2

/-- The numerator of `(num / den) / 2 ^ q`, whose denominator is
`downscaled den q`: only one of the two powers is not `1`. -/
def upscaled (num : Nat) (q : Int) : Nat := num * Nat.pow 2 (-q).toNat

/-- The denominator of `(num / den) / 2 ^ q`. -/
def downscaled (den : Nat) (q : Int) : Nat := den * Nat.pow 2 q.toNat

/-- The exponent at which the fraction `num / den` has a significand of
fifty-three bits, or the least exponent there is. -/
def roundingExponent (num den : Nat) : Int :=
  let guess : Int := (num.log2 : Int) - den.log2 - 53
  let fits := upscaled num guess < downscaled den guess * Nat.pow 2 53
  max (if fits then guess else guess + 1) (-1074)

/-- The magnitude of the double nearest to `num / den`, a tie going to the even
significand and anything beyond the largest double to infinity. -/
def roundedMagnitude (num den : Nat) : Nat :=
  if num = 0 then 0
  else
    let q := roundingExponent num den
    let significand := roundQuotient (upscaled num q) (downscaled den q)
    min ((q + 1074).toNat * Nat.pow 2 52 + significand) infinityMagnitude

/-- The double nearest to `num / den`, or to its negative. -/
def roundRatio (negative : Bool) (num den : Nat) : Binary64 :=
  ofMagnitude negative (roundedMagnitude num den)

/-- The double nearest to a natural number. -/
def ofNat (n : Nat) : Binary64 := roundRatio false n 1

/-- The double nearest to an integer. -/
def ofInt : Int → Binary64
  | .ofNat n => ofNat n
  | .negSucc n => roundRatio true (n + 1) 1

/-- The numerator of a finite double as a fraction, sign apart. -/
def numerator (x : Binary64) : Nat := x.significand * Nat.pow 2 x.exponent.toNat

/-- The denominator of a finite double as a fraction: a power of two. -/
def denominator (x : Binary64) : Nat := Nat.pow 2 (-x.exponent).toNat

/-- The double nearest to the product of two finite doubles. -/
def scaleUp (x y : Binary64) : Binary64 :=
  roundRatio (x.isNegative != y.isNegative)
    (x.numerator * y.numerator) (x.denominator * y.denominator)

/-- The double nearest to the quotient of a finite double by a finite nonzero
one. -/
def scaleDown (x y : Binary64) : Binary64 :=
  roundRatio (x.isNegative != y.isNegative)
    (x.numerator * y.denominator) (x.denominator * y.numerator)

/-- The double nearest to a power of ten. -/
def powerOfTen (k : Nat) : Binary64 := ofNat (Nat.pow 10 k)

/-- Whether a double is finite and has no fractional part. -/
def isIntegral (x : Binary64) : Bool :=
  x.isFinite && x.significand % x.denominator == 0

end Binary64

end TreeSchema
