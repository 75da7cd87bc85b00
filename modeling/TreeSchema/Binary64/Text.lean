/-
Doubles as decimal text.

The digits are always the shortest ones that read back; a `DecimalLayout` settles
how they are laid out, and which are taken of two equally near ones.  Error texts about
bounds use `DecimalLayout.plain`, which never writes an exponent; error texts about values of
the wrong type use `DecimalLayout.scientific`, which writes one from `10 ^ 16` up.
-/
import TreeSchema.Binary64.Shortest

namespace TreeSchema

/-- How decimal digits are written. -/
structure DecimalLayout where
  /-- The powers of ten of the leading digit that are written without an
  exponent, or `none` when all are. -/
  positional : Option (Int × Int)
  /-- Whether an integral number written without an exponent ends in `.0`. -/
  pointAlways : Bool
  /-- Which digits are taken when two are equally near. -/
  halfway : Binary64.Halfway

namespace DecimalLayout

/-- Digits alone, however many that takes, and the upper of two equally near decimals. -/
def plain : DecimalLayout := ⟨none, false, .up⟩

/-- An exponent, with its sign, below `10 ^ -5` and from `10 ^ 16` up, and the even one of two
equally near decimals. -/
def scientific : DecimalLayout := ⟨some (-5, 15), true, .toEven⟩

/-- Whether a number whose leading digit stands for `10 ^ lead` is written without
an exponent. -/
def isPositional (layout : DecimalLayout) (lead : Int) : Bool :=
  match layout.positional with
  | none => true
  | some (low, high) => low ≤ lead && lead ≤ high

/-- `digits` with the decimal point so that the first stands for `10 ^ lead`. -/
def positionalText (layout : DecimalLayout) (digits : List Char) (lead : Int) : String :=
  if lead < 0 then
    "0." ++ String.ofList (List.replicate (-lead - 1).toNat '0' ++ digits)
  else
    let whole := lead.toNat + 1
    let before := digits.take whole ++ List.replicate (whole - digits.length) '0'
    let after := digits.drop whole
    let tail := if after.isEmpty && layout.pointAlways then ['0'] else after
    String.ofList before ++ (if tail.isEmpty then "" else "." ++ String.ofList tail)

/-- `digits` with the point after the first one, times a power of ten. -/
def exponentText (digits : List Char) (lead : Int) : String :=
  let mantissa := match digits with
    | [] => ""
    | [d] => String.singleton d
    | d :: rest => String.ofList (d :: '.' :: rest)
  mantissa ++ (if lead < 0 then "e-" else "e+") ++ toString lead.natAbs

/-- The magnitude of a double. -/
def magnitudeText (layout : DecimalLayout) (x : Binary64) : String :=
  if x.isZero then (if layout.pointAlways then "0.0" else "0")
  else
    let d := x.shortest layout.halfway
    let digits := Nat.toDigits 10 d.digits
    let lead := d.exponent + digits.length - 1
    if layout.isPositional lead then layout.positionalText digits lead
    else exponentText digits lead

/-- The text of a double. -/
def text (layout : DecimalLayout) (x : Binary64) : String :=
  if x.isNaN then "NaN"
  else
    (if x.isNegative then "-" else "") ++
      if x.isInfinite then "inf" else layout.magnitudeText x

end DecimalLayout

end TreeSchema
