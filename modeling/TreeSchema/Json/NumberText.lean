/-
Numbers as they are written.

A number has a whole part without zeros in front, and may have a fraction and an exponent.
`NumberText.scan` takes the longest number at a cursor apart.  `NumberText.value?` is
what it stands for:

* without fraction and exponent, an integer if it fits into 64 bits, signed or not;
* otherwise a double.  As many digits as fit into 64 bits make the significand, the
  whole digits left over only raise the exponent and the fraction digits left over do
  not count; the significand is then multiplied or divided once by a power of ten.

The two roundings of the last step mean that the double is not always the one nearest to
the number written.
-/
import TreeSchema.Json.Fault

namespace TreeSchema

namespace Json

/-- The power of ten after an `e`. -/
structure ExponentText where
  /-- The sign, when one is written. -/
  sign : Option Char
  digits : List Char
  deriving DecidableEq, Repr

/-- A number as it is written. -/
structure NumberText where
  negative : Bool
  whole : List Char
  fraction : Option (List Char)
  exponent : Option ExponentText
  deriving DecidableEq, Repr

namespace NumberText

/-! ### Taking a number apart -/

/-- The whole part: a zero, or digits that begin with another one. -/
def scanWhole (c : Cursor) : Except Fault (List Char) :=
  match c.rest with
  | [] => c.failHere .endInValue
  | '0' :: rest =>
    if (rest.head?.map Char.isDigit).getD false then c.tail.failAtNext .invalidNumber else .ok ['0']
  | d :: _ =>
    if d.isDigit then .ok (c.rest.takeWhile Char.isDigit) else c.failAtNext .invalidNumber

/-- Digits of which there must be one at least. -/
def scanDigits (c : Cursor) : Except Fault (List Char) :=
  match c.rest with
  | [] => c.failHere .endInValue
  | d :: _ =>
    if d.isDigit then .ok (c.rest.takeWhile Char.isDigit) else c.failAtNext .invalidNumber

/-- The digits after a point, if there is a point. -/
def scanFraction (c : Cursor) : Except Fault (Option (List Char)) :=
  if c.peek? = some '.' then some <$> scanDigits c.tail else .ok none

/-- The exponent, if there is one. -/
def scanExponent (c : Cursor) : Except Fault (Option ExponentText) :=
  if c.peek? = some 'e' ∨ c.peek? = some 'E' then
    let sign := c.tail.peek?.filter fun x => x == '+' || x == '-'
    let digitsAt := if sign.isSome then c.tail.tail else c.tail
    (fun digits => some ⟨sign, digits⟩) <$> scanDigits digitsAt
  else .ok none

/-- How many characters a fraction takes, its point included. -/
def fractionLength : Option (List Char) → Nat
  | none => 0
  | some digits => digits.length + 1

/-- How many characters of an exponent stand in front of its digits. -/
def ExponentText.lead (e : ExponentText) : Nat := if e.sign.isSome then 2 else 1

/-- How many characters stand in front of the exponent. -/
def lengthToExponent (n : NumberText) : Nat :=
  (if n.negative then 1 else 0) + n.whole.length + fractionLength n.fraction

/-- How many characters a number takes. -/
def length (n : NumberText) : Nat :=
  n.lengthToExponent + match n.exponent with
    | none => 0
    | some e => ExponentText.lead e + e.digits.length

/-- Takes the number at a cursor apart, a minus sign first. -/
def scan (c : Cursor) : Except Fault NumberText := do
  let negative := c.peek? == some '-'
  let wholeAt := if negative then c.tail else c
  let whole ← scanWhole wholeAt
  let fractionAt := wholeAt.drop whole.length
  let fraction ← scanFraction fractionAt
  let exponent ← scanExponent (fractionAt.drop (fractionLength fraction))
  return ⟨negative, whole, fraction, exponent⟩

theorem scanWhole_pos {c : Cursor} {digits : List Char} (h : scanWhole c = .ok digits) :
    0 < digits.length ∧ 0 < c.size := by
  obtain ⟨rest, position⟩ := c
  cases rest with
  | nil => simp [scanWhole, Cursor.failHere] at h
  | cons d rest =>
    refine ⟨?_, Nat.succ_pos _⟩
    unfold scanWhole at h
    split at h
    · simp at *
    · split at h
      · simp [Cursor.failAtNext] at h
      · cases h
        simp
    · split at h
      · next hd =>
        cases h
        simp_all
      · simp [Cursor.failAtNext] at h

theorem whole_of_scan {c : Cursor} {n : NumberText} (h : scan c = .ok n) :
    0 < n.whole.length ∧ 0 < c.size := by
  unfold scan at h
  cases hwhole : scanWhole (if c.peek? == some '-' then c.tail else c) with
  | error e =>
    simp only [hwhole, bind, Except.bind] at h
    cases h
  | ok whole =>
    have hpos := scanWhole_pos hwhole
    simp only [hwhole, bind, Except.bind] at h
    split at h
    · cases h
    · split at h
      · cases h
      · cases h
        refine ⟨hpos.1, ?_⟩
        have := hpos.2
        split at this
        · rw [Cursor.size_tail] at this
          omega
        · exact this

/-- A number takes at least one character. -/
theorem size_drop_length_lt {c : Cursor} {n : NumberText} (h : scan c = .ok n) :
    (c.drop n.length).size < c.size := by
  have hpos := whole_of_scan h
  rw [Cursor.size_drop]
  simp only [length, lengthToExponent]
  omega

/-! ### What a number stands for -/

/-- The value of a decimal digit. -/
def digitValue (d : Char) : Nat := d.toNat - '0'.toNat

/-- The number that decimal digits stand for. -/
def digitsValue (digits : List Char) : Nat := digits.foldl (fun n d => 10 * n + digitValue d) 0

/-- Appends as many digits to a significand as keep it below `2 ^ 64`, and tells which
digits are left over. -/
def appendDigits (significand : Nat) : List Char → Nat × List Char
  | [] => (significand, [])
  | d :: rest =>
    if 10 * significand + digitValue d < Nat.pow 2 64
    then appendDigits (10 * significand + digitValue d) rest
    else (significand, d :: rest)

/-- A double divided by `10 ^ 308` a number of times, or until nothing is left. -/
def strideDown (x : Binary64) : Nat → Binary64
  | 0 => x
  | n + 1 => if x.isZero then x else strideDown (x.scaleDown (Binary64.powerOfTen 308)) n

/-- A double divided by `10 ^ k`, in strides whose power of ten is a double. -/
def divideByPower (x : Binary64) (k : Nat) : Binary64 :=
  let strides := (k - 1) / 308
  (strideDown x strides).scaleDown (Binary64.powerOfTen (k - 308 * strides))

/-- The double `± significand · 10 ^ exponent`, unless it is out of range. -/
def scaled? (negative : Bool) (significand : Nat) (exponent : Int) : Option Binary64 :=
  let base := Binary64.ofNat significand
  let size? : Option Binary64 :=
    if exponent < 0 then some (divideByPower base exponent.natAbs)
    else if significand = 0 then some base
    else if 308 < exponent then none
    else
      let product := base.scaleUp (Binary64.powerOfTen exponent.toNat)
      if product.isInfinite then none else some product
  size?.map fun size => if negative then -size else size

/-- The power of ten that is written. -/
def exponentValue (n : NumberText) : Int :=
  match n.exponent with
  | none => 0
  | some e => if e.sign = some '-' then -(digitsValue e.digits : Int) else digitsValue e.digits

/-- The number as a double, unless it is out of range. -/
def double? (n : NumberText) : Option Binary64 :=
  let (wholeValue, wholeLeft) := appendDigits 0 n.whole
  let fraction := n.fraction.getD []
  let (significand, fractionLeft) := appendDigits wholeValue fraction
  let shift : Int := wholeLeft.length - (fraction.length - fractionLeft.length : Nat)
  scaled? n.negative significand (shift + n.exponentValue)

/-- The number as an integer, if it is written as one and fits. -/
def integer? (n : NumberText) : Option Int :=
  if n.fraction.isSome || n.exponent.isSome then none
  else
    let size := digitsValue n.whole
    if n.negative then
      -- a zero with a minus sign is a double
      if 0 < size ∧ size ≤ Nat.pow 2 63 then some (-(size : Int)) else none
    else if size < Nat.pow 2 64 then some size else none

/-- What a number stands for, unless it is out of range. -/
def value? (n : NumberText) : Option Number :=
  match n.integer? with
  | some i => some (.integer i)
  | none => n.double?.map .double

/-- How many characters show that a number is out of range: all of them, unless the
digits of the exponent alone pass `2 ^ 31`. -/
def lengthToOverflow (n : NumberText) : Nat :=
  match n.exponent with
  | none => n.length
  | some e =>
    let within := (List.range e.digits.length).filter fun k =>
      digitsValue (e.digits.take (k + 1)) < Nat.pow 2 31
    n.lengthToExponent + ExponentText.lead e + min e.digits.length (within.length + 1)

end NumberText

/-- Reads the number at a cursor that stands at a digit or a minus sign. -/
def readNumber (c : Cursor) : Except Fault (Reading c.size Number) :=
  match h : NumberText.scan c with
  | .error fault => .error fault
  | .ok text =>
    match text.value? with
    | none => (c.drop text.lengthToOverflow).failHere .numberOutOfRange
    | some value => .ok ⟨value, c.drop text.length, NumberText.size_drop_length_lt h⟩

/-- Passes over the number at a cursor, whatever its size.  Whatever is wrong with it,
it is an invalid number. -/
def skipNumber (c : Cursor) : Except Fault (Reading c.size Unit) :=
  match h : NumberText.scan c with
  | .error fault => .error { fault with cause := .malformed .invalidNumber }
  | .ok text => .ok ⟨(), c.drop text.length, NumberText.size_drop_length_lt h⟩

end Json

end TreeSchema
