/-
The syntax of JSON documents.

This is the grammar of RFC 8259 as relations between texts.  Each of them relates a text to what is
written at its front and to the rest of it, so that parts that follow each other share the text
between them, and nothing has to be cut into pieces.

Three things go beyond the grammar.  Values nest to a given number of levels.  A number is in range,
that is, it stands for something.  And where a number stands, it does not go on: this tells `12`
from a `1` in front of a `2`, and makes no difference to whole documents, as no value may follow
another one without a comma.
-/
import Mathlib.Tactic.Lemma
import TreeSchema.Json.Reader

namespace TreeSchema

namespace Json

namespace Syntax

/-- Nothing but blanks stand in front of the rest. -/
inductive Blanks : List Char → List Char → Prop where
  | none (rest : List Char) : Blanks rest rest
  | more {x : Char} {text rest : List Char} (hx : Cursor.isBlank x = true)
      (h : Blanks text rest) : Blanks (x :: text) rest

/-! ### Texts -/

/-- Four hexadecimal digits. -/
def HexDigits (digits : List Char) : Prop :=
  digits.length = 4 ∧ ∀ d ∈ digits, (Unicode.hexDigit? d).isSome = true

/-- What may stand behind a backslash, and the character that it stands for. -/
inductive Escape : List Char → Char → List Char → Prop where
  | letter {x meant : Char} {rest : List Char} (h : escapedChar? x = some meant) :
      Escape (x :: rest) meant rest
  | unicode {digits rest : List Char} (hdigits : HexDigits digits)
      (hlow : isLowSurrogate (Unicode.hexValue digits) = false)
      (hhigh : isHighSurrogate (Unicode.hexValue digits) = false) :
      Escape ('u' :: (digits ++ rest)) (Char.ofNat (Unicode.hexValue digits)) rest
  | pair {high low rest : List Char} (hdigits : HexDigits high) (hdigits' : HexDigits low)
      (hhigh : isHighSurrogate (Unicode.hexValue high) = true)
      (hlow : isLowSurrogate (Unicode.hexValue low) = true) :
      Escape ('u' :: (high ++ '\\' :: 'u' :: (low ++ rest)))
        (joinSurrogates (Unicode.hexValue high) (Unicode.hexValue low)) rest

/-- The characters of a text up to its closing quote. -/
inductive Chars : List Char → List Char → List Char → Prop where
  | close {rest : List Char} : Chars ('"' :: rest) [] rest
  | plain {x : Char} {text chars rest : List Char} (hquote : x ≠ '"') (hbackslash : x ≠ '\\')
      (hcontrol : isControl x = false) (h : Chars text chars rest) :
      Chars (x :: text) (x :: chars) rest
  | escaped {x : Char} {text behind chars rest : List Char} (hx : Escape text x behind)
      (h : Chars behind chars rest) : Chars ('\\' :: text) (x :: chars) rest

/-! ### Numbers -/

/-- Decimal digits, of which there is one at least. -/
def Digits (digits : List Char) : Prop := digits ≠ [] ∧ ∀ d ∈ digits, d.isDigit = true

/-- A whole number without zeros in front. -/
def Whole (digits : List Char) : Prop :=
  digits = ['0'] ∨ Digits digits ∧ digits.head? ≠ some '0'

/-- A point with digits behind it, or nothing. -/
inductive Fraction : List Char → Option (List Char) → List Char → Prop where
  | none (rest : List Char) : Fraction rest none rest
  | some {digits : List Char} (rest : List Char) (h : Digits digits) :
      Fraction ('.' :: (digits ++ rest)) (some digits) rest

/-- A power of ten, or nothing. -/
inductive Exponent : List Char → Option ExponentText → List Char → Prop where
  | none (rest : List Char) : Exponent rest none rest
  | some {mark : Char} {sign : Option Char} {digits : List Char} (rest : List Char)
      (hmark : mark = 'e' ∨ mark = 'E') (hsign : ∀ x, sign = some x → x = '+' ∨ x = '-')
      (h : Digits digits) :
      Exponent (mark :: (sign.toList ++ (digits ++ rest))) (some ⟨sign, digits⟩) rest

/-- A number as it is written. -/
inductive Numeral : List Char → NumberText → List Char → Prop where
  | mk {n : NumberText} {behind behind' rest : List Char} (hwhole : Whole n.whole)
      (hfraction : Fraction behind n.fraction behind')
      (hexponent : Exponent behind' n.exponent rest) :
      Numeral ((if n.negative then ['-'] else []) ++ (n.whole ++ behind)) n rest

/-- A number does not go on with the rest. -/
def Ends (n : NumberText) (rest : List Char) : Prop :=
  ∀ x, rest.head? = some x → x.isDigit = false ∧
    (n.exponent = none → x ≠ 'e' ∧ x ≠ 'E' ∧ (n.fraction = none → x ≠ '.'))

/-! ### Values -/

/-- A value without brackets. -/
inductive Leaf : List Char → Json → List Char → Prop where
  | null (rest : List Char) : Leaf ('n' :: 'u' :: 'l' :: 'l' :: rest) .null rest
  | true (rest : List Char) : Leaf ('t' :: 'r' :: 'u' :: 'e' :: rest) (.bool true) rest
  | false (rest : List Char) : Leaf ('f' :: 'a' :: 'l' :: 's' :: 'e' :: rest) (.bool false) rest
  | string {text chars rest : List Char} (h : Chars text chars rest) :
      Leaf ('"' :: text) (.string (String.ofList chars)) rest
  | number {text rest : List Char} {n : NumberText} {value : Number} (h : Numeral text n rest)
      (hends : Ends n rest) (hvalue : n.value? = some value) : Leaf text (.number value) rest

/-- What stands between a bracket or a value and the next value: a comma, unless the value is the
first one. -/
inductive Separator : Bool → List Char → List Char → Prop where
  | first {text rest : List Char} (h : Blanks text rest) : Separator true text rest
  | comma {text behind rest : List Char} (h : Blanks text (',' :: behind))
      (h' : Blanks behind rest) : Separator false text rest

section Brackets

variable {α : Type} (P : List Char → α → List Char → Prop)

/-- The elements of a list, of which the first one may be still to come, up to its closing
bracket. -/
inductive Elements : Bool → List Char → List α → List Char → Prop where
  | close {first : Bool} {text rest : List Char} (h : Blanks text (']' :: rest)) :
      Elements first text [] rest
  | next {first : Bool} {text at_ behind rest : List Char} {v : α} {vs : List α}
      (hseparator : Separator first text at_) (hv : P at_ v behind)
      (h : Elements false behind vs rest) : Elements first text (v :: vs) rest

/-- The members of an object, of which the first one may be still to come, up to its closing
bracket. -/
inductive Members : Bool → List Char → List (String × α) → List Char → Prop where
  | close {first : Bool} {text rest : List Char} (h : Blanks text ('\x7d' :: rest)) :
      Members first text [] rest
  | next {first : Bool} {text key chars colon value at_ behind rest : List Char} {v : α}
      {members : List (String × α)} (hseparator : Separator first text ('"' :: key))
      (hkey : Chars key chars colon) (hcolon : Blanks colon (':' :: value))
      (hvalue : Blanks value at_) (hv : P at_ v behind) (h : Members false behind members rest) :
      Members first text ((String.ofList chars, v) :: members) rest

end Brackets

/-- A list or an object of values of one sort. -/
inductive Bracketed (P : List Char → Json → List Char → Prop) :
    List Char → Json → List Char → Prop where
  | array {text rest : List Char} {vs : List Json} (h : Elements P true text vs rest) :
      Bracketed P ('[' :: text) (.array vs) rest
  /-- A key that comes again keeps its first place and its last value. -/
  | object {text rest : List Char} {members : List (String × Json)}
      (h : Members P true text members rest) :
      Bracketed P ('\x7b' :: text) (.object (Entries.ofList members)) rest

/-- A value that nests to a number of levels. -/
def Value : Nat → List Char → Json → List Char → Prop
  | 0 => Leaf
  | levels + 1 => fun text v rest => Leaf text v rest ∨ Bracketed (Value levels) text v rest

end Syntax

/-! ### Documents -/

/-- After some blanks the text begins with a value, and the rest follows. -/
def BeginsWith (text : String) (v : Json) (rest : List Char) : Prop :=
  ∃ at_, Syntax.Blanks text.toList at_ ∧ Syntax.Value maxLevels at_ v rest

/-- The text is a document: it is a value with nothing but blanks around it. -/
def IsDocument (text : String) (v : Json) : Prop :=
  ∃ rest, BeginsWith text v rest ∧ Syntax.Blanks rest []

end Json

end TreeSchema
