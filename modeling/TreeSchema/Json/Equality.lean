/-
Two ways for JSON values to be equal.

`Json.same` is equality of data: the order of fields does not count, but an integer
is never the same as a double.  `Json.equalsLiteral` is the comparison of an
enumeration: numbers are compared as doubles, so `1` equals `1.0`.  Both compare
objects by looking the fields of one up in the other.
-/
import TreeSchema.Json.Basic

namespace TreeSchema

namespace Number

/-- Equality of data: equal integers, or doubles that share a place. -/
def same : Number → Number → Bool
  | .integer a, .integer b => a == b
  | .double a, .double b => a.sameRank b
  | _, _ => false

/-- Equality of the nearest doubles. -/
def equalsLiteral (a b : Number) : Bool := a.toBinary64.sameRank b.toBinary64

end Number

namespace Json

mutual

/-- Equality of data. -/
def same : Json → Json → Bool
  | .null, .null => true
  | .bool a, .bool b => a == b
  | .number a, .number b => a.same b
  | .string a, .string b => a == b
  | .array as, .array bs => sameElements as bs
  | .object as, .object bs => as.length == bs.length && sameFields as bs
  | _, _ => false

/-- The two lists have the same elements in the same order. -/
def sameElements : List Json → List Json → Bool
  | [], [] => true
  | a :: as, b :: bs => same a b && sameElements as bs
  | _, _ => false

/-- Each of the left fields is the same on the right. -/
def sameFields : List (String × Json) → List (String × Json) → Bool
  | [], _ => true
  | (name, a) :: as, bs =>
    (match Entries.get? bs name with
      | some b => same a b
      | none => false) && sameFields as bs

end

mutual

/-- Whether a literal, as written in an enumeration, admits a value. -/
def literalAdmits : Json → Json → Bool
  | .null, .null => true
  | .bool literal, .bool b => b == literal
  | .number literal, .number n => n.equalsLiteral literal
  | .string literal, .string s => s == literal
  | .array literals, .array vs => literalsAdmit literals vs
  | .object literals, .object fields =>
    fields.length == literals.length && fieldLiteralsAdmit literals fields
  | _, _ => false

/-- The literals admit the values one by one. -/
def literalsAdmit : List Json → List Json → Bool
  | [], [] => true
  | literal :: literals, v :: vs => literalAdmits literal v && literalsAdmit literals vs
  | _, _ => false

/-- Each literal field admits the field of its name. -/
def fieldLiteralsAdmit : List (String × Json) → List (String × Json) → Bool
  | [], _ => true
  | (name, literal) :: literals, fields =>
    (match Entries.get? fields name with
      | some v => literalAdmits literal v
      | none => false) && fieldLiteralsAdmit literals fields

end

/-- The comparison of an enumeration: `v` has the structure of the literal, the
order of fields apart, and numbers of the same size. -/
def equalsLiteral (v literal : Json) : Bool := literalAdmits literal v

end Json

end TreeSchema
