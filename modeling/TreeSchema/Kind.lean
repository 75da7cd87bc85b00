/-
Kinds.

A kind is what a schema can ask of a value as a whole.  There are seven kinds for six forms
of values, because the integers are a kind of their own among the numbers.
-/
import TreeSchema.Json.Basic

namespace TreeSchema

/-- What a schema can ask of a value as a whole. -/
inductive Kind where
  | null
  | boolean
  /-- A number without fractional part. -/
  | integer
  | number
  | string
  | array
  | object
  deriving DecidableEq, Repr

namespace Kind

/-- The name of a kind in schemas. -/
def name : Kind → String
  | .null => "null"
  | .boolean => "boolean"
  | .integer => "integer"
  | .number => "number"
  | .string => "string"
  | .array => "array"
  | .object => "object"

/-- All kinds. -/
def all : List Kind := [.null, .boolean, .integer, .number, .string, .array, .object]

/-- The kind of a name. -/
def ofName? (name : String) : Option Kind := all.find? fun kind => kind.name == name

/-- Whether a value is of a kind. -/
def admits (kind : Kind) (v : Json) : Bool :=
  match kind with
  | .null => v.form == .null
  | .boolean => v.form == .boolean
  | .integer => v.isIntegral
  | .number => v.form == .number
  | .string => v.form == .string
  | .array => v.form == .array
  | .object => v.form == .object

/-- Whether all values of the left kind are of the right one: an integer is a number. -/
def within (kind wider : Kind) : Bool := kind == wider || (kind == .integer && wider == .number)

/-- Kinds of values that have parts. -/
def isShape (kind : Kind) : Bool := kind == .object || kind == .array

theorem ofName?_name (kind : Kind) : ofName? kind.name = some kind := by
  cases kind <;> rfl

end Kind

end TreeSchema
