/-
JSON values.

A value is a tree of arrays and objects over four kinds of leaves.  Objects keep
their fields in document order.  A number is either an integer or a double, and the
two are kept apart: `1` and `1.0` are different values of the same size.

The second half is the view that the rest of the library has of a value: what form
it takes, its fields and elements, and the payload of a leaf.
-/
import TreeSchema.Binary64.Basic
import TreeSchema.Entries

namespace TreeSchema

/-- A JSON number as it is kept: a literal without point or exponent that fits
into 64 bits is an integer, every other one a double. -/
inductive Number where
  | integer (value : Int)
  | double (value : Binary64)
  deriving DecidableEq, Repr

namespace Number

/-- The double nearest to a number. -/
def toBinary64 : Number → Binary64
  | .integer value => Binary64.ofInt value
  | .double value => value

/-- Whether a number has no fractional part. -/
def isIntegral : Number → Bool
  | .integer _ => true
  | .double value => value.isIntegral

end Number

/-- A JSON value. -/
inductive Json where
  | null
  | bool (value : Bool)
  | number (value : Number)
  | string (value : String)
  | array (elements : List Json)
  | object (fields : List (String × Json))
  deriving Repr

namespace Json

/-- The six forms that a value can take. -/
inductive Form where
  | null
  | boolean
  | number
  | string
  | array
  | object
  deriving DecidableEq, Repr

/-- The name of a form in messages. -/
def Form.name : Form → String
  | .null => "null"
  | .boolean => "boolean"
  | .number => "number"
  | .string => "string"
  | .array => "array"
  | .object => "object"

/-- The form of a value. -/
def form : Json → Form
  | .null => .null
  | .bool _ => .boolean
  | .number _ => .number
  | .string _ => .string
  | .array _ => .array
  | .object _ => .object

/-- The fields of an object in document order; nothing else has fields. -/
def fields : Json → Entries Json
  | .object fields => fields
  | _ => []

/-- The value of a field, if the value is an object that carries it. -/
def field? (v : Json) (name : String) : Option Json := v.fields.get? name

/-- The elements of an array; nothing else has elements. -/
def elements : Json → List Json
  | .array elements => elements
  | _ => []

def string? : Json → Option String
  | .string value => some value
  | _ => none

def bool? : Json → Option Bool
  | .bool value => some value
  | _ => none

/-- A number as a double. -/
def double? : Json → Option Binary64
  | .number value => some value.toBinary64
  | _ => none

/-- Whether a value is a number without fractional part. -/
def isIntegral : Json → Bool
  | .number value => value.isIntegral
  | _ => false

/-- The text in the field `type`. -/
def typeTag? (v : Json) : Option String := (v.field? "type").bind string?

/-- A syntax-tree node is an object with a text in its field `type`. -/
def isNode (v : Json) : Bool := v.typeTag?.isSome

/-! ### Going down makes values smaller -/

theorem sizeOf_element_lt {v child : Json} (h : child ∈ v.elements) :
    sizeOf child < sizeOf v := by
  cases v with
  | array elements =>
    have hlt : sizeOf child < sizeOf elements := List.sizeOf_lt_of_mem h
    simp only [Json.array.sizeOf_spec]
    omega
  | _ => simp [elements] at h

theorem sizeOf_lt_of_mem_fields {v child : Json} {name : String}
    (h : (name, child) ∈ v.fields) : sizeOf child < sizeOf v := by
  cases v with
  | object fields =>
    have hlt : sizeOf (name, child) < sizeOf fields := List.sizeOf_lt_of_mem h
    simp only [Prod.mk.sizeOf_spec] at hlt
    simp only [Json.object.sizeOf_spec]
    omega
  | _ => simp [fields] at h

theorem sizeOf_field_lt {v child : Json} {name : String} (h : v.field? name = some child) :
    sizeOf child < sizeOf v :=
  sizeOf_lt_of_mem_fields (Entries.get?_mem h)

end Json

end TreeSchema
