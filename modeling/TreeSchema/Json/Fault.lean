/-
What can be wrong with a document.

A document can be malformed, when it is no JSON at all, or misshapen, when it is JSON
of another form than the one expected.  A `Fault` is the cause together with the path
of keys and indices that leads to it and, for text, the line and column.  The wording
of each cause stands in one place, `Cause.message`.
-/
import TreeSchema.Binary64.Text
import TreeSchema.Json.Basic
import TreeSchema.Json.Cursor
import TreeSchema.Text.Quoted

namespace TreeSchema

namespace Json

/-- One part of a path into a document. -/
inductive Segment where
  | key (name : String)
  | index (i : Nat)
  /-- A field whose name has not been read. -/
  | unknown
  deriving DecidableEq, Repr

namespace Segment

def text : Segment → String
  | .key name => name
  | .index i => "[" ++ toString i ++ "]"
  | .unknown => "?"

/-- Keys are set off by a dot from what comes before them, indices are not. -/
def isKey : Segment → Bool
  | .index _ => false
  | _ => true

end Segment

/-- The text of a path.  The path to the document itself is a dot. -/
def pathText : List Segment → String
  | [] => "."
  | first :: rest =>
    first.text ++ String.join (rest.map fun s => (if s.isKey then "." else "") ++ s.text)

/-- Why a text is not JSON. -/
inductive Malformation where
  | endInValue
  | endInList
  | endInObject
  | endInString
  | expectedValue
  | expectedWord
  | expectedColon
  | expectedListEnd
  | expectedObjectEnd
  | keyNotText
  | trailingComma
  | trailingCharacters
  | invalidNumber
  | numberOutOfRange
  | invalidEscape
  | loneSurrogate
  | unpairedSurrogate
  | controlCharacter
  | nestedTooDeep
  deriving DecidableEq, Repr

def Malformation.message : Malformation → String
  | .endInValue => "EOF while parsing a value"
  | .endInList => "EOF while parsing a list"
  | .endInObject => "EOF while parsing an object"
  | .endInString => "EOF while parsing a string"
  | .expectedValue => "expected value"
  | .expectedWord => "expected ident"
  | .expectedColon => "expected `:`"
  | .expectedListEnd => "expected `,` or `]`"
  | .expectedObjectEnd => "expected `,` or `\x7d`"
  | .keyNotText => "key must be a string"
  | .trailingComma => "trailing comma"
  | .trailingCharacters => "trailing characters"
  | .invalidNumber => "invalid number"
  | .numberOutOfRange => "number out of range"
  | .invalidEscape => "invalid escape"
  | .loneSurrogate => "lone leading surrogate in hex escape"
  | .unpairedSurrogate => "unexpected end of hex escape"
  | .controlCharacter => "control character (\\u0000-\\u001F) found while parsing a string"
  | .nestedTooDeep => "recursion limit exceeded"

/-- What stood where something else was expected. -/
inductive Found where
  | null
  | bool (value : Bool)
  | integer (value : Int)
  | double (value : Binary64)
  | string (value : String)
  | list
  | object
  deriving DecidableEq, Repr

/-- A number that was found. -/
def Found.ofNumber : Number → Found
  | .integer value => .integer value
  | .double value => .double value

/-- The value as what was found. -/
def found : Json → Found
  | .null => .null
  | .bool value => .bool value
  | .number n => .ofNumber n
  | .string value => .string value
  | .array _ => .list
  | .object _ => .object

def Found.text : Found → String
  | .null => "null"
  | .bool value => "boolean `" ++ toString value ++ "`"
  | .integer value => "integer `" ++ toString value ++ "`"
  | .double value => "floating point `" ++ DecimalLayout.scientific.text value ++ "`"
  | .string value => "string " ++ Text.quoted value
  | .list => "sequence"
  | .object => "map"

/-- What was expected. -/
inductive Expected where
  | definition
  | string
  | double
  | size
  | object
  | list
  deriving DecidableEq, Repr

def Expected.text : Expected → String
  | .definition => "struct RawSchema"
  | .string => "a string"
  | .double => "f64"
  | .size => "u64"
  | .object => "a map"
  | .list => "a sequence"

/-- Why a document is not of the form expected. -/
inductive Misshape where
  | wrongType (found : Found) (expected : Expected)
  | wrongValue (found : Found) (expected : Expected)
  /-- A list of keyword values with too many of them. -/
  | tooLong (length : Nat)
  /-- A `type` that is neither a name nor a list of names. -/
  | noKindNames
  | repeatedKeyword (name : String)
  deriving DecidableEq, Repr

def Misshape.message : Misshape → String
  | .wrongType found expected => "invalid type: " ++ found.text ++ ", expected " ++ expected.text
  | .wrongValue found expected =>
    "invalid value: " ++ found.text ++ ", expected " ++ expected.text
  | .tooLong length =>
    "invalid length " ++ toString length ++ ", expected fewer elements in array"
  | .noKindNames => "data did not match any variant of untagged enum RawType"
  | .repeatedKeyword name => "duplicate field `" ++ name ++ "`"

/-- The cause of a fault. -/
inductive Cause where
  | malformed (why : Malformation)
  | misshapen (why : Misshape)
  deriving DecidableEq, Repr

def Cause.message : Cause → String
  | .malformed why => why.message
  | .misshapen why => why.message

/-- A cause, the path to it, and its place when the document is a text. -/
structure Fault where
  cause : Cause
  path : List Segment
  position : Option Position
  deriving DecidableEq, Repr

namespace Fault

/-- The fault as seen from one step further out. -/
def within (segment : Segment) (fault : Fault) : Fault :=
  { fault with path := segment :: fault.path }

/-- The cause and, for a text, where it is. -/
def message (fault : Fault) : String :=
  fault.cause.message ++
    match fault.position with
    | some p => " at line " ++ toString p.line ++ " column " ++ toString p.column
    | none => ""

/-- The message with the path in front. -/
def located (fault : Fault) : String :=
  "at JSON path " ++ pathText fault.path ++ " → " ++ fault.message

end Fault

namespace Cursor

variable {α : Type}

/-- Fails where the cursor stands. -/
def failHere (c : Cursor) (why : Malformation) : Except Fault α :=
  .error ⟨.malformed why, [], some c.position⟩

/-- Fails at the next byte. -/
def failAtNext (c : Cursor) (why : Malformation) : Except Fault α :=
  .error ⟨.malformed why, [], some c.pastByte⟩

/-- Refuses the form of what was read up to the cursor. -/
def refuse (c : Cursor) (why : Misshape) : Except Fault α :=
  .error ⟨.misshapen why, [], some c.position⟩

end Cursor

/-- A step of reading, seen from one step further out. -/
def within {α : Type} (segment : Segment) (result : Except Fault α) : Except Fault α :=
  result.mapError (Fault.within segment)

end Json

end TreeSchema
