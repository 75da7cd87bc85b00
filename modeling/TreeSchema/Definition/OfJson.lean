/-
Definitions from JSON values.

A definition is written as an object of keywords or as the list of their values in order.
Either way a null stands for no value, and fields that are no keywords do not matter.
The first keyword whose value is of the wrong form makes the whole definition fail, with
the path to that value.

An entry of a catalog is a definition under a name, like a property, and is written the same
way.  So the values of two keywords are what is read on its own: those of `items` are
definitions, and those of `properties` are catalogs.
-/
import TreeSchema.Definition.Basic
import TreeSchema.Json.Fault

namespace TreeSchema

/-- A number as a size, which an integer is unless it is negative. -/
def Number.asSize : Number → Except Json.Misshape Nat
  | .integer value =>
    if value < 0 then .error (.wrongValue (.integer value) .size) else .ok value.toNat
  | .double value => .error (.wrongType (.double value) .size)

namespace Json

/-- The value is not of the type expected. -/
def misfit (v : Json) (expected : Expected) : Misshape := .wrongType v.found expected

def asString : Json → Except Misshape String
  | .string value => .ok value
  | v => .error (v.misfit .string)

def asDouble : Json → Except Misshape Binary64
  | .number n => .ok n.toBinary64
  | v => .error (v.misfit .double)

def asSize : Json → Except Misshape Nat
  | .number n => n.asSize
  | v => .error (v.misfit .size)

def asList : Json → Except Misshape (List Json)
  | .array elements => .ok elements
  | v => .error (v.misfit .list)

variable {α : Type}

/-- A value of the wrong form as a fault in a document that is no text. -/
def unplaced (result : Except Misshape α) : Except Fault α :=
  result.mapError fun why => ⟨.misshapen why, [], none⟩

/-- The texts that a list consists of, the first element having an index. -/
def asStrings (index : Nat) : List Json → Except Fault (List String)
  | [] => .ok []
  | v :: rest => do
    let value ← within (.index index) (unplaced v.asString)
    let values ← asStrings (index + 1) rest
    return value :: values

end Json

/-- The names of kinds that a value gives: a text or a list of texts. -/
def KindNames.ofJson : Json → Except Json.Misshape KindNames
  | .string name => .ok (.one name)
  | .array elements =>
    match elements.mapM Json.string? with
    | some names => .ok (.many names)
    | none => .error .noKindNames
  | _ => .error .noKindNames

namespace Definition

open Json (Fault within unplaced)

mutual

/-- The value of a keyword. -/
def valueOfJson : Json → (keyword : Keyword) → Except Fault keyword.Value
  | v, .id => unplaced v.asString
  | v, .reference => unplaced v.asString
  | v, .type => unplaced (KindNames.ofJson v)
  | v, .pattern => unplaced v.asString
  | v, .enum => unplaced v.asList
  | v, .minimum => unplaced v.asDouble
  | v, .maximum => unplaced v.asDouble
  | .object fields, .properties => entriesOfJson fields
  | v, .properties => unplaced (.error (v.misfit .object))
  | v, .required => do Json.asStrings 0 (← unplaced v.asList)
  | .object fields, .items => ofFields {} fields
  | .array elements, .items => ofElements {} 0 Keyword.all elements
  | v, .items => unplaced (.error (v.misfit .definition))
  | v, .minItems => unplaced v.asSize
  | v, .maxItems => unplaced v.asSize
  | .array elements, .allOf => listOfJson 0 elements
  | v, .allOf => unplaced (.error (v.misfit .list))
  | .array elements, .anyOf => listOfJson 0 elements
  | v, .anyOf => unplaced (.error (v.misfit .list))

/-- Takes up the fields of an object into a definition. -/
def ofFields (d : Definition) : List (String × Json) → Except Fault Definition
  | [] => .ok d
  | (name, v) :: rest =>
    match Keyword.ofName? name with
    | none => ofFields d rest
    | some keyword =>
      if v.form = .null then ofFields d rest
      else
        match within (.key name) (valueOfJson v keyword) with
        | .error fault => .error fault
        | .ok value => ofFields (d.set keyword value) rest

/-- Takes up a list of values for the given keywords into a definition. -/
def ofElements (d : Definition) (index : Nat) : List Keyword → List Json → Except Fault Definition
  | _, [] => .ok d
  | [], v :: rest => unplaced (.error (.tooLong (index + (v :: rest).length)))
  | keyword :: keywords, v :: rest =>
    if v.form = .null then ofElements d (index + 1) keywords rest
    else
      match within (.index index) (valueOfJson v keyword) with
      | .error fault => .error fault
      | .ok value => ofElements (d.set keyword value) (index + 1) keywords rest

/-- Definitions under names. -/
def entriesOfJson : List (String × Json) → Except Fault (List (String × Definition))
  | [] => .ok []
  | (name, v) :: rest =>
    match within (.key name) (valueOfJson v .items) with
    | .error fault => .error fault
    | .ok d => (entriesOfJson rest).map fun entries => (name, d) :: entries

/-- Definitions in a list, the first one having an index. -/
def listOfJson (index : Nat) : List Json → Except Fault (List Definition)
  | [] => .ok []
  | v :: rest =>
    match within (.index index) (valueOfJson v .items) with
    | .error fault => .error fault
    | .ok d => (listOfJson (index + 1) rest).map fun ds => d :: ds

end

/-- The definition that a value is. -/
def ofJson (v : Json) : Except Fault Definition := valueOfJson v .items

/-- The catalog of definitions that a value is. -/
def catalogOfJson (v : Json) : Except Fault (Entries Definition) := valueOfJson v .properties

end Definition

end TreeSchema
