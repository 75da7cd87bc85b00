/-
Schemas.

A schema describes values: all of them, those of a schema known by name, those of a kind or
with other properties of a leaf, objects and arrays with schemas for their parts, and
intersections and unions.  Names are resolved only when a value is matched, so schemas may
refer to themselves and to each other.
-/
import TreeSchema.Json.Equality
import TreeSchema.Kind
import TreeSchema.Pattern

namespace TreeSchema

/-- What a schema asks of a value without looking at its parts; what is absent asks
nothing. -/
structure Constraint where
  kind : Option Kind := none
  /-- Only texts match a pattern. -/
  pattern : Option Pattern := none
  /-- The literals of an enumeration. -/
  choices : Option (List Json) := none
  /-- Bounds belong to the range, and only numbers are in it. -/
  minimum : Option Binary64 := none
  maximum : Option Binary64 := none
  deriving Repr

/-- A schema. -/
inductive Schema where
  /-- Every value. -/
  | any
  /-- The values of the schema with a name. -/
  | ref (name : String)
  | leaf (constraint : Constraint)
  /-- Objects that have the required fields and whose fields, as far as they have a schema
  here, match it. -/
  | object (properties : List (String × Schema)) (required : List String)
  /-- Arrays of a certain length whose elements all match a schema. -/
  | array (items : Option Schema) (least most : Option Nat)
  /-- The values that match every part. -/
  | allOf (parts : List Schema)
  /-- The values that match some part. -/
  | anyOf (parts : List Schema)
  deriving Repr

namespace Constraint

/-- The constraint to a kind. -/
def ofKind (kind : Kind) : Constraint := { kind := some kind }

/-- The number lies within the bounds there are. -/
def inBounds (c : Constraint) (n : Binary64) : Bool :=
  (match c.minimum with
    | some minimum => !n.precedes minimum
    | none => true) &&
  match c.maximum with
  | some maximum => !maximum.precedes n
  | none => true

/-- Whether a value meets a constraint. -/
def admits (c : Constraint) (v : Json) : Bool :=
  (match c.kind with
    | some kind => kind.admits v
    | none => true) &&
  (match c.pattern with
    | some pattern => match v.string? with
      | some text => pattern.admits text
      | none => false
    | none => true) &&
  (match c.choices with
    | some choices => choices.any v.equalsLiteral
    | none => true) &&
  (if c.minimum.isSome || c.maximum.isSome then
    match v.double? with
    | some n => c.inBounds n
    | none => false
  else true)

end Constraint

namespace Schema

/-- The values of a kind. -/
def ofKind (kind : Kind) : Schema := .leaf (.ofKind kind)

/-- The null value. -/
def null : Schema := ofKind .null

/-- The values of a schema and null. -/
def nullable (s : Schema) : Schema := .anyOf [s, null]

/-- Whether a length lies within the bounds there are. -/
def admitsLength (least most : Option Nat) (length : Nat) : Bool :=
  (match least with
    | some least => least ≤ length
    | none => true) &&
  match most with
  | some most => length ≤ most
  | none => true

/-! ### Required fields -/

/-- Adds a name to a list of required fields, unless it is there. -/
def require (required : List String) (name : String) : List String :=
  if required.contains name then required else required ++ [name]

/-- The names of a list, each once, in the order in which they come first. -/
def requireAll (names : List String) : List String := names.foldl require []

/-! ### References -/

mutual

/-- The names that a schema refers to, in the order and as often as they come. -/
def references : Schema → List String
  | .any => []
  | .ref name => [name]
  | .leaf _ => []
  | .object properties _ => propertyReferences properties
  | .array items _ _ =>
    match items with
    | some item => item.references
    | none => []
  | .allOf parts => partReferences parts
  | .anyOf parts => partReferences parts

/-- The names that the schemas of fields refer to. -/
def propertyReferences : List (String × Schema) → List String
  | [] => []
  | (_, s) :: rest => s.references ++ propertyReferences rest

/-- The names that the parts of a composition refer to. -/
def partReferences : List Schema → List String
  | [] => []
  | s :: rest => s.references ++ partReferences rest

end

/-- The name that a bare reference refers to. -/
def alias? : Schema → Option String
  | .ref name => some name
  | _ => none

end Schema

/-- A schema with an identity. -/
structure SchemaEntry where
  id : Option String := none
  schema : Schema
  deriving Repr

end TreeSchema
