/-
Definitions of schemas.

A definition is a schema as catalogs write it: up to fourteen keywords, each with a
value of its own type, or no value.  Properties, items and compositions hold further
definitions.

`Keyword.Value` is the type of a keyword's values.  `Definition.value?` looks a keyword
up and `Definition.set` gives it a value, so what takes definitions in or apart treats the
keywords alike.
-/
import TreeSchema.Schema.Basic

namespace TreeSchema

/-- The names of kinds in a `type`. -/
inductive KindNames where
  | one (name : String)
  | many (names : List String)
  deriving DecidableEq, Repr

/-- A schema as it is written. -/
structure Definition where
  id : Option String := none
  reference : Option String := none
  kindNames : Option KindNames := none
  pattern : Option String := none
  choices : Option (List Json) := none
  minimum : Option Binary64 := none
  maximum : Option Binary64 := none
  properties : Option (List (String × Definition)) := none
  required : Option (List String) := none
  items : Option Definition := none
  minItems : Option Nat := none
  maxItems : Option Nat := none
  allOf : Option (List Definition) := none
  anyOf : Option (List Definition) := none

/-- The keywords, in the order in which a list of keyword values gives them. -/
inductive Keyword where
  | id
  | reference
  | type
  | pattern
  | enum
  | minimum
  | maximum
  | properties
  | required
  | items
  | minItems
  | maxItems
  | allOf
  | anyOf
  deriving DecidableEq, Repr

namespace Keyword

/-- The name of a keyword. -/
def name : Keyword → String
  | .id => "id"
  | .reference => "$ref"
  | .type => "type"
  | .pattern => "pattern"
  | .enum => "enum"
  | .minimum => "minimum"
  | .maximum => "maximum"
  | .properties => "properties"
  | .required => "required"
  | .items => "items"
  | .minItems => "minItems"
  | .maxItems => "maxItems"
  | .allOf => "allOf"
  | .anyOf => "anyOf"

/-- All keywords in order. -/
def all : List Keyword :=
  [.id, .reference, .type, .pattern, .enum, .minimum, .maximum, .properties, .required,
    .items, .minItems, .maxItems, .allOf, .anyOf]

/-- The keyword of a name. -/
def ofName? (name : String) : Option Keyword := all.find? fun keyword => keyword.name == name

/-- What a keyword can be given. -/
abbrev Value : Keyword → Type
  | .id => String
  | .reference => String
  | .type => KindNames
  | .pattern => String
  | .enum => List Json
  | .minimum => Binary64
  | .maximum => Binary64
  | .properties => Entries Definition
  | .required => List String
  | .items => Definition
  | .minItems => Nat
  | .maxItems => Nat
  | .allOf => List Definition
  | .anyOf => List Definition

/-- The kind of the values that a keyword is about, if that is a single one. -/
def impliedKind? : Keyword → Option Kind
  | .properties => some .object
  | .required => some .object
  | .items => some .array
  | .minItems => some .array
  | .maxItems => some .array
  | .pattern => some .string
  | .minimum => some .number
  | .maximum => some .number
  | _ => none

/-- The keywords that imply a kind, those of objects first. -/
def implying : List Keyword :=
  [.properties, .required, .items, .minItems, .maxItems, .pattern, .minimum, .maximum]

theorem ofName?_name (keyword : Keyword) : ofName? keyword.name = some keyword := by
  cases keyword <;> rfl

theorem mem_implying_iff (keyword : Keyword) :
    keyword ∈ implying ↔ keyword.impliedKind?.isSome := by
  cases keyword <;> decide

end Keyword

namespace Definition

/-- The value of a keyword. -/
def value? (d : Definition) : (keyword : Keyword) → Option keyword.Value
  | .id => d.id
  | .reference => d.reference
  | .type => d.kindNames
  | .pattern => d.pattern
  | .enum => d.choices
  | .minimum => d.minimum
  | .maximum => d.maximum
  | .properties => d.properties
  | .required => d.required
  | .items => d.items
  | .minItems => d.minItems
  | .maxItems => d.maxItems
  | .allOf => d.allOf
  | .anyOf => d.anyOf

/-- The definition with a value for a keyword. -/
def set (d : Definition) : (keyword : Keyword) → keyword.Value → Definition
  | .id, v => { d with id := some v }
  | .reference, v => { d with reference := some v }
  | .type, v => { d with kindNames := some v }
  | .pattern, v => { d with pattern := some v }
  | .enum, v => { d with choices := some v }
  | .minimum, v => { d with minimum := some v }
  | .maximum, v => { d with maximum := some v }
  | .properties, v => { d with properties := some v }
  | .required, v => { d with required := some v }
  | .items, v => { d with items := some v }
  | .minItems, v => { d with minItems := some v }
  | .maxItems, v => { d with maxItems := some v }
  | .allOf, v => { d with allOf := some v }
  | .anyOf, v => { d with anyOf := some v }

/-- Whether a keyword has a value. -/
def has (d : Definition) (keyword : Keyword) : Bool := (d.value? keyword).isSome

/-- The keywords present that are about values of one kind, with that kind. -/
def shapeKeywords (d : Definition) : List (Keyword × Kind) :=
  (Keyword.implying.filter d.has).filterMap fun keyword =>
    keyword.impliedKind?.map fun kind => (keyword, kind)

theorem value?_set_self (d : Definition) (keyword : Keyword) (v : keyword.Value) :
    (d.set keyword v).value? keyword = some v := by
  cases keyword <;> rfl

theorem value?_set_of_ne (d : Definition) {keyword other : Keyword} (v : keyword.Value)
    (hne : keyword ≠ other) : (d.set keyword v).value? other = d.value? other := by
  cases keyword <;> cases other <;> first | rfl | exact absurd rfl hne

end Definition

end TreeSchema
