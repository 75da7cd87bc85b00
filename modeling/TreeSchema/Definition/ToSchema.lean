/-
The schema that a definition defines.

The keywords of a definition fall into groups: the reference, those about the parts of
objects and arrays, those about a value as a whole, and the compositions.  Each group gives a
schema, and the definition is their intersection.

Keywords about values of one kind imply that kind, so a definition without a `type` has
it as its type and no definition has keywords that imply two of them.  A `type` with
several names is a union with an arm for each name.  Only the arms that agree with the implied
kind are held to the keywords; the others are held to their kind and the enumeration.

The definitions nested in a definition are taken first.  What is wrong with one of them
matters only where its schema is used: nothing looks into the properties of a definition that
is not about objects.
-/
import TreeSchema.Definition.OfJson
import TreeSchema.Schema.Composition
import TreeSchema.Schema.Flaw

namespace TreeSchema

namespace Definition

open Schema (FlawAt Step)

/-- What nested definitions define, as far as a definition has them. -/
structure Nested where
  properties : Option (Except FlawAt (List (String × Schema)))
  items : Option (Except FlawAt Schema)
  allOf : Option (Except FlawAt (List Schema))
  anyOf : Option (Except FlawAt (List Schema))

/-- Fails with a flaw of the definition itself. -/
def fail {α : Type} (flaw : Flaw) : Except FlawAt α := .error (.here flaw)

/-- Fails if there is a flaw. -/
def refuse : Option Flaw → Except FlawAt Unit
  | some flaw => fail flaw
  | none => .ok ()

/-! ### Kinds -/

/-- The one kind that the keywords imply, if any. -/
def impliedKind? (d : Definition) : Except FlawAt (Option Kind) :=
  match d.shapeKeywords with
  | [] => .ok none
  | (_, first) :: rest =>
    match rest.find? fun (_, kind) => kind != first with
    | some (_, second) => fail (.conflictingKinds first second)
    | none => .ok (some first)

/-- The kind of a name. -/
def kindOfName (name : String) : Except FlawAt Kind :=
  match Kind.ofName? name with
  | some kind => .ok kind
  | none => fail (.unknownKind name)

/-- Whether the keywords are about values of a kind. -/
def agrees (kind : Kind) (implied : Option Kind) : Bool :=
  match implied with
  | some implied => kind.within implied
  | none => true

/-! ### Schemas for the groups of keywords -/

def patternOf (d : Definition) : Except FlawAt (Option Pattern) :=
  match d.pattern with
  | none => .ok none
  | some source =>
    match Pattern.ofSource? source with
    | some pattern => .ok (some pattern)
    | none => fail (.invalidPattern source)

/-- The constraint to a value as a whole. -/
def leafSchema (d : Definition) (kind : Option Kind) : Except FlawAt Schema := do
  let pattern ← d.patternOf
  let c : Constraint := ⟨kind, pattern, d.choices, d.minimum, d.maximum⟩
  refuse c.flaw?
  return .leaf c

def objectSchema (d : Definition) (nested : Nested) : Except FlawAt Schema := do
  let properties ← nested.properties.getD (.ok [])
  return .object properties (Schema.requireAll (d.required.getD []))

def arraySchema (d : Definition) (nested : Nested) : Except FlawAt Schema := do
  let items ← match nested.items with
    | some item => item.map some
    | none => pure none
  refuse (Schema.lengthFlaw? d.minItems d.maxItems)
  return .array items d.minItems d.maxItems

/-- Whether there are keywords about a value as a whole. -/
def hasLeafKeyword (d : Definition) : Bool :=
  d.has .pattern || d.has .enum || d.has .minimum || d.has .maximum

/-- The constraint to a value as a whole, unless it asks for nothing.  The kinds of objects and
arrays are asked for by the schemas of their parts. -/
def leafSchemas (d : Definition) (kind : Option Kind) : Except FlawAt (List Schema) :=
  let leafKind := kind.filter fun kind => !kind.isShape
  if leafKind.isSome || d.hasLeafKeyword then (d.leafSchema leafKind).map fun s => [s]
  else .ok []

/-- The schema for the parts of objects or arrays, if the kind has parts. -/
def shapeSchemas (d : Definition) (nested : Nested) (kind : Option Kind) :
    Except FlawAt (List Schema) :=
  match kind with
  | some .object => (d.objectSchema nested).map fun s => [s]
  | some .array => (d.arraySchema nested).map fun s => [s]
  | _ => .ok []

/-- What the keywords ask of a value of a kind. -/
def kindSchema (d : Definition) (nested : Nested) (kind : Option Kind) : Except FlawAt Schema := do
  let shapes ← d.shapeSchemas nested kind
  let leaves ← d.leafSchemas kind
  return .intersection (shapes ++ leaves)

/-- The arm of a union of kinds. -/
def armSchema (d : Definition) (nested : Nested) (implied : Option Kind) (name : String) :
    Except FlawAt Schema := do
  let kind ← kindOfName name
  if agrees kind implied then d.kindSchema nested (some kind)
  else return .leaf { kind := some kind, choices := d.choices }

/-- The schema for the `type`, the keywords of the implied kind and those about a value as a
whole. -/
def typeSchema (d : Definition) (nested : Nested) (implied : Option Kind) :
    Except FlawAt Schema :=
  match d.kindNames with
  | none => d.kindSchema nested implied
  | some (.one name) => do
    let kind ← kindOfName name
    match implied with
    | some other =>
      if kind.within other then d.kindSchema nested (some kind)
      else fail (.conflictingKinds kind other)
    | none => d.kindSchema nested (some kind)
  | some (.many []) => fail (.emptyList .type)
  | some (.many names) => do
    let arms ← names.mapM (d.armSchema nested implied)
    return .union arms

/-- The schema for a composition: none without the keyword. -/
def compositionSchema (keyword : ListKeyword) (compose : List Schema → Schema)
    (parts : Option (Except FlawAt (List Schema))) : Except FlawAt (List Schema) :=
  match parts with
  | none => .ok []
  | some result => do
    let schemas ← result
    if schemas.isEmpty then fail (.emptyList keyword) else return [compose schemas]

/-- The schema of a definition, from those of the definitions in it. -/
def schemaWith (d : Definition) (nested : Nested) : Except FlawAt Schema := do
  let implied ← d.impliedKind?
  let typed ← d.typeSchema nested implied
  let all ← compositionSchema .allOf .intersection nested.allOf
  let some_ ← compositionSchema .anyOf .union nested.anyOf
  return .intersection ((d.reference.map Schema.ref).toList ++ [typed] ++ all ++ some_)

/-! ### Definitions in definitions -/

/-- A result as seen from one step further out. -/
def under {α : Type} (step : Step) (result : Except FlawAt α) : Except FlawAt α :=
  result.mapError (FlawAt.under step)

mutual

/-- The schema of a definition. -/
def schema : Definition → Except FlawAt Schema
  | d@⟨_, _, _, _, _, _, _, properties, _, items, _, _, allOf, anyOf⟩ =>
    d.schemaWith {
      properties := match properties with
        | some entries => some (propertySchemas entries)
        | none => none
      items := match items with
        | some item => some (under .items item.schema)
        | none => none
      allOf := match allOf with
        | some parts => some (partSchemas .allOf 0 parts)
        | none => none
      anyOf := match anyOf with
        | some parts => some (partSchemas .anyOf 0 parts)
        | none => none }

/-- The schemas of properties. -/
def propertySchemas : List (String × Definition) → Except FlawAt (List (String × Schema))
  | [] => .ok []
  | (name, d) :: rest =>
    match under (.property name) d.schema with
    | .error found => .error found
    | .ok s => (propertySchemas rest).map fun entries => (name, s) :: entries

/-- The schemas of the parts of a composition, counted from an index. -/
def partSchemas (step : Nat → Step) (index : Nat) : List Definition → Except FlawAt (List Schema)
  | [] => .ok []
  | d :: rest =>
    match under (step index) d.schema with
    | .error found => .error found
    | .ok s => (partSchemas step (index + 1) rest).map fun schemas => s :: schemas

end

/-- The schema of a definition with its identity. -/
def entry (d : Definition) : Except SchemaError SchemaEntry :=
  match d.schema with
  | .ok s => .ok ⟨d.id, s⟩
  | .error (place, flaw) => .error (.flawed place flaw)

/-- The schema that a value defines, with its identity. -/
def entryOfJson (v : Json) : Except SchemaError SchemaEntry :=
  match ofJson v with
  | .ok d => d.entry
  | .error fault => .error (.misshapen fault)

end Definition

end TreeSchema
