/-
Flaws of schemas.

Some schemas ask for nothing that makes sense: a composition without parts, or bounds of
which the lower one exceeds the upper one.  More can be wrong with the definition that a
schema comes from.  A `Flaw` says what is wrong, and a place says where, as the steps
from the whole schema down to the flawed part.

`Schema.firstFlaw?` finds the first flaw in pre-order: that of a schema itself comes before
those of its parts, and the parts come in their own order.
-/
import TreeSchema.Json.Fault
import TreeSchema.Schema.Basic

namespace TreeSchema

namespace Schema

/-- One step from a schema to a part of it. -/
inductive Step where
  | property (name : String)
  | items
  | allOf (index : Nat)
  | anyOf (index : Nat)
  deriving DecidableEq, Repr

def Step.text : Step → String
  | .property name => "properties/" ++ name
  | .items => "items"
  | .allOf index => "allOf/" ++ toString index
  | .anyOf index => "anyOf/" ++ toString index

/-- The text of a place: a hash for the whole schema, and each step after a slash. -/
def placeText (place : List Step) : String :=
  "#" ++ String.join (place.map fun step => "/" ++ step.text)

end Schema

/-- The keywords whose lists must not be empty. -/
inductive ListKeyword where
  | type
  | allOf
  | anyOf
  deriving DecidableEq, Repr

def ListKeyword.name : ListKeyword → String
  | .type => "type"
  | .allOf => "allOf"
  | .anyOf => "anyOf"

/-- What can be wrong with a schema or with its definition. -/
inductive Flaw where
  | unknownKind (name : String)
  /-- The source is no regular expression. -/
  | invalidPattern (source : String)
  | emptyList (keyword : ListKeyword)
  /-- Two kinds are asked for that no value has both. -/
  | conflictingKinds (first second : Kind)
  | invertedLengths (least most : Nat)
  | invertedBounds (minimum maximum : Binary64)
  deriving DecidableEq, Repr

/-- The words of a reader of regular expressions: why it refuses a source, as far as it says. -/
abbrev Wording : Type := String → Option String

namespace Flaw

def inverted (low lowText high highText : String) : String :=
  "`" ++ low ++ "` (" ++ lowText ++ ") exceeds `" ++ high ++ "` (" ++ highText ++ ")"

/-- What is wrong.  Why a source is refused is left to the words of the reader that refuses it;
without any, only the source is named. -/
def message (flaw : Flaw) (words : Wording := fun _ => none) : String :=
  match flaw with
  | .unknownKind name => "unknown type `" ++ name ++ "`"
  | .invalidPattern source =>
    "invalid pattern `" ++ source ++ "`" ++ ((words source).map (": " ++ ·)).getD ""
  | .emptyList keyword => "`" ++ keyword.name ++ "` needs at least one sub-schema"
  | .conflictingKinds first second =>
    "keywords ask for both " ++ first.name ++ " and " ++ second.name
  | .invertedLengths least most => inverted "minItems" (toString least) "maxItems" (toString most)
  | .invertedBounds minimum maximum =>
    inverted "minimum" (DecimalLayout.plain.text minimum) "maximum"
      (DecimalLayout.plain.text maximum)

end Flaw

/-- Why there is no schema: it has a flaw at some place, or what should define it is not
of the form of a definition. -/
inductive SchemaError where
  | flawed (place : List Schema.Step) (flaw : Flaw)
  | misshapen (fault : Json.Fault)
  deriving DecidableEq, Repr

/-- The place and what is wrong there. -/
def SchemaError.message (why : SchemaError) (words : Wording := fun _ => none) : String :=
  match why with
  | .flawed place flaw => Schema.placeText place ++ ": " ++ flaw.message words
  | .misshapen fault => Json.pathText fault.path ++ ": " ++ fault.message

/-- The lower bound exceeds the upper one. -/
def Constraint.flaw? (c : Constraint) : Option Flaw :=
  match c.minimum, c.maximum with
  | some minimum, some maximum =>
    if maximum.precedes minimum then some (.invertedBounds minimum maximum) else none
  | _, _ => none

namespace Schema

/-- The least length exceeds the most. -/
def lengthFlaw? (least most : Option Nat) : Option Flaw :=
  match least, most with
  | some least, some most => if most < least then some (.invertedLengths least most) else none
  | _, _ => none

/-- A composition has no parts. -/
def emptyFlaw? (keyword : ListKeyword) (parts : List Schema) : Option Flaw :=
  if parts.isEmpty then some (.emptyList keyword) else none

/-- A flaw and the place of it. -/
abbrev FlawAt : Type := List Step × Flaw

/-- A flaw as seen from one step further out. -/
def FlawAt.under (step : Step) (found : FlawAt) : FlawAt := (step :: found.1, found.2)

/-- A flaw of the schema itself. -/
def FlawAt.here (flaw : Flaw) : FlawAt := ([], flaw)

mutual

/-- The first flaw of a schema in pre-order. -/
def firstFlaw? : Schema → Option FlawAt
  | .any => none
  | .ref _ => none
  | .leaf constraint => constraint.flaw?.map FlawAt.here
  | .object properties _ => propertyFlaw? properties
  | .array items least most =>
    ((lengthFlaw? least most).map FlawAt.here).or
      (match items with
        | some item => item.firstFlaw?.map (FlawAt.under .items)
        | none => none)
  | .allOf parts => ((emptyFlaw? .allOf parts).map FlawAt.here).or (listFlaw? .allOf 0 parts)
  | .anyOf parts => ((emptyFlaw? .anyOf parts).map FlawAt.here).or (listFlaw? .anyOf 0 parts)

/-- The first flaw in the schemas of fields. -/
def propertyFlaw? : List (String × Schema) → Option FlawAt
  | [] => none
  | (name, s) :: rest => (s.firstFlaw?.map (FlawAt.under (.property name))).or (propertyFlaw? rest)

/-- The first flaw in the parts of a composition, counted from an index. -/
def listFlaw? (step : Nat → Step) (index : Nat) : List Schema → Option FlawAt
  | [] => none
  | s :: rest =>
    (s.firstFlaw?.map (FlawAt.under (step index))).or (listFlaw? step (index + 1) rest)

end

/-- Refuses a schema with a flaw. -/
def validate (s : Schema) : Except SchemaError Unit :=
  match s.firstFlaw? with
  | some (place, flaw) => .error (.flawed place flaw)
  | none => .ok ()

end Schema

end TreeSchema
