/-
Equality of schemas.

Schemas are compared by what they say: patterns by their source, the schemas of fields by
name and not by order, literals as data, and bounds by their place on the number line.
Required names, literals and parts are compared in order.
-/
import TreeSchema.Schema.Basic

namespace TreeSchema

/-- Both absent, or both present and the same. -/
def sameOption {α : Type} (same : α → α → Bool) : Option α → Option α → Bool
  | none, none => true
  | some a, some b => same a b
  | _, _ => false

namespace Constraint

def same (a b : Constraint) : Bool :=
  a.kind == b.kind && sameOption Pattern.same a.pattern b.pattern &&
    sameOption Json.sameElements a.choices b.choices &&
    sameOption Binary64.sameRank a.minimum b.minimum &&
    sameOption Binary64.sameRank a.maximum b.maximum

end Constraint

namespace Schema

mutual

/-- Equality of schemas. -/
def same : Schema → Schema → Bool
  | .any, .any => true
  | .ref a, .ref b => a == b
  | .leaf a, .leaf b => a.same b
  | .object ps required, .object qs required' =>
    ps.length == qs.length && sameProperties ps qs && required == required'
  | .array items least most, .array items' least' most' =>
    sameItems items items' && least == least' && most == most'
  | .allOf as, .allOf bs => sameParts as bs
  | .anyOf as, .anyOf bs => sameParts as bs
  | _, _ => false

/-- Each field on the left has the same schema on the right. -/
def sameProperties : List (String × Schema) → List (String × Schema) → Bool
  | [], _ => true
  | (name, a) :: rest, qs =>
    (match Entries.get? qs name with
      | some b => same a b
      | none => false) && sameProperties rest qs

/-- The same schema for elements, or none on both sides. -/
def sameItems : Option Schema → Option Schema → Bool
  | none, none => true
  | some a, some b => same a b
  | _, _ => false

/-- The same parts in the same order. -/
def sameParts : List Schema → List Schema → Bool
  | [], [] => true
  | a :: as, b :: bs => same a b && sameParts as bs
  | _, _ => false

end

end Schema

namespace SchemaEntry

/-- Equality of identity and schema. -/
def same (a b : SchemaEntry) : Bool := a.id == b.id && a.schema.same b.schema

end SchemaEntry

end TreeSchema
