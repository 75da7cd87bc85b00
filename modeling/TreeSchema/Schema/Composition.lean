/-
Compositions in normal form.

`Schema.intersection` and `Schema.union` build the composition of some schemas and leave
out what adds nothing: parts of a nested composition of the same sort come in its place,
an intersection needs no part that admits everything, a union with such a part admits
everything, and a single part stands for itself.
-/
import TreeSchema.Schema.Basic

namespace TreeSchema

namespace Schema

/-- The parts that a schema adds to an intersection. -/
def conjuncts : Schema → List Schema
  | .any => []
  | .allOf parts => parts
  | s => [s]

/-- The parts that a schema adds to a union. -/
def disjuncts : Schema → List Schema
  | .anyOf parts => parts
  | s => [s]

/-- Whether a schema is the one of every value. -/
def isAny : Schema → Bool
  | .any => true
  | _ => false

/-- The values that match every one of some schemas. -/
def intersection (parts : List Schema) : Schema :=
  match parts.flatMap conjuncts with
  | [] => .any
  | [s] => s
  | several => .allOf several

/-- The values that match one of some schemas. -/
def union (parts : List Schema) : Schema :=
  if parts.any isAny then .any
  else
    match parts.flatMap disjuncts with
    | [s] => s
    | several => .anyOf several

end Schema

end TreeSchema
