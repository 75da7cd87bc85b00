/-
Matching values against schemas.

`Registry.matchesWithin` decides whether a value matches a schema, with the names in the schema
taken from a registry.  It looks at three things as it goes:

* It goes down into fields and elements at most `depth` times; a value below that does not
  match.
* `opened` are the names that lead to the present schema on the present value.  A name that
  is opened already would lead round in a circle, and what only holds by going round in a circle
  does not hold.
* A name that leads to no schema matches nothing.

On every step the value gets smaller, or it stays and one more name of the registry is opened,
or both stay and the schema gets smaller.  So matching always ends, however the schemas in the
registry refer to each other.
-/
import TreeSchema.Registry.Resolution

namespace TreeSchema

/-- Goes down one level, unless that is too deep. -/
def below (depth : Nat) (test : Nat → Bool) : Bool :=
  match depth with
  | 0 => false
  | depth + 1 => test depth

namespace Registry

/-- Whether a value matches a schema that the opened names lead to. -/
def matchesWithin (r : Registry) (depth : Nat) (opened : List String) (s : Schema) (v : Json) :
    Bool :=
  match s with
  | .any => true
  | .ref name =>
    if hnew : name ∈ opened then false
    else
      match hresolve : r.resolve name with
      | .error _ => false
      | .ok entry =>
        have hless : r.namesLeft (name :: opened) < r.namesLeft opened :=
          namesLeft_lt (contains_of_resolveFrom hresolve) hnew (by simp +contextual) (by simp)
        r.matchesWithin depth (name :: opened) entry.schema v
  | .leaf constraint => constraint.admits v
  | .object properties required =>
    v.form == .object && (required.all fun name => (v.field? name).isSome) &&
      properties.all fun (name, sub) =>
        match hfield : v.field? name with
        | none => true
        | some child =>
          have hsmaller : sizeOf child < sizeOf v := Json.sizeOf_field_lt hfield
          below depth fun depth => r.matchesWithin depth [] sub child
  | .array items least most =>
    v.form == .array && Schema.admitsLength least most v.elements.length &&
      match items with
      | none => true
      | some item => v.elements.attach.all fun ⟨child, hchild⟩ =>
          have hsmaller : sizeOf child < sizeOf v := Json.sizeOf_element_lt hchild
          below depth fun depth => r.matchesWithin depth [] item child
  | .allOf parts => parts.attach.all fun ⟨part, _⟩ => r.matchesWithin depth opened part v
  | .anyOf parts => parts.attach.any fun ⟨part, _⟩ => r.matchesWithin depth opened part v
  termination_by (sizeOf v, r.namesLeft opened, sizeOf s)

/-- How deep matching goes if nothing else is asked for. -/
def defaultDepth : Nat := 512

/-- Whether a value matches a schema, down to a depth. -/
def accepts (r : Registry) (depth : Nat) (s : Schema) (v : Json) : Bool :=
  r.matchesWithin depth [] s v

end Registry

end TreeSchema
