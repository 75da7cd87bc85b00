/-
Queries.

A query asks for the nodes of a schema.  The schema is given by a registered name, by itself, or
as a JSON value, where a text is a name and an object is a definition.  A query whose schema
cannot be had is an error, so a misspelt name is never taken for a schema that nothing matches.
Names inside the schema are another matter: one that is not registered just matches nothing.
-/
import TreeSchema.Definition.ToSchema
import TreeSchema.Matching
import TreeSchema.Traversal

namespace TreeSchema

/-- What a query asks for. -/
inductive Query where
  | name (name : String)
  | schema (s : Schema)
  | json (v : Json)

/-- Why there is no schema to ask for. -/
inductive QueryError where
  | unresolved (why : ResolveError)
  | malformed (why : SchemaError)
  /-- The value is neither a name nor a definition. -/
  | notSchema (form : Json.Form)

def QueryError.message (why : QueryError) (words : Wording := fun _ => none) : String :=
  match why with
  | .unresolved why => why.message
  | .malformed why => "malformed inline schema: " ++ why.message words
  | .notSchema form => "expected a schema name or schema object, found " ++ form.name

namespace Registry

/-- The schema that a name leads to. -/
def schemaOfName (r : Registry) (name : String) : Except QueryError Schema :=
  match r.resolve name with
  | .ok entry => .ok entry.schema
  | .error why => .error (.unresolved why)

/-- The schema that a bare reference leads to, or else the schema itself. -/
def dereference (r : Registry) (s : Schema) : Except QueryError Schema :=
  match s.alias? with
  | some name => r.schemaOfName name
  | none => .ok s

/-- The schema of a query. -/
def prepare (r : Registry) : Query → Except QueryError Schema
  | .name name => r.schemaOfName name
  | .schema s =>
    match s.validate with
    | .ok () => r.dereference s
    | .error why => .error (.malformed why)
  | .json (.string name) => r.schemaOfName name
  | .json (.object fields) =>
    match Definition.entryOfJson (.object fields) with
    | .ok entry => r.dereference entry.schema
    | .error why => .error (.malformed why)
  | .json v => .error (.notSchema v.form)

/-- Whether a value matches the schema of a query. -/
def test (r : Registry) (depth : Nat) (v : Json) (q : Query) : Except QueryError Bool :=
  (r.prepare q).map fun s => r.accepts depth s v

/-- The nodes of a document that match the schema of a query, in pre-order. -/
def find (r : Registry) (depth : Nat) (document : Json) (q : Query) :
    Except QueryError (List Json.Located) :=
  (r.prepare q).map fun s => document.nodes.filter fun found => r.accepts depth s found.2

/-- How many nodes of a document match the schema of a query. -/
def count (r : Registry) (depth : Nat) (document : Json) (q : Query) : Except QueryError Nat :=
  (r.prepare q).map fun s => document.nodes.countP fun found => r.accepts depth s found.2

end Registry

end TreeSchema
