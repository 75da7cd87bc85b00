/-
Registration.

Schemas are registered one by one, as they are or by definitions, or as the entries of a
catalog.  What fails leaves the registry as it was.
-/
import TreeSchema.Catalog
import TreeSchema.Registry.Basic

namespace TreeSchema

namespace Registry

/-- Registers a schema that has no flaw.  The answer also tells whether anything changed. -/
def register (r : Registry) (name : String) (entry : SchemaEntry) :
    Except SchemaError (Registry × Bool) :=
  match entry.schema.validate with
  | .ok () => .ok (r.store name entry)
  | .error why => .error why

/-- Registers the schema that a value defines. -/
def registerJson (r : Registry) (name : String) (v : Json) :
    Except SchemaError (Registry × Bool) :=
  (Definition.entryOfJson v).map (r.store name)

/-- Registers the entries of a catalog.  The answer also tells how many there are. -/
def importCatalog (r : Registry) (v : Json) : Except CatalogError (Registry × Nat) :=
  (Catalog.ofJson v).map fun entries => (r.storeAll entries, entries.length)

/-- Registers the entries of the catalog that a text begins with. -/
def importText (r : Registry) (text : String) : Except CatalogError (Registry × Nat) :=
  (Catalog.ofTextBeginning text).map fun entries => (r.storeAll entries, entries.length)

/-- The registry of some schemas, registered one after another. -/
def ofSchemas : Registry → List (String × Schema) → Except SchemaError Registry
  | r, [] => .ok r
  | r, (name, s) :: rest =>
    match r.register name { schema := s } with
    | .ok (r, _) => ofSchemas r rest
    | .error why => .error why

end Registry

end TreeSchema
