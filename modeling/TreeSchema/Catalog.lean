/-
Catalogs.

A catalog is an object of definitions, each under the name to register it by.  It is taken as a
whole: all its definitions are read before the first one is made into a schema, and the first
thing that is wrong makes the whole catalog fail.
-/
import TreeSchema.Definition.ToSchema
import TreeSchema.Json.Reader

namespace TreeSchema

/-- What can be wrong with a catalog. -/
inductive CatalogError where
  /-- The text is malformed or some definition misshapen. -/
  | unreadable (fault : Json.Fault)
  | notObject (form : Json.Form)
  | entry (name : String) (why : SchemaError)
  deriving DecidableEq, Repr

def CatalogError.message (why : CatalogError) (words : Wording := fun _ => none) : String :=
  match why with
  | .unreadable fault =>
    "catalog is not valid JSON at " ++ Json.pathText fault.path ++ ": " ++ fault.message
  | .notObject form => "catalog must be a JSON object of name -> schema, found " ++ form.name
  | .entry name why => "catalog entry `" ++ name ++ "`: " ++ why.message words

namespace Catalog

/-- The entries that definitions define. -/
def entriesOf : List (String × Definition) → Except CatalogError (List (String × SchemaEntry))
  | [] => .ok []
  | (name, d) :: rest =>
    match d.entry with
    | .error why => .error (.entry name why)
    | .ok entry => (entriesOf rest).map fun entries => (name, entry) :: entries

/-- The entries of a catalog. -/
def ofJson (v : Json) : Except CatalogError (List (String × SchemaEntry)) :=
  if v.form = .object then
    match Definition.catalogOfJson v with
    | .ok definitions => entriesOf definitions
    | .error fault => .error (.unreadable fault)
  else .error (.notObject v.form)

/-- The entries of the catalog that a text begins with, whatever follows it. -/
def ofTextBeginning (text : String) : Except CatalogError (List (String × SchemaEntry)) :=
  match Json.ofTextBeginning text with
  | .ok v => ofJson v
  | .error fault => .error (.unreadable fault)

end Catalog

end TreeSchema
