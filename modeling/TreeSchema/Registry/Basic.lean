/-
Registries.

A registry holds schemas under names, in the order in which the names were first
registered.  Schemas refer to each other by these names, and a name that is referred to
need not be registered.  `Registry.store` never fails; it gives a schema without identity
its name as identity, and tells whether anything changed.
-/
import TreeSchema.Schema.Equality

namespace TreeSchema

/-- Schemas under names. -/
structure Registry where
  entries : List (String × SchemaEntry) := []
  deriving Repr

/-- The entry with an identity: its own, or else the given one. -/
def SchemaEntry.withDefaultId (entry : SchemaEntry) (id : String) : SchemaEntry :=
  { entry with id := some (entry.id.getD id) }

namespace Registry

/-- The registry of nothing. -/
def empty : Registry := {}

/-- The entry under a name. -/
def lookup? (r : Registry) (name : String) : Option SchemaEntry := Entries.get? r.entries name

/-- Whether a name is registered. -/
def contains (r : Registry) (name : String) : Bool := (r.lookup? name).isSome

/-- The names in the order of their first registration. -/
def names (r : Registry) : List String := Entries.names r.entries

/-- How many names there are. -/
def size (r : Registry) : Nat := r.entries.length

/-- Whether the same entry is already under a name. -/
def holds (r : Registry) (name : String) (entry : SchemaEntry) : Bool :=
  match r.lookup? name with
  | some old => old.same entry
  | none => false

/-- Puts an entry under a name.  Nothing changes when the same entry is there. -/
def store (r : Registry) (name : String) (entry : SchemaEntry) : Registry × Bool :=
  let identified := entry.withDefaultId name
  if r.holds name identified then (r, false)
  else (⟨Entries.put r.entries name identified⟩, true)

/-- Puts entries under their names, one after another. -/
def storeAll (r : Registry) (entries : List (String × SchemaEntry)) : Registry :=
  entries.foldl (fun r (name, entry) => (r.store name entry).1) r

/-- The references to names that are not registered, each with the name of the schema that it
stands in. -/
def dangling (r : Registry) : List (String × String) :=
  r.entries.flatMap fun (owner, entry) =>
    (entry.schema.references.filter fun name => !r.contains name).map fun name => (owner, name)

end Registry

end TreeSchema
