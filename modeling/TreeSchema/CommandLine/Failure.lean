/-
Why a command fails.

A failure names the file or argument at fault.  Its message tells the whole story from the
outside in: what could not be done, and then why.
-/
import TreeSchema.Catalog
import TreeSchema.Files.Basic
import TreeSchema.Glob.Expansion
import TreeSchema.Query

namespace TreeSchema

namespace CommandLine

/-- Why an input gives no paths. -/
inductive InputError where
  | missing (path : String)
  | badPattern (pattern : String) (why : Glob.Error)
  | unlisted (pattern : String) (what : Glob.Unlisted)
  | unmatched (pattern : String)
  deriving DecidableEq, Repr

def InputError.message : InputError → String
  | .missing path => "no such file: " ++ path
  | .badPattern pattern why => "invalid glob pattern " ++ pattern ++ ": " ++ why.message
  | .unlisted pattern what => "unreadable match for " ++ pattern ++ ": " ++ what.message
  | .unmatched pattern => "glob pattern matched no files: " ++ pattern

/-- Why a command fails. -/
inductive Failure where
  | catalogFile (path : String) (why : FileError)
  | catalog (path : String) (why : CatalogError)
  | schemaText (fault : Json.Fault)
  | query (why : QueryError)
  | input (why : InputError)
  | sourceFile (path : String) (why : FileError)
  | source (label : String) (fault : Json.Fault)
  | pointer (pointer label : String)
  | dangling (count : Nat)

/-- The message of an error and, once more, that of the error inside it. -/
def chained (message : String) (inner? : Option String) : String :=
  match inner? with
  | some inner => message ++ ": " ++ inner
  | none => message

/-- The error about a schema inside an error about a catalog. -/
def inCatalogError? (words : Wording) : CatalogError → Option String
  | .entry _ why => some (why.message words)
  | _ => none

/-- The error about a schema inside an error about a query. -/
def inQueryError? (words : Wording) : QueryError → Option String
  | .malformed why => some (why.message words)
  | _ => none

def Failure.message (failure : Failure) (words : Wording := fun _ => none) : String :=
  match failure with
  | .catalogFile path why => "failed to read catalog file " ++ path ++ ": " ++ why.message
  | .catalog path why =>
    "failed to import catalog " ++ path ++ ": " ++
      chained (why.message words) (inCatalogError? words why)
  | .schemaText fault => "--schema looks like JSON but does not parse: " ++ fault.message
  | .query why => chained (why.message words) (inQueryError? words why)
  | .input why => "failed to resolve input file paths: " ++ why.message
  | .sourceFile path why => "failed to read source file " ++ path ++ ": " ++ why.message
  | .source label fault => "failed to parse JSON source (" ++ label ++ "): " ++ fault.message
  | .pointer text label => "JSON pointer " ++ text ++ " selects nothing in " ++ label
  | .dangling count => toString count ++ " dangling reference(s)"

end CommandLine

end TreeSchema
