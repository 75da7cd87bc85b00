/-
What a command takes from files.

The material of a command is the texts of its catalogs and the paths and texts of its
documents.  It is the only thing that a command needs files for, so all access to them is
here.
-/
import TreeSchema.CommandLine.Command
import TreeSchema.CommandLine.Failure

namespace TreeSchema

namespace CommandLine

/-- A path and what reading it gives. -/
abbrev Source : Type := String × Except FileError String

/-- What a command takes from files. -/
structure Material where
  catalogs : List Source
  documents : Except InputError (List Source)

section

variable {m : Type → Type} [Monad m]

/-- The paths that an input stands for.  A path has to exist, and a pattern has to match. -/
def pathsOf (files : Files m) (input : String) : m (Except InputError (List String)) := do
  if Glob.isPattern input then
    match Glob.ofText input with
    | .error why => return .error (.badPattern input why)
    | .ok pattern =>
      match (← Glob.expand files pattern).mapM id with
      | .error what => return .error (.unlisted input what)
      | .ok [] => return .error (.unmatched input)
      | .ok paths => return .ok paths
  else
    match ← files.kind? input with
    | some _ => return .ok [input]
    | none => return .error (.missing input)

/-- A path with its content. -/
def readSource (files : Files m) (path : String) : m Source := do
  return (path, ← files.read path)

/-- Reads the documents of inputs, if all inputs stand for paths. -/
def readInputs (files : Files m) (inputs : List String) :
    m (Except InputError (List Source)) := do
  match (← inputs.mapM (pathsOf files)).mapM id with
  | .error why => return .error why
  | .ok paths => return .ok (← paths.flatten.mapM (readSource files))

def Command.catalogPaths : Command → List String
  | .count catalogs _ _ => catalogs.catalogs
  | .test catalogs _ _ => catalogs.catalogs
  | .schemas catalogs _ => catalogs.catalogs

def Command.inputs : Command → List String
  | .count _ inputs _ => inputs.inputs
  | .test _ inputs _ => inputs.inputs
  | .schemas _ _ => []

/-- Gets the material for a command. -/
def Command.material (files : Files m) (command : Command) : m Material := do
  return ⟨← command.catalogPaths.mapM (readSource files), ← readInputs files command.inputs⟩

end

end CommandLine

end TreeSchema
