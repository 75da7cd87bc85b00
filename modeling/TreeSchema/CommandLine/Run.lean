/-
Running commands.

A command makes its registry from the catalogs, then its query from the argument for the
schema, and only then looks at documents, in order.  The first document that is not as it should
be ends the command, and what was found in those before it is still reported.

Everything that comes from files is in the material, so `Command.report` is a plain
function.
-/
import TreeSchema.CommandLine.Material
import TreeSchema.CommandLine.Report
import TreeSchema.EcmaScript
import TreeSchema.Registry.Registration
import TreeSchema.Text.Lines
import TreeSchema.Text.Space

namespace TreeSchema

namespace CommandLine

/-! ### Registries and queries -/

/-- The registry that catalogs give when they are imported one after another. -/
def importSources (r : Registry) : List Source → Except Failure Registry
  | [] => .ok r
  | (path, content) :: rest =>
    match content with
    | .error why => .error (.catalogFile path why)
    | .ok text =>
      match r.importText text with
      | .error why => .error (.catalog path why)
      | .ok (r, _) => importSources r rest

/-- The registry that a command works with. -/
def CatalogOptions.registry (options : CatalogOptions) (catalogs : List Source) :
    Except Failure Registry :=
  importSources (if options.builtin then Registry.ecmaScript else Registry.empty) catalogs

/-- The query that an argument stands for: a definition if it begins with a brace, and else a
name. -/
def queryOf (argument : String) : Except Failure Query :=
  if (argument.toList.dropWhile Text.isSpace).head? = some '\x7b' then
    match Json.ofText argument with
    | .ok v => .ok (.json v)
    | .error fault => .error (.schemaText fault)
  else .ok (.json (.string argument))

/-! ### Documents -/

/-- A document and the label that it is reported under. -/
abbrev Document : Type := String × Json

/-- The document that a text is, or the part of it that a pointer selects. -/
def readDocument (pointer : Option String) (label text : String) : Except Failure Document :=
  match Json.ofText text with
  | .error fault => .error (.source label fault)
  | .ok v =>
    match pointer with
    | none => .ok (label, v)
    | some pointer =>
      match v.at? pointer with
      | some part => .ok (label, part)
      | none => .error (.pointer pointer label)

/-- The lines of a text that are not blank, each with its number. -/
def numberedLines (text : String) : List (Nat × String) :=
  ((Text.lines text).zipIdx 1).filterMap fun (line, number) =>
    if Text.isBlank line then none else some (number, line)

/-- The documents in a file. -/
def InputOptions.documentsIn (options : InputOptions) (source : Source) :
    List (Except Failure Document) :=
  match source with
  | (path, .error why) => [.error (.sourceFile path why)]
  | (path, .ok text) =>
    if options.byLine then
      (numberedLines text).map fun (number, line) =>
        readDocument options.pointer (path ++ ":" ++ toString number) line
    else [readDocument options.pointer path text]

/-- The results before the first failure, and that failure if there is one. -/
def untilFailure {α : Type} : List (Except Failure α) → List α × Option Failure
  | [] => ([], none)
  | .error failure :: _ => ([], some failure)
  | .ok result :: rest =>
    let (results, failure) := untilFailure rest
    (result :: results, failure)

/-- What a question to each document gives, under the labels of the documents. -/
def ask {α : Type} (options : InputOptions) (sources : List Source)
    (question : Json → Except QueryError α) : List (String × α) × Option Failure :=
  untilFailure ((sources.flatMap options.documentsIn).map fun document? => do
    let (label, v) ← document?
    let result ← (question v).mapError .query
    return (label, result))

/-! ### Commands -/

/-- What a question about a schema is asked with: the registry, the query and the documents. -/
def prepared (catalogs : CatalogOptions) (schema : String) (material : Material) :
    Except Failure (Registry × Query × List Source) := do
  let r ← catalogs.registry material.catalogs
  let q ← queryOf schema
  let _ ← (r.prepare q).mapError .query
  let sources ← material.documents.mapError .input
  return (r, q, sources)

def countReport (colour : Bool) (catalogs : CatalogOptions) (inputs : InputOptions)
    (schema : String) (material : Material) : Report :=
  match prepared catalogs schema material with
  | .error failure => .failed failure
  | .ok (r, q, sources) =>
    let (counts, failure) := ask inputs sources fun v => r.count catalogs.depth v q
    let lines := counts.map fun (label, n) => label ++ "\t" ++ styled colour [.bold] (toString n)
    match failure with
    | some failure => { lines := lines, failure := some failure }
    | none =>
      let total := counts.foldl (fun n count => n + count.2) 0
      { lines := lines ++
          [styled colour [.dimmed] "total" ++ "\t" ++
            styled colour [.bold, .green] (toString total)] }

def testReport (colour : Bool) (catalogs : CatalogOptions) (inputs : InputOptions)
    (schema : String) (material : Material) : Report :=
  match prepared catalogs schema material with
  | .error failure => .failed failure
  | .ok (r, q, sources) =>
    let (verdicts, failure) := ask inputs sources fun v => r.test catalogs.depth v q
    { lines := verdicts.map fun (label, verdict) => label ++ "\t" ++
        if verdict then styled colour [.green] "match" else styled colour [.red] "no match"
      failure := failure }

/-- A name, and the identity of its schema if that is another one. -/
def schemaLine (colour : Bool) (name : String) (entry : SchemaEntry) : String :=
  match entry.id with
  | some id =>
    if id = name then name else name ++ "\t" ++ styled colour [.dimmed] ("(id: " ++ id ++ ")")
  | none => name

def schemasReport (colour : Bool) (catalogs : CatalogOptions) (check : Bool)
    (material : Material) : Report :=
  match catalogs.registry material.catalogs with
  | .error failure => .failed failure
  | .ok r =>
    let lines := r.entries.map fun (name, entry) => schemaLine colour name entry
    let dangling := if check then r.dangling else []
    { lines := lines
      warnings := dangling.map fun (owner, missing) =>
        owner ++ " references unregistered schema " ++ missing
      failure := if dangling.isEmpty then none else some (.dangling dangling.length) }

/-- What a command reports. -/
def Command.report (colour : Bool) (command : Command) (material : Material) : Report :=
  match command with
  | .count catalogs inputs schema => countReport colour catalogs inputs schema material
  | .test catalogs inputs schema => testReport colour catalogs inputs schema material
  | .schemas catalogs check => schemasReport colour catalogs check material

/-- Performs a command. -/
def Command.perform {m : Type → Type} [Monad m] (colour : Bool) (files : Files m)
    (command : Command) : m Report := do
  return command.report colour (← command.material files)

end CommandLine

end TreeSchema
