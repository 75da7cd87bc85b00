/-
Commands.

There are three commands.  `count` and `test` ask for a schema in some documents, and `schemas`
lists the registered schemas.  Arguments are first taken apart into the options that they give,
each with its values, and then the options of a command are put together.  Anything
that is not as it should be is a misuse, and there is only one sort of it.
-/
import TreeSchema.Matching

namespace TreeSchema

namespace CommandLine

/-- Which schemas there are, and how they are matched. -/
structure CatalogOptions where
  /-- Catalogs to import, in order. -/
  catalogs : List String
  /-- Whether to start from the catalog of ECMAScript. -/
  builtin : Bool
  depth : Nat
  deriving DecidableEq, Repr

/-- Which documents to look at. -/
structure InputOptions where
  /-- Each line of a file is a document of its own. -/
  byLine : Bool
  /-- The pointer to what is looked at in a document. -/
  pointer : Option String
  /-- Paths and patterns for paths. -/
  inputs : List String
  deriving DecidableEq, Repr

/-- What to do. -/
inductive Command where
  | count (catalogs : CatalogOptions) (inputs : InputOptions) (schema : String)
  | test (catalogs : CatalogOptions) (inputs : InputOptions) (schema : String)
  | schemas (catalogs : CatalogOptions) (check : Bool)
  deriving DecidableEq, Repr

/-- The options of the commands. -/
inductive Switch where
  | catalog
  | noBuiltin
  | maxDepth
  | ndjson
  | jsonPointer
  | input
  | schema
  | check
  deriving DecidableEq, Repr

/-- How many values an option takes. -/
inductive Arity where
  | none
  | one
  | some
  deriving DecidableEq, Repr

namespace Switch

def name : Switch → String
  | .catalog => "catalog"
  | .noBuiltin => "no-builtin"
  | .maxDepth => "max-depth"
  | .ndjson => "ndjson"
  | .jsonPointer => "json-pointer"
  | .input => "input"
  | .schema => "schema"
  | .check => "check"

/-- The letter of an option, if it has one. -/
def letter? : Switch → Option Char
  | .input => some 'i'
  | .schema => some 's'
  | _ => none

def arity : Switch → Arity
  | .catalog => .some
  | .noBuiltin => .none
  | .maxDepth => .one
  | .ndjson => .none
  | .jsonPointer => .one
  | .input => .some
  | .schema => .one
  | .check => .none

/-- Whether an option can be given more than once. -/
def isRepeatable (switch : Switch) : Bool := switch.arity == .some

/-- The options of commands that look at documents. -/
def ofQueries : List Switch :=
  [.catalog, .noBuiltin, .maxDepth, .ndjson, .jsonPointer, .input, .schema]

/-- The options of the command that lists schemas. -/
def ofListing : List Switch := [.catalog, .noBuiltin, .maxDepth, .check]

end Switch

/-! ### Taking arguments apart -/

/-- What one argument is. -/
inductive Piece where
  | value (text : String)
  /-- An option, perhaps with a value in the same argument. -/
  | switch (switch : Switch) (attached : Option String)
  /-- Two hyphens, after which there are no options. -/
  | escape
  deriving DecidableEq, Repr

/-- The name of an option and what follows an equality sign. -/
def splitAtEquals (text : List Char) : List Char × Option String :=
  (text.takeWhile (· != '='),
    if text.contains '=' then some (String.ofList ((text.dropWhile (· != '=')).drop 1)) else none)

/-- What an argument is, if it is something. -/
def piece? (known : List Switch) (argument : String) : Option Piece :=
  match argument.toList with
  | ['-', '-'] => some .escape
  | '-' :: '-' :: rest =>
    let (name, attached) := splitAtEquals rest
    (known.find? fun switch => switch.name.toList == name).map fun switch =>
      .switch switch attached
  | '-' :: letter :: rest =>
    (known.find? fun switch => switch.letter? == some letter).map fun switch =>
      .switch switch (match rest with
        | [] => none
        | '=' :: value => some (String.ofList value)
        | value => some (String.ofList value))
  | _ => some (.value argument)

/-- An option with its values. -/
abbrev Given : Type := Switch × List String

/-- Takes arguments apart into options.  The first of them is `open?`, if it can still have more
values. -/
def givenFrom (known : List Switch) (open? : Option Given) : List String → Option (List Given)
  | [] => some open?.toList
  | argument :: rest => do
    match ← piece? known argument, open? with
    | .escape, _ => if rest.isEmpty then some open?.toList else none
    | .value text, some (switch, values) =>
      let given := (switch, values ++ [text])
      if switch.arity = .some then givenFrom known (some given) rest
      else return given :: (← givenFrom known none rest)
    | .value _, none => none
    | .switch switch attached, _ =>
      let others ← match switch.arity, attached with
        | .none, none => (givenFrom known none rest).map ((switch, []) :: ·)
        | .none, some _ => none
        | _, none => givenFrom known (some (switch, [])) rest
        | _, some value => (givenFrom known none rest).map ((switch, [value]) :: ·)
      return open?.toList ++ others

/-- Whether an option has as many values as it takes. -/
def hasValues (given : Given) : Bool := given.1.arity == .none || !given.2.isEmpty

/-- No option comes twice that must not. -/
def isOnce (all : List Given) (switch : Switch) : Bool :=
  switch.isRepeatable || (all.filter fun given => given.1 == switch).length ≤ 1

/-- The options that arguments give. -/
def given? (known : List Switch) (arguments : List String) : Option (List Given) := do
  let all ← givenFrom known none arguments
  if all.all hasValues && known.all (isOnce all) then some all else none

/-! ### Putting commands together -/

/-- All values of an option. -/
def valuesOf (all : List Given) (switch : Switch) : List String :=
  (all.filter fun given => given.1 == switch).flatMap Prod.snd

/-- Whether an option is given. -/
def isGiven (all : List Given) (switch : Switch) : Bool := all.any fun given => given.1 == switch

/-- The number that decimal digits stand for, which may have a plus in front, if it fits
into 64 bits. -/
def number? (text : String) : Option Nat :=
  let digits := match text.toList with
    | '+' :: digits => digits
    | digits => digits
  if digits.isEmpty || !digits.all Char.isDigit then none
  else
    let n := digits.foldl (fun n c => 10 * n + (c.toNat - '0'.toNat)) 0
    if n < Nat.pow 2 64 then some n else none

def catalogOptions? (all : List Given) : Option CatalogOptions := do
  let catalogs := valuesOf all .catalog
  if catalogs.any String.isEmpty then none
  let depth ← match (valuesOf all .maxDepth).head? with
    | some text => number? text
    | none => some Registry.defaultDepth
  return ⟨catalogs, !isGiven all .noBuiltin, depth⟩

def inputOptions? (all : List Given) : Option InputOptions :=
  let inputs := valuesOf all .input
  if inputs.isEmpty then none
  else some ⟨isGiven all .ndjson, (valuesOf all .jsonPointer).head?, inputs⟩

/-- The command that arguments give, if there is no misuse. -/
def command? (arguments : List String) : Option Command :=
  match arguments with
  | "count" :: rest => do
    let all ← given? Switch.ofQueries rest
    return .count (← catalogOptions? all) (← inputOptions? all) (← (valuesOf all .schema).head?)
  | "test" :: rest => do
    let all ← given? Switch.ofQueries rest
    return .test (← catalogOptions? all) (← inputOptions? all) (← (valuesOf all .schema).head?)
  | "schemas" :: rest => do
    let all ← given? Switch.ofListing rest
    return .schemas (← catalogOptions? all) (isGiven all .check)
  | _ => none

end CommandLine

end TreeSchema
