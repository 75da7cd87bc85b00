/-
The command line of the machine.

The program gives `CommandLine.Command.perform` the files of the machine, prints the report and
ends with its exit code.

Directories of the machine are not listed (`CommandLine.machine`).  An argument that is a pattern
has to be expanded by the shell, as it is unless it is quoted; one that comes quoted is refused.
What patterns stand for is a matter of `Glob.expand`, which works on any files.
-/
import TreeSchema.CommandLine.Run

namespace TreeSchema

namespace CommandLine

/-- What an error of the system says about a file. -/
def fileErrorOf : IO.Error → FileError
  | .noFileOrDirectory _ _ _ => .notFound
  | .inappropriateType _ _ _ => .notDirectory
  | .permissionDenied _ _ _ => .other "Permission denied (os error 13)"
  | e => .other (toString e)

/-- What is at a path of the machine.  With a slash behind it, only a directory is there. -/
def kindOnMachine? (path : String) : IO (Option FileKind) := do
  match ← (IO.FS.realPath path).toBaseIO, ← (IO.FS.realPath (path ++ "/")).toBaseIO with
  | .error _, _ => return none
  | .ok _, .error _ => return some .file
  | .ok _, .ok _ => return some .directory

/-- The text of a file of the machine. -/
def readOnMachine (path : String) : IO (Except FileError String) := do
  if (← kindOnMachine? path) == some .directory then return .error .isDirectory
  match ← (IO.FS.readBinFile path).toBaseIO with
  | .error e => return .error (fileErrorOf e)
  | .ok content =>
    match String.fromUTF8? content with
    | some text => return .ok text
    | none => return .error .notText

/-- The files of the machine.  There is no list of the names in a directory: to ask for one is an
error, and the report says that the operation is not supported. -/
def machine : Files IO where
  kind? := kindOnMachine?
  names _ := return .error (.other "Operation not supported (os error 95)")
  read := readOnMachine

/-- Whether a variable of the environment is set to something other than zero. -/
def flag? (name : String) : IO (Option Bool) := do
  return (← IO.getEnv name).map fun value => value != "0"

/-- Whether there are colours: the environment can force or forbid them, and otherwise there
are some on a terminal. -/
def hasColour : IO Bool := do
  if (← flag? "CLICOLOR_FORCE") == some true then return true
  if (← flag? "NO_COLOR").isSome then return false
  return (← flag? "CLICOLOR").getD true && (← (← IO.getStdout).isTty)

/-- Performs the command of some arguments. -/
def run (arguments : List String) : IO UInt32 := do
  match command? arguments with
  | none =>
    IO.eprintln "usage: (count | test) --schema SCHEMA --input PATH... | schemas [--check]"
    return 2
  | some command =>
    let colour ← hasColour
    let report ← command.perform colour machine
    IO.print report.output
    IO.eprint (report.errors colour)
    return report.code.toUInt32

end CommandLine

end TreeSchema

def main (arguments : List String) : IO UInt32 := TreeSchema.CommandLine.run arguments
