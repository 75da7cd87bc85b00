/-
Files.

`Files m` is what the command line needs of a file system: what is at a path, which names a
directory holds, and the text of a file.  Its answers come as actions of `m`.  For the files of
the machine these are input and output, and for files kept in memory they are plain values,
so what is built on it works on both.
-/
import TreeSchema.Text.Split

namespace TreeSchema

/-- Why a file or directory cannot be read. -/
inductive FileError where
  | notFound
  | notDirectory
  | isDirectory
  | notText
  | other (message : String)
  deriving DecidableEq, Repr

def FileError.message : FileError → String
  | .notFound => "No such file or directory (os error 2)"
  | .notDirectory => "Not a directory (os error 20)"
  | .isDirectory => "Is a directory (os error 21)"
  | .notText => "stream did not contain valid UTF-8"
  | .other message => message

/-- What can be at a path. -/
inductive FileKind where
  | file
  | directory
  deriving DecidableEq, Repr

/-- Access to files. -/
structure Files (m : Type → Type) where
  /-- What is at a path, if anything. -/
  kind? (path : String) : m (Option FileKind)
  /-- The names in a directory, in any order. -/
  names (path : String) : m (Except FileError (List String))
  /-- The text of a file. -/
  read (path : String) : m (Except FileError String)

namespace Path

/-- A path with one more component. -/
def join (path component : String) : String :=
  if path.isEmpty || path.endsWith "/" then path ++ component else path ++ "/" ++ component

/-- Whether a path is a way to write the current directory. -/
def isCurrent (path : String) : Bool :=
  path.startsWith "." &&
    (Text.split '/' path.toList).all fun component => component.isEmpty || component == ['.']

end Path

end TreeSchema
