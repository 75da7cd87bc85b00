/-
The paths that match a pattern.

A pattern is followed component by component from the root or the current directory.  A
component that stands for itself is just looked up.  Any other one is matched to the names in
the directory, in order, so the paths come out in order too.  Between slashes, `**` goes on
both in the directory itself and in all directories below it, and at the end it stands for
these directories.

The names `.` and `..` are in no directory.  A component that stands for itself can be one
of them, and one with a dot in front can match them.

Each directory that is listed is one level further down.  There are more levels than a path
can have components, so the bound on them only matters to show that the expansion ends.
-/
import TreeSchema.Files.Basic
import TreeSchema.Glob.Pattern

namespace TreeSchema

namespace Glob

/-- How many directories can be listed one below another. -/
def maxLevels : Nat := 4096

/-- A directory that cannot be listed. -/
structure Unlisted where
  path : String
  why : FileError
  deriving DecidableEq, Repr

def Unlisted.message (u : Unlisted) : String :=
  "attempting to read `" ++ u.path ++ "` resulted in an error: " ++ u.why.message

/-- A path that matches, or a directory that would have to be listed to know. -/
abbrev Found : Type := Except Unlisted String

/-- What is next to the names in a directory: itself and the directory that it is in, if a
component asks for them by a dot. -/
def dotNames (component : List Token) : List String :=
  if component.head? = some (.char '.') then
    ["..", "."].filter fun name => admits component name.toList
  else []

/-- Whether a component stands for any number of directories. -/
def isDirectories (component : List Token) : Bool := component.contains .directories

section

variable {m : Type → Type} [Monad m]

/-- Joins what is found for each item. -/
def gather {α : Type} (items : List α) (find : α → m (List Found)) : m (List Found) := do
  return (← items.mapM find).flatten

/-- Paths below a path that match some components. -/
def expandFrom (files : Files m) (directoriesOnly : Bool) (levels : Nat)
    (components : List (List Token)) (path : String) (kind : Option FileKind) :
    m (List Found) :=
  match components with
  | [] =>
    if directoriesOnly && kind != some .directory then return [] else return [.ok path]
  | component :: rest =>
    match literal? component with
    | some chars => do
      let name := String.ofList chars
      let next := if Path.isCurrent path then name else Path.join path name
      let nextKind ← files.kind? next
      let isThere :=
        if name == "." || name == ".." then kind == some .directory else nextKind.isSome
      if isThere then expandFrom files directoriesOnly levels rest next nextKind else return []
    | none =>
      match levels, kind with
      | levels + 1, some .directory => do
        match ← files.names path with
        | .error why => return [.error ⟨path, why⟩]
        | .ok names =>
          let dots ← gather (dotNames component) fun name => do
            let next := Path.join path name
            expandFrom files directoriesOnly levels rest next (← files.kind? next)
          let others ← gather (names.mergeSort fun a b => !decide (b < a)) fun name => do
            let next := if Path.isCurrent path then name else Path.join path name
            let nextKind ← files.kind? next
            if isDirectories component then
              let after := rest.dropWhile isDirectories
              let inside ←
                if nextKind == some .directory then
                  expandFrom files directoriesOnly levels (component :: after) next nextKind
                else pure []
              match after with
              | [] =>
                return if nextKind == some .directory then .ok next :: inside else inside
              | named :: others =>
                let matching ←
                  if admits named name.toList then
                    expandFrom files directoriesOnly levels others next nextKind
                  else pure []
                return matching ++ inside
            else if admits component name.toList then
              expandFrom files directoriesOnly levels rest next nextKind
            else return []
          return dots ++ others
      | _, _ => return []
  termination_by (levels, components.length)

/-- The paths that match a pattern. -/
def expand (files : Files m) (pattern : Glob) : m (List Found) := do
  let start := if pattern.fromRoot then "/" else "."
  expandFrom files pattern.directoriesOnly maxLevels pattern.components start
    (← files.kind? start)

end

end Glob

end TreeSchema
