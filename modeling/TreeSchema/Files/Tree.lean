/-
Files kept in memory.

A `FileTree` is a directory with everything in it.  Paths start from it as the current
directory, and nothing is known of what lies outside.
-/
import TreeSchema.Entries
import TreeSchema.Files.Basic

namespace TreeSchema

/-- A file or a directory. -/
inductive FileTree where
  | file (content : ByteArray)
  | directory (entries : List (String × FileTree))

namespace FileTree

/-- The directory of nothing. -/
def empty : FileTree := .directory []

/-- What a directory holds. -/
def entries : FileTree → Entries FileTree
  | .directory entries => entries
  | .file _ => []

def kind : FileTree → FileKind
  | .file _ => .file
  | .directory _ => .directory

/-- The tree with a file at the end of some components; directories on the way are made. -/
def insert (tree : FileTree) (content : ByteArray) : List String → FileTree
  | [] => .file content
  | name :: rest =>
    let inner := (Entries.get? tree.entries name).getD empty
    .directory (Entries.put tree.entries name (inner.insert content rest))

/-- The tree of some files, given by paths and contents. -/
def ofFiles (files : List (String × ByteArray)) : FileTree :=
  files.foldl (fun tree (path, content) =>
    tree.insert content ((Text.split '/' path.toList).map String.ofList)) empty

/-- Follows components from the innermost of nested directories. -/
def follow : List FileTree → List String → Except FileError FileTree
  | [], [] => .ok empty
  | tree :: _, [] => .ok tree
  | nested, component :: rest =>
    match nested.headD empty with
    | .file _ => .error .notDirectory
    | .directory entries =>
      if component = "" ∨ component = "." then follow nested rest
      else if component = ".." then follow (nested.drop 1) rest
      else
        match Entries.get? entries component with
        | some inner => follow (inner :: nested) rest
        | none => .error .notFound

/-- What is at a path. -/
def find (tree : FileTree) (path : String) : Except FileError FileTree :=
  let components := (Text.split '/' path.toList).map String.ofList
  if path.isEmpty then .error .notFound
  else if path.startsWith "/" then follow [] components
  else follow [tree] components

/-- The text of a file. -/
def text : FileTree → Except FileError String
  | .directory _ => .error .isDirectory
  | .file content =>
    match String.fromUTF8? content with
    | some text => .ok text
    | none => .error .notText

/-- Access to a tree. -/
def files (tree : FileTree) : Files Id where
  kind? path := pure ((tree.find path).toOption.map kind)
  names path := pure ((tree.find path).map fun found => Entries.names found.entries)
  read path := pure ((tree.find path).bind text)

end FileTree

end TreeSchema
