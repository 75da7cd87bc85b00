/-
Files kept in memory are read back.

`FileTree.HasFile` says where the files of a tree are, without following paths.  Putting a file in
leaves it there and disturbs no other one whose path is apart from it (`HasFile.insert`), so a tree
of some files has all of them (`hasFile_ofFiles`).  Following a path finds the file that is there,
as long as each component is the name of an entry and not a way to stay or to go up.  So the tree
gives each file as a file with its text (`read_ofFiles`).
-/
import Mathlib.Tactic.Lemma
import TreeSchema.Files.Tree

namespace TreeSchema

namespace Path

/-- The components of a path. -/
def components (path : String) : List String := (Text.split '/' path.toList).map String.ofList

/-- Each component is the name of an entry. -/
def Plain (components : List String) : Prop :=
  ∀ component ∈ components, component ≠ "" ∧ component ≠ "." ∧ component ≠ ".."

instance (components : List String) : Decidable (Plain components) :=
  inferInstanceAs (Decidable (∀ component ∈ components, _))

/-- Neither path goes through the other one. -/
def Apart (path other : List String) : Prop := ¬ path <+: other ∧ ¬ other <+: path

instance (path other : List String) : Decidable (Apart path other) :=
  inferInstanceAs (Decidable (_ ∧ _))

lemma components_of_isEmpty {path : String} (h : path.isEmpty = true) : components path = [""] := by
  rw [String.isEmpty_iff.mp h]
  rfl

lemma components_of_startsWith {path : String} (h : path.startsWith "/" = true) :
    "" ∈ components path := by
  obtain ⟨rest, hrest⟩ := String.startsWith_string_iff.mp h
  rw [components, ← hrest]
  exact List.mem_map.mpr ⟨[], List.mem_cons_self, rfl⟩

end Path

namespace FileTree

open TreeSchema.Path (Plain Apart)

variable {tree : FileTree} {path other : List String} {content new : ByteArray}

/-- There is a file with some content at the end of some names. -/
inductive HasFile : FileTree → List String → ByteArray → Prop where
  | here (content : ByteArray) : HasFile (.file content) [] content
  | inside {entries : Entries FileTree} {inner : FileTree} {name : String} {path : List String}
      {content : ByteArray} (hentry : entries.get? name = some inner)
      (h : HasFile inner path content) : HasFile (.directory entries) (name :: path) content

/-! ### Putting files in -/

lemma insert_cons (tree : FileTree) (content : ByteArray) (name : String) (path : List String) :
    tree.insert content (name :: path) = .directory (Entries.put tree.entries name
      (((Entries.get? tree.entries name).getD empty).insert content path)) := rfl

lemma HasFile.put {inner : FileTree} (h : inner.HasFile path content)
    (entries : Entries FileTree) (name : String) :
    HasFile (.directory (entries.put name inner)) (name :: path) content :=
  .inside (Entries.get?_put_self entries name inner) h

lemma hasFile_insert (tree : FileTree) (content : ByteArray) (path : List String) :
    (tree.insert content path).HasFile path content := by
  induction path generalizing tree with
  | nil => exact .here content
  | cons name path ih =>
    rw [insert_cons]
    exact (ih _).put _ _

/-- A file stays where it is when another one is put elsewhere. -/
lemma HasFile.insert (h : tree.HasFile path content) (hapart : Apart path other) :
    (tree.insert new other).HasFile path content := by
  induction h generalizing other with
  | here content => exact absurd List.nil_prefix hapart.1
  | @inside entries inner name path content hentry h ih =>
    cases other with
    | nil => exact absurd List.nil_prefix hapart.2
    | cons first other =>
      rw [insert_cons]
      by_cases hfirst : first = name
      · subst hfirst
        have hrest : Apart path other := by simpa [Apart, List.cons_prefix_cons] using hapart
        rw [FileTree.entries, hentry, Option.getD_some]
        exact (ih hrest).put _ _
      · exact .inside ((Entries.get?_put_of_ne _ _ hfirst).trans hentry) h

/-- A tree with more files, put in one after the other. -/
def insertAll : FileTree → List (String × ByteArray) → FileTree
  | tree, [] => tree
  | tree, next :: files => (tree.insert next.2 (Path.components next.1)).insertAll files

lemma ofFiles_eq (files : List (String × ByteArray)) : ofFiles files = empty.insertAll files := by
  rw [ofFiles]
  generalize empty = tree
  induction files generalizing tree with
  | nil => rfl
  | cons file files ih => exact ih _

lemma HasFile.insertAll {files : List (String × ByteArray)} (h : tree.HasFile path content)
    (hapart : ∀ file ∈ files, Apart path (Path.components file.1)) :
    (tree.insertAll files).HasFile path content := by
  induction files generalizing tree with
  | nil => exact h
  | cons file files ih =>
    obtain ⟨hfile, hfiles⟩ := List.forall_mem_cons.mp hapart
    exact ih (h.insert hfile) hfiles

/-- Files at paths that are apart from each other are all in their tree. -/
theorem hasFile_ofFiles {files : List (String × ByteArray)}
    (hapart : files.Pairwise fun a b => Apart (Path.components a.1) (Path.components b.1)) :
    ∀ file ∈ files, (ofFiles files).HasFile (Path.components file.1) file.2 := by
  rw [ofFiles_eq]
  generalize empty = tree
  induction files generalizing tree with
  | nil => exact fun _ hmem => absurd hmem List.not_mem_nil
  | cons file files ih =>
    obtain ⟨hfile, hfiles⟩ := List.pairwise_cons.mp hapart
    rw [insertAll]
    exact List.forall_mem_cons.mpr ⟨(hasFile_insert _ _ _).insertAll hfile, ih hfiles _⟩

/-! ### Following paths -/

/-- Names of entries lead to the file that is there, whatever the tree lies in. -/
lemma HasFile.follow_eq (h : tree.HasFile path content) (hplain : Plain path)
    (outer : List FileTree) : follow (tree :: outer) path = .ok (.file content) := by
  induction h generalizing outer with
  | here content => rfl
  | @inside entries inner name path content hentry h ih =>
    obtain ⟨⟨hempty, hdot, hdots⟩, hpath⟩ := List.forall_mem_cons.mp hplain
    have hstay : ¬ (name = "" ∨ name = ".") := by simp [hempty, hdot]
    rw [follow]
    dsimp only [List.headD_cons]
    rw [if_neg hstay, if_neg hdots, hentry]
    exact ih hpath _

lemma find_of_plain {path : String} (hplain : Plain (Path.components path)) :
    tree.find path = follow [tree] (Path.components path) := by
  have hempty : ¬ path.isEmpty = true := by
    intro h
    rw [Path.components_of_isEmpty h] at hplain
    exact (hplain "" List.mem_cons_self).1 rfl
  have hslash : ¬ path.startsWith "/" = true :=
    fun h => (hplain "" (Path.components_of_startsWith h)).1 rfl
  simp only [find, if_neg hempty, if_neg hslash, Path.components]

lemma kind?_files (tree : FileTree) (path : String) :
    tree.files.kind? path = (tree.find path).toOption.map kind := rfl

lemma read_files (tree : FileTree) (path : String) :
    tree.files.read path = (tree.find path).bind text := rfl

lemma fromUTF8?_toUTF8 (text : String) : String.fromUTF8? text.toUTF8 = some text := by
  have hvalid : text.toUTF8.IsValidUTF8 := text.isValidUTF8
  rw [String.fromUTF8?, dif_pos hvalid]
  rfl

/-- **Each of some texts is read back from the tree of them.** -/
theorem read_ofFiles {files : List (String × String)}
    (hplain : ∀ file ∈ files, Plain (Path.components file.1))
    (hapart : files.Pairwise fun a b => Apart (Path.components a.1) (Path.components b.1))
    {path text : String} (h : (path, text) ∈ files) :
    let tree := ofFiles (files.map fun file => (file.1, file.2.toUTF8))
    tree.files.kind? path = some .file ∧ tree.files.read path = Except.ok text := by
  intro tree
  have hfiles : (files.map fun file => (file.1, file.2.toUTF8)).Pairwise fun a b =>
      Apart (Path.components a.1) (Path.components b.1) := by
    rw [List.pairwise_map]
    exact hapart
  have hfile : tree.HasFile (Path.components path) text.toUTF8 :=
    hasFile_ofFiles hfiles (path, text.toUTF8) (List.mem_map_of_mem h)
  have hfind : tree.find path = .ok (.file text.toUTF8) := by
    rw [find_of_plain (hplain _ h), hfile.follow_eq (hplain _ h)]
  constructor
  · rw [kind?_files, hfind]
    rfl
  · rw [read_files, hfind]
    simp only [Except.bind, FileTree.text, fromUTF8?_toUTF8]

end FileTree

end TreeSchema
