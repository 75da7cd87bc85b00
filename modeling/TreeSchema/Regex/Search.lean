/-
Deciding whether an expression is found in a text.

The places of a text are marked or not, by a list of truth values one longer than the
text.  `Regex.ends` moves marks: it takes the places where a match may begin and gives the
places where one may end.  Repetition adds marks until none is new, which happens after at
most as many rounds as there are places.
-/
import TreeSchema.Regex.Basic

namespace TreeSchema

namespace Regex

/-- Which places of a text are marked. -/
abbrev Marks : Type := List Bool

namespace Marks

/-- The places marked in either. -/
def union (a b : Marks) : Marks := List.zipWith (· || ·) a b

/-- Whether any place is marked. -/
def any (a : Marks) : Bool := List.any a id

/-- Adds the marks that a step leads to, for at most a number of rounds and only while
there are new ones. -/
def saturate (step : Marks → Marks) : Nat → Marks → Marks
  | 0, marks => marks
  | rounds + 1, marks =>
    let larger := union marks (step marks)
    if larger = marks then marks else saturate step rounds larger

/-- Makes a step a number of times, or until no marks are left. -/
def iterate (step : Marks → Marks) : Nat → Marks → Marks
  | 0, marks => marks
  | n + 1, marks => if marks.any then iterate step n (step marks) else marks

end Marks

/-- A text with what its places look like: the neighbours of each. -/
structure Haystack where
  text : List Char
  places : List (Option Char × Option Char)

namespace Haystack

/-- The neighbours of the places from a point on. -/
def placesFrom : Option Char → List Char → List (Option Char × Option Char)
  | last, [] => [(last, none)]
  | last, c :: rest => (last, some c) :: placesFrom (some c) rest

def ofText (text : List Char) : Haystack := ⟨text, placesFrom none text⟩

/-- Every place is marked. -/
def everywhere (h : Haystack) : Marks := h.places.map fun _ => true

end Haystack

/-- The places where a match ends that begins at a marked place. -/
def ends (h : Haystack) : Regex → Marks → Marks
  | .empty, marks => marks
  | .char set, marks => false :: List.zipWith (fun m c => m && set.contains c) marks h.text
  | .assert a, marks =>
    List.zipWith (fun m (place : Option Char × Option Char) => m && a.holds place.1 place.2)
      marks h.places
  | .concat r s, marks => ends h s (ends h r marks)
  | .either r s, marks => (ends h r marks).union (ends h s marks)
  | .times r least most, marks =>
    let started := Marks.iterate (ends h r) least marks
    match most with
    | none => Marks.saturate (ends h r) h.places.length started
    | some most => Marks.saturate (ends h r) (most - least) started

/-- Whether an expression is found in a text. -/
def foundIn (r : Regex) (text : String) : Bool :=
  let h := Haystack.ofText text.toList
  (r.ends h h.everywhere).any

end Regex

end TreeSchema
