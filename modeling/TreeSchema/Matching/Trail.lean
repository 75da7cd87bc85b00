/-
Matching along a trail.

`Registry.matchesWithin` is given the names that are opened on the present value, and it opens one
more by handing on a longer list.  Here the opened names are kept on a trail that the whole run
shares.  An opened name is put at the end of it, together with the place of the value that it is
opened on, and taken off again.  The trail knows where the frames of the present value begin,
and how many levels down that value is.  Both change on the way down and are restored on the way up.

A name is opened already if its frame is on the trail.  It would do to look at the frames of the
present value (`Scan.current`), as the others belong to other values; one can also look at all of
them (`Scan.all`).

A run records what it has visited.  Nothing of that is read again; it is there to tell what went on.
A run has no result if it takes frames from behind the end of the trail, or if it goes on for ever.
-/
import TreeSchema.Json.Pointer
import TreeSchema.Matching

namespace TreeSchema

/-- A name that is opened on the value at a place of the document. -/
structure Frame where
  name : String
  place : List Json.Step
  deriving DecidableEq, Repr

/-- What is opened, on the present value and on those above it. -/
structure Trail where
  /-- The last one that was opened is at the end. -/
  frames : List Frame
  /-- Where the frames of the present value begin. -/
  base : Nat
  /-- How many levels down the present value is. -/
  depth : Nat
  deriving DecidableEq, Repr

namespace Trail

/-- The trail at the start of a run. -/
def empty : Trail := ⟨[], 0, 0⟩

def push (t : Trail) (frame : Frame) : Trail := { t with frames := t.frames ++ [frame] }

def pop (t : Trail) : Trail := { t with frames := t.frames.dropLast }

/-- One level further down, where no frame belongs to the present value yet. -/
def descend (t : Trail) : Trail := { t with base := t.frames.length, depth := t.depth + 1 }

/-- Back on the level of an earlier trail. -/
def ascendTo (t before : Trail) : Trail := { t with base := before.base, depth := before.depth }

/-- The frames from an index on, which must not lie behind the end. -/
def framesFrom? (t : Trail) (index : Nat) : Option (List Frame) :=
  if index ≤ t.frames.length then some (t.frames.drop index) else none

end Trail

/-- Which frames are looked at to see whether a name is opened. -/
abbrev Scan : Type := Trail → Option (List Frame)

namespace Scan

/-- The frames of the present value. -/
def current : Scan := fun t => t.framesFrom? t.base

/-- All frames. -/
def all : Scan := fun t => t.framesFrom? 0

end Scan

/-- What was asked at a place, with which trail, and the answer and the trail after it. -/
structure Visit where
  place : List Json.Step
  value : Json
  schema : Schema
  before : Trail
  answer : Bool
  after : Trail

/-- The state of a run. -/
structure Run where
  trail : Trail
  /-- What has been visited, in the order in which there were answers. -/
  visits : List Visit

/-- An action of a run. -/
abbrev Tracked : Type → Type := StateT Run Option

namespace Tracked

def trail : Tracked Trail := return (← get).trail

def setTrail (t : Trail) : Tracked Unit := modify fun run => { run with trail := t }

def record (visit : Visit) : Tracked Unit :=
  modify fun run => { run with visits := run.visits ++ [visit] }

end Tracked

namespace Registry

open Tracked

mutual

/-- Whether the value at a place matches a schema. -/
def track (r : Registry) (scan : Scan) (limit : Nat) (place : List Json.Step) (v : Json)
    (s : Schema) : Tracked Bool := do
  let before ← trail
  let answer ← r |>.trackForm scan limit place v s
  let after ← trail
  record ⟨place, v, s, before, answer, after⟩
  return answer
partial_fixpoint

def trackForm (r : Registry) (scan : Scan) (limit : Nat) (place : List Json.Step) (v : Json)
    (s : Schema) : Tracked Bool :=
  match s with
  | .any => pure true
  | .ref name => r |>.trackName scan limit place v name
  | .leaf constraint => pure (constraint.admits v)
  | .object properties required =>
    if v.form == .object && required.all fun name => (v.field? name).isSome then
      properties.allM fun (name, sub) =>
        match v.field? name with
        | none => pure true
        | some child => r |>.trackBelow scan limit (place ++ [.field name]) child sub
    else pure false
  | .array items least most =>
    if v.form == .array && Schema.admitsLength least most v.elements.length then
      match items with
      | none => pure true
      | some item => v.elements.zipIdx.allM fun (child, index) =>
        r |>.trackBelow scan limit (place ++ [.element index]) child item
    else pure false
  | .allOf parts => parts.allM fun part => r |>.track scan limit place v part
  | .anyOf parts => parts.anyM fun part => r |>.track scan limit place v part
partial_fixpoint

/-- Opens a name, unless it is opened already. -/
def trackName (r : Registry) (scan : Scan) (limit : Nat) (place : List Json.Step) (v : Json)
    (name : String) : Tracked Bool := do
  let t ← trail
  let frames ← (scan t : Option (List Frame))
  if frames.contains ⟨name, place⟩ then return false
  match r.resolve name with
  | .error _ => return false
  | .ok entry =>
    setTrail (t.push ⟨name, place⟩)
    let answer ← r |>.track scan limit place v entry.schema
    let after ← trail
    setTrail after.pop
    return answer
partial_fixpoint

/-- Goes down one level, unless that is too deep. -/
def trackBelow (r : Registry) (scan : Scan) (limit : Nat) (place : List Json.Step) (v : Json)
    (s : Schema) : Tracked Bool := do
  let before ← trail
  if limit ≤ before.depth then return false
  setTrail before.descend
  let answer ← r |>.track scan limit place v s
  let after ← trail
  setTrail (after.ascendTo before)
  return answer
partial_fixpoint

end

/-- Runs matching along a trail, from the whole of a document. -/
def acceptsAlong (r : Registry) (scan : Scan) (limit : Nat) (s : Schema) (v : Json) :
    Option (Bool × Run) :=
  (r.track scan limit [] v s).run ⟨.empty, []⟩

end Registry

end TreeSchema
