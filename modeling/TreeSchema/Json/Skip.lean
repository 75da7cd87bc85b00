/-
Passing over JSON text.

Where a value does not matter, only its shape as text is looked at: numbers may be out of
range, surrogates may stand alone and brackets may nest without limit.  The open brackets
are kept on a stack, so `skipValue` is one loop: it steps over one leaf or opening bracket,
then over everything that closes, and stands in front of the next value or is done.
-/
import TreeSchema.Json.Reader

namespace TreeSchema

namespace Json

/-- An open bracket. -/
inductive Bracket where
  | list
  | object
  deriving DecidableEq, Repr

namespace Bracket

def closing : Bracket → Char
  | .list => ']'
  | .object => '\x7d'

/-- The end of the text inside a bracket. -/
def endInside : Bracket → Malformation
  | .list => .endInList
  | .object => .endInObject

/-- Something that neither goes on nor closes. -/
def unclosed : Bracket → Malformation
  | .list => .expectedListEnd
  | .object => .expectedObjectEnd

end Bracket

/-- Passes over a key and its colon. -/
def skipKey (c : Cursor) : Except Fault Cursor :=
  let here := c.skipBlanks
  match here.peek? with
  | none => here.failHere .endInObject
  | some x =>
    if x = '"' then
      match skipString (here.tail.size + 1) here.tail (Nat.lt_succ_self _) with
      | .error fault => .error fault
      | .ok r => expectColon r.next
    else here.failAtNext .keyNotText

/-- The front of the next value inside a bracket: its key is passed over in an object. -/
def skipToValue : Bracket → Cursor → Except Fault Cursor
  | .list, c => .ok c
  | .object, c => skipKey c

/-- What comes after a value: the brackets that close are taken off the stack, up to a
comma that leads to another value.  An empty stack means that all is passed over. -/
def skipClosings : List Bracket → Cursor → Except Fault (List Bracket × Cursor)
  | [], c => .ok ([], c)
  | open_ :: outer, c =>
    let here := c.skipBlanks
    match here.peek? with
    | none => here.failHere open_.endInside
    | some x =>
      if x = ',' then (skipToValue open_ here.tail).map fun next => (open_ :: outer, next)
      else if x = open_.closing then skipClosings outer here.tail
      else here.failAtNext open_.unclosed

/-- What comes after an opening bracket: its closing one and whatever closes with it, or
its first value. -/
def skipOpened (open_ : Bracket) (outer : List Bracket) (c : Cursor) :
    Except Fault (List Bracket × Cursor) :=
  let here := c.skipBlanks
  match here.peek? with
  | none => here.failHere open_.endInside
  | some x =>
    if x = open_.closing then skipClosings outer here.tail
    else (skipToValue open_ here).map fun next => (open_ :: outer, next)

/-- Passes over a leaf at a cursor in front of it. -/
def skipLeaf (c : Cursor) : Except Fault (Reading c.size Unit) :=
  match h : c.peek? with
  | none => c.failHere .endInValue
  | some x =>
    have hpos := Cursor.size_pos_of_peek? h
    if x = '"' then skipString c.size c.tail (Cursor.size_tail_lt hpos)
    else if x = '-' ∨ x.isDigit then skipNumber c
    else (readScalar c).map (Reading.map fun _ => ())

/-- Steps over a leaf or an opening bracket and all that closes behind it. -/
def skipStep (stack : List Bracket) (c : Cursor) : Except Fault (List Bracket × Cursor) :=
  let here := c.skipBlanks
  if here.peek? = some '[' then skipOpened .list stack here.tail
  else if here.peek? = some '\x7b' then skipOpened .object stack here.tail
  else
    match skipLeaf here with
    | .error fault => .error fault
    | .ok r => skipClosings stack r.next

/-! ### Every step takes up text -/

theorem size_skipKey_le {c next : Cursor} (h : skipKey c = .ok next) : next.size ≤ c.size := by
  unfold skipKey at h
  have hblanks := Cursor.size_skipBlanks_le c
  dsimp only at h
  split at h
  · cases h
  · split at h
    · split at h
      · cases h
      · next r _ =>
        have hcolon := size_expectColon_le h
        have hkey := r.shorter
        have htail := Cursor.size_tail c.skipBlanks
        omega
    · cases h

theorem size_skipToValue_le {open_ : Bracket} {c next : Cursor}
    (h : skipToValue open_ c = .ok next) : next.size ≤ c.size := by
  cases open_ with
  | list =>
    cases h
    exact Nat.le_refl _
  | object => exact size_skipKey_le h

theorem size_skipClosings_le {stack left : List Bracket} {c next : Cursor}
    (h : skipClosings stack c = .ok (left, next)) : next.size ≤ c.size := by
  induction stack generalizing c with
  | nil =>
    cases h
    exact Nat.le_refl _
  | cons open_ outer ih =>
    unfold skipClosings at h
    have hblanks := Cursor.size_skipBlanks_le c
    have htail := Cursor.size_tail c.skipBlanks
    dsimp only at h
    split at h
    · cases h
    · split at h
      · cases hvalue : skipToValue open_ c.skipBlanks.tail with
        | error fault =>
          rw [hvalue] at h
          cases h
        | ok after =>
          rw [hvalue] at h
          cases h
          have := size_skipToValue_le hvalue
          omega
      · split at h
        · have := ih h
          omega
        · cases h

theorem size_skipOpened_le {open_ : Bracket} {outer left : List Bracket} {c next : Cursor}
    (h : skipOpened open_ outer c = .ok (left, next)) : next.size ≤ c.size := by
  unfold skipOpened at h
  have hblanks := Cursor.size_skipBlanks_le c
  have htail := Cursor.size_tail c.skipBlanks
  dsimp only at h
  split at h
  · cases h
  · split at h
    · have := size_skipClosings_le h
      omega
    · cases hvalue : skipToValue open_ c.skipBlanks with
      | error fault =>
        rw [hvalue] at h
        cases h
      | ok after =>
        rw [hvalue] at h
        cases h
        have := size_skipToValue_le hvalue
        omega

theorem size_skipStep_lt {stack left : List Bracket} {c next : Cursor}
    (h : skipStep stack c = .ok (left, next)) : next.size < c.size := by
  unfold skipStep at h
  have hblanks := Cursor.size_skipBlanks_le c
  have htail := Cursor.size_tail c.skipBlanks
  dsimp only at h
  split at h
  · next hpeek =>
    have := Cursor.size_pos_of_peek? hpeek
    have := size_skipOpened_le h
    omega
  · split at h
    · next hpeek =>
      have := Cursor.size_pos_of_peek? hpeek
      have := size_skipOpened_le h
      omega
    · split at h
      · cases h
      · next r _ =>
        have := r.shorter
        have := size_skipClosings_le h
        omega

/-- Passes over values until all brackets on the stack are closed. -/
def skipValues (limit : Nat) (stack : List Bracket) (c : Cursor) (inside : c.size ≤ limit) :
    Except Fault (Reading limit Unit) :=
  match h : skipStep stack c with
  | .error fault => .error fault
  | .ok ([], next) => .ok ⟨(), next, Nat.lt_of_lt_of_le (size_skipStep_lt h) inside⟩
  | .ok (open_ :: outer, next) =>
    have hshorter := size_skipStep_lt h
    skipValues limit (open_ :: outer) next (by omega)
  termination_by c.size

/-- Passes over one value. -/
def skipValue (c : Cursor) : Except Fault (Reading c.size Unit) :=
  skipValues c.size [] c (Nat.le_refl _)

end Json

end TreeSchema
