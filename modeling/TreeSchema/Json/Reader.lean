/-
Reading JSON text.

Values nest to 127 levels and no deeper.  The number of levels left bounds the recursion
of `readValue`; the loops over elements and members end because each of them takes up
some text.  The loops do not know what they collect, so other readers share them:
`readElements` is given a reader for one element and `readMembers` one for what follows a
key.

A fault is reported on the path that leads to it: an element adds its index, a member its
key, and a member whose key could not be read a question mark.
-/
import TreeSchema.Json.NumberText
import TreeSchema.Json.StringText

namespace TreeSchema

namespace Json

/-- How deep lists and objects may nest. -/
def maxLevels : Nat := 127

/-! ### Leaves -/

/-- Passes over given letters. -/
def expectWord : List Char → Cursor → Except Fault Cursor
  | [], c => .ok c
  | letter :: letters, c =>
    match c.rest with
    | [] => c.failHere .endInValue
    | x :: _ => if x = letter then expectWord letters c.tail else c.failAtNext .expectedWord

theorem size_expectWord_le {letters : List Char} {c next : Cursor}
    (h : expectWord letters c = .ok next) : next.size ≤ c.size := by
  induction letters generalizing c with
  | nil =>
    cases h
    exact Nat.le_refl _
  | cons letter letters ih =>
    unfold expectWord at h
    split at h
    · cases h
    · split at h
      · have := ih h
        rw [Cursor.size_tail] at this
        omega
      · cases h

theorem size_lt_of_expectWord {letters : List Char} {c next : Cursor} (hpos : 0 < c.size)
    (h : expectWord letters c.tail = .ok next) : next.size < c.size :=
  Nat.lt_of_le_of_lt (size_expectWord_le h) (Cursor.size_tail_lt hpos)

/-- Reads a word that stands for a value, its first letter being seen already. -/
def readWord (letters : List Char) (value : Json) (c : Cursor) (some? : 0 < c.size) :
    Except Fault (Reading c.size Json) :=
  match h : expectWord letters c.tail with
  | .error fault => .error fault
  | .ok next => .ok ⟨value, next, size_lt_of_expectWord some? h⟩

/-- Reads a value that is neither a list nor an object, at a cursor in front of it. -/
def readScalar (c : Cursor) : Except Fault (Reading c.size Json) :=
  match h : c.peek? with
  | none => c.failHere .endInValue
  | some x =>
    have hpos := Cursor.size_pos_of_peek? h
    if x = 'n' then readWord ['u', 'l', 'l'] .null c hpos
    else if x = 't' then readWord ['r', 'u', 'e'] (.bool true) c hpos
    else if x = 'f' then readWord ['a', 'l', 's', 'e'] (.bool false) c hpos
    else if x = '"' then
      (readString c.tail (Cursor.size_tail_lt hpos)).map (Reading.map .string)
    else if x = '-' ∨ x.isDigit then (readNumber c).map (Reading.map .number)
    else c.failAtNext .expectedValue

/-! ### Lists -/

/-- Where the next element of a list begins, or `none` when the list ends. -/
def nextElement? (first : Bool) (c : Cursor) : Except Fault (Option Cursor) :=
  let here := c.skipBlanks
  match here.peek? with
  | none => here.failHere .endInList
  | some x =>
    if x = ']' then .ok none
    else if first then .ok (some here)
    else if x = ',' then
      let next := here.tail.skipBlanks
      match next.peek? with
      | none => next.failHere .endInValue
      | some y => if y = ']' then next.failAtNext .trailingComma else .ok (some next)
    else here.failAtNext .expectedListEnd

theorem size_nextElement?_le {first : Bool} {c next : Cursor}
    (h : nextElement? first c = .ok (some next)) : next.size ≤ c.size := by
  unfold nextElement? at h
  have hblanks := Cursor.size_skipBlanks_le c
  have htail := Cursor.size_skipBlanks_le c.skipBlanks.tail
  rw [Cursor.size_tail] at htail
  dsimp only at h
  repeat' split at h
  all_goals cases h
  all_goals omega

variable {α σ : Type}

/-- Reads the elements of a list to its closing bracket; `seen` are those in front, last
one first. -/
def readElements (element : (c : Cursor) → Except Fault (Reading c.size α)) (limit : Nat)
    (seen : List α) (c : Cursor) (inside : c.size < limit) :
    Except Fault (Reading limit (List α)) :=
  match hnext : nextElement? seen.isEmpty c with
  | .error fault => .error fault
  | .ok none => .ok ⟨seen.reverse, c.skipBlanks.tail, by
      have := Cursor.size_skipBlanks_le c
      rw [Cursor.size_tail]
      omega⟩
  | .ok (some here) =>
    match within (.index seen.length) (element here) with
    | .error fault => .error fault
    | .ok r =>
      have hshorter : r.next.size < c.size :=
        Nat.lt_of_lt_of_le r.shorter (size_nextElement?_le hnext)
      readElements element limit (r.value :: seen) r.next (by omega)
  termination_by c.size

/-- Reads a list at a cursor in front of its opening bracket. -/
def readList (element : (c : Cursor) → Except Fault (Reading c.size α)) (c : Cursor)
    (some? : 0 < c.size) : Except Fault (Reading c.size (List α)) :=
  readElements element c.size [] c.tail (Cursor.size_tail_lt some?)

/-! ### Objects -/

/-- Where the next key of an object begins, behind its quote, or `none` when the object
ends. -/
def nextKey? (first : Bool) (c : Cursor) : Except Fault (Option Cursor) :=
  let here := c.skipBlanks
  match here.peek? with
  | none => here.failHere .endInObject
  | some x =>
    if x = '\x7d' then .ok none
    else if first then
      if x = '"' then .ok (some here.tail) else here.failAtNext .keyNotText
    else if x = ',' then
      let next := here.tail.skipBlanks
      match next.peek? with
      | none => next.failHere .endInValue
      | some y =>
        if y = '"' then .ok (some next.tail)
        else if y = '\x7d' then next.failAtNext .trailingComma
        else next.failAtNext .keyNotText
    else here.failAtNext .expectedObjectEnd

theorem size_nextKey?_le {first : Bool} {c next : Cursor}
    (h : nextKey? first c = .ok (some next)) : next.size ≤ c.size := by
  unfold nextKey? at h
  have hblanks := Cursor.size_skipBlanks_le c
  have htail := Cursor.size_skipBlanks_le c.skipBlanks.tail
  rw [Cursor.size_tail] at htail
  dsimp only at h
  repeat' split at h
  all_goals cases h
  all_goals rw [Cursor.size_tail]
  all_goals omega

/-- Passes over the colon behind a key. -/
def expectColon (c : Cursor) : Except Fault Cursor :=
  let here := c.skipBlanks
  match here.peek? with
  | none => here.failHere .endInObject
  | some x => if x = ':' then .ok here.tail else here.failAtNext .expectedColon

theorem size_expectColon_le {c next : Cursor} (h : expectColon c = .ok next) :
    next.size ≤ c.size := by
  unfold expectColon at h
  have hblanks := Cursor.size_skipBlanks_le c
  dsimp only at h
  repeat' split at h
  all_goals cases h
  rw [Cursor.size_tail]
  omega

/-- Reads the value of a member at a cursor behind its key. -/
def readMember (name : String) (value : (c : Cursor) → Except Fault (Reading c.size α))
    (c : Cursor) : Except Fault (Reading c.size α) :=
  match h : expectColon c with
  | .error fault => .error fault
  | .ok here => (within (.key name) (value here)).map (·.widen (size_expectColon_le h))

/-- Reads the members of an object to its closing bracket, each changing a state. -/
def readMembers (member : σ → String → (c : Cursor) → Except Fault (Reading c.size σ))
    (limit : Nat) (first : Bool) (state : σ) (c : Cursor) (inside : c.size < limit) :
    Except Fault (Reading limit σ) :=
  match hnext : within .unknown (nextKey? first c) with
  | .error fault => .error fault
  | .ok none => .ok ⟨state, c.skipBlanks.tail, by
      have := Cursor.size_skipBlanks_le c
      rw [Cursor.size_tail]
      omega⟩
  | .ok (some here) =>
    have hhere : here.size ≤ c.size := by
      cases hkey : nextKey? first c with
      | error fault =>
        rw [hkey] at hnext
        cases hnext
      | ok next? =>
        rw [hkey] at hnext
        cases hnext
        exact size_nextKey?_le hkey
    match within .unknown (readString here (Nat.lt_succ_self here.size)) with
    | .error fault => .error fault
    | .ok key =>
      match member state key.value key.next with
      | .error fault => .error fault
      | .ok r =>
        have hshorter : r.next.size < c.size := by
          have := key.shorter
          have := r.shorter
          omega
        readMembers member limit false r.value r.next (by omega)
  termination_by c.size

/-- Reads an object at a cursor in front of its opening bracket. -/
def readObject (member : σ → String → (c : Cursor) → Except Fault (Reading c.size σ))
    (state : σ) (c : Cursor) (some? : 0 < c.size) : Except Fault (Reading c.size σ) :=
  readMembers member c.size true state c.tail (Cursor.size_tail_lt some?)

/-- A member that puts its value under its key. -/
def entry (value : (c : Cursor) → Except Fault (Reading c.size α)) (entries : Entries α)
    (name : String) (c : Cursor) : Except Fault (Reading c.size (Entries α)) :=
  (readMember name value c).map (Reading.map (entries.put name))

/-! ### Values -/

/-- Reads a value whose lists and objects nest to the given number of levels. -/
def readValue (levels : Nat) (c : Cursor) : Except Fault (Reading c.size Json) :=
  let here := c.skipBlanks
  let result : Except Fault (Reading here.size Json) :=
    match h : here.peek? with
    | none => here.failHere .endInValue
    | some x =>
      have hpos := Cursor.size_pos_of_peek? h
      if x = '[' then
        match levels with
        | 0 => here.failAtNext .nestedTooDeep
        | levels + 1 => (readList (readValue levels) here hpos).map (Reading.map .array)
      else if x = '\x7b' then
        match levels with
        | 0 => here.failAtNext .nestedTooDeep
        | levels + 1 =>
          (readObject (entry (readValue levels)) [] here hpos).map (Reading.map .object)
      else readScalar here
  result.map (·.widen (Cursor.size_skipBlanks_le c))

/-- Reads the value that a text begins with, whatever follows it. -/
def ofTextBeginning (text : String) : Except Fault Json :=
  (readValue maxLevels (Cursor.start text)).map Reading.value

/-- Reads a text that is one value. -/
def ofText (text : String) : Except Fault Json := do
  let r ← readValue maxLevels (Cursor.start text)
  let rest := r.next.skipBlanks
  if rest.peek?.isSome then rest.failAtNext .trailingCharacters else return r.value

end Json

end TreeSchema
