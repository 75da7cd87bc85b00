/-
Places in a text.

A cursor is what is left of a text together with the line and column reached so far.
Lines count from one.  Columns count the bytes since the last line break, so a
character outside ASCII moves the column by its length in UTF-8.

`Reading limit α` is something read, a value and a cursor behind it with less than
`limit` text left; what is read at a cursor is bounded by that cursor's own size.  Loops
that read one thing after another end because of this, and need no bound of their own.
-/

namespace TreeSchema

namespace Json

/-- A line, from one, and a number of bytes on it. -/
structure Position where
  line : Nat
  column : Nat
  deriving DecidableEq, Repr

namespace Position

/-- The place after a character. -/
def after (p : Position) (c : Char) : Position :=
  if c = '\n' then ⟨p.line + 1, 0⟩ else ⟨p.line, p.column + c.utf8Size⟩

/-- The place after the first byte of a character. -/
def afterByte (p : Position) (c : Char) : Position :=
  if c = '\n' then ⟨p.line + 1, 0⟩ else ⟨p.line, p.column + 1⟩

/-- The place after a number of bytes of a text. -/
def afterBytes (p : Position) : Nat → List Char → Position
  | 0, _ => p
  | _, [] => p
  | bytes, c :: rest =>
    if c.utf8Size ≤ bytes then (p.after c).afterBytes (bytes - c.utf8Size) rest
    else ⟨p.line, p.column + bytes⟩
  termination_by _ text => text

end Position

/-- What is left of a text, and where that begins. -/
structure Cursor where
  rest : List Char
  position : Position
  deriving Repr

namespace Cursor

/-- The beginning of a text. -/
def start (text : String) : Cursor := ⟨text.toList, ⟨1, 0⟩⟩

/-- How much text is left. -/
def size (c : Cursor) : Nat := c.rest.length

/-- The next character. -/
def peek? (c : Cursor) : Option Char := c.rest.head?

/-- Past the next character. -/
def tail (c : Cursor) : Cursor :=
  match c.rest with
  | [] => c
  | x :: rest => ⟨rest, c.position.after x⟩

/-- Past a number of characters. -/
def drop (c : Cursor) : Nat → Cursor
  | 0 => c
  | n + 1 => c.tail.drop n

/-- The place of an error that names the next byte as the offender: right after
it, or the end of the text. -/
def pastByte (c : Cursor) : Position :=
  match c.rest with
  | [] => c.position
  | x :: _ => c.position.afterByte x

/-- The four characters that may stand between the tokens of a document. -/
def isBlank (x : Char) : Bool := x == ' ' || x == '\n' || x == '\t' || x == '\r'

/-- Past all blanks. -/
def skipBlanks (c : Cursor) : Cursor := c.drop (c.rest.takeWhile isBlank).length

theorem size_tail (c : Cursor) : c.tail.size = c.size - 1 := by
  obtain ⟨_ | ⟨x, rest⟩, position⟩ := c <;> simp [tail, size]

theorem size_drop (c : Cursor) (n : Nat) : (c.drop n).size = c.size - n := by
  induction n generalizing c with
  | zero => rfl
  | succ n ih => rw [drop, ih, size_tail]; omega

theorem size_skipBlanks_le (c : Cursor) : c.skipBlanks.size ≤ c.size := by
  rw [skipBlanks, size_drop]
  omega

theorem size_pos_of_peek? {c : Cursor} {x : Char} (h : c.peek? = some x) : 0 < c.size := by
  obtain ⟨_ | ⟨y, rest⟩, position⟩ := c
  · cases h
  · exact Nat.succ_pos _

theorem size_tail_lt {c : Cursor} (h : 0 < c.size) : c.tail.size < c.size := by
  rw [size_tail]
  omega

theorem size_tail_lt_of_rest {c : Cursor} {x : Char} {rest : List Char}
    (h : c.rest = x :: rest) : c.tail.size < c.size := by
  apply size_tail_lt
  rw [size, h]
  exact Nat.succ_pos _

theorem size_lt_trans {limit : Nat} {next c : Cursor} (hnext : next.size < c.size)
    (h : c.size < limit) : next.size < limit :=
  Nat.lt_trans hnext h

end Cursor

/-- Something read: its value, and what follows it, which is shorter than `limit`. -/
structure Reading (limit : Nat) (α : Type) where
  value : α
  next : Cursor
  shorter : next.size < limit

namespace Reading

variable {limit : Nat} {α β : Type}

/-- Another value read from the same text. -/
def map (f : α → β) (r : Reading limit α) : Reading limit β := ⟨f r.value, r.next, r.shorter⟩

/-- What is read under one limit is read under every larger one. -/
def widen (r : Reading limit α) {larger : Nat} (h : limit ≤ larger) : Reading larger α :=
  ⟨r.value, r.next, Nat.lt_of_lt_of_le r.shorter h⟩

end Reading

end Json

end TreeSchema
