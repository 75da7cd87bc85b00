/-
The flags of a regular expression, and what is passed over in its text.

Flags are written as letters, those behind a hyphen being turned off.  In a verbose
expression blanks do not count and a number sign begins a comment that runs to the end
of the line; `Regex.gap` passes over both.

`Taken limit α` is something read from the front of a text, with a rest of at most
`limit` characters.  Readers are put together from the few ways to go on in a text, so that the
bound is shown once for each of these and not again in every reader.
-/
import TreeSchema.Regex.Basic
import TreeSchema.Text.Space

namespace TreeSchema

namespace Regex

/-- Something read, and the rest of the text. -/
structure Taken (limit : Nat) (α : Type) where
  value : α
  rest : List Char
  bounded : rest.length ≤ limit

namespace Taken

variable {limit : Nat} {α β : Type}

/-- Nothing of a text is read. -/
def whole (text : List Char) (value : α) : Taken text.length α := ⟨value, text, Nat.le_refl _⟩

/-- The first character of a text is read. -/
def first (c : Char) (rest : List Char) (value : α) : Taken (c :: rest).length α :=
  ⟨value, rest, Nat.le_succ _⟩

/-- What is read behind a character is read from it on. -/
def behind {c : Char} {rest : List Char} (t : Taken rest.length α) :
    Taken (c :: rest).length α :=
  ⟨t.value, t.rest, Nat.le_succ_of_le t.bounded⟩

/-- The same text is read as another value. -/
def giving (t : Taken limit α) (value : β) : Taken limit β := ⟨value, t.rest, t.bounded⟩

/-- One more character is read. -/
def past (t : Taken limit α) {c : Char} {rest : List Char} (h : t.rest = c :: rest) :
    Taken limit α :=
  ⟨t.value, rest, by
    have := t.bounded
    rw [h, List.length_cons] at this
    omega⟩

/-- What is read next. -/
def andThen (t : Taken limit α) (next : Taken t.rest.length β) : Taken limit β :=
  ⟨next.value, next.rest, Nat.le_trans next.bounded t.bounded⟩

/-- A number of characters more is read. -/
def drop (t : Taken limit α) (n : Nat) : Taken limit α :=
  ⟨t.value, t.rest.drop n, by
    have := t.bounded
    rw [List.length_drop]
    omega⟩

/-- What is read next, where something is read already. -/
def andThenShorter (t : Taken limit α) (h : t.rest.length < limit)
    (next : Taken t.rest.length β) : { t : Taken limit β // t.rest.length < limit } :=
  ⟨t.andThen next, Nat.lt_of_le_of_lt next.bounded h⟩

end Taken

/-- How the parts of an expression are to be understood. -/
structure Flags where
  /-- `i`: letters stand for both of their cases. -/
  ignoreCase : Bool := false
  /-- `m`: the line anchors stand at every line break. -/
  multiLine : Bool := false
  /-- `s`: the dot stands for line breaks too. -/
  dotAll : Bool := false
  /-- `R`: a line may end in a carriage return and a line feed. -/
  crlf : Bool := false
  /-- `U`: repetitions prefer to be short.  This makes no difference to whether there is a
  match. -/
  short : Bool := false
  /-- `u`: classes are those of all characters and not of ASCII alone. -/
  unicode : Bool := true
  /-- `x`: blanks and comments do not count. -/
  verbose : Bool := false
  deriving Repr

namespace Flags

/-- Sets the flag of a letter. -/
def set (flags : Flags) (letter : Char) (on : Bool) : Flags :=
  match letter with
  | 'i' => { flags with ignoreCase := on }
  | 'm' => { flags with multiLine := on }
  | 's' => { flags with dotAll := on }
  | 'R' => { flags with crlf := on }
  | 'U' => { flags with short := on }
  | 'u' => { flags with unicode := on }
  | 'x' => { flags with verbose := on }
  | _ => flags

/-- The letters that stand for flags. -/
def letters : List Char := ['i', 'm', 's', 'U', 'u', 'R', 'x']

/-- Changes flags as the given letters say.  Each letter may come once, and so may the
hyphen, but not at the end. -/
def change? (flags : Flags) (text : List Char) : Option Flags :=
  let on := text.takeWhile (· != '-')
  let off := (text.dropWhile (· != '-')).drop 1
  let all := on ++ off
  if all.all letters.contains && all.eraseDups.length == all.length && text.getLast? != some '-'
  then some (off.foldl (·.set · false) (on.foldl (·.set · true) flags))
  else none

end Flags

/-! ### Blanks and comments -/

/-- Past blanks and comments; the flag tells whether a comment has begun. -/
def skipGap : Bool → List Char → List Char
  | _, [] => []
  | true, c :: rest => skipGap (c != '\n') rest
  | false, c :: rest =>
    if Text.isSpace c then skipGap false rest
    else if c = '#' then skipGap true rest
    else c :: rest

/-- Past what does not count. -/
def gap (verbose : Bool) (text : List Char) : List Char :=
  if verbose then skipGap false text else text

theorem skipGap_length_le (comment : Bool) (text : List Char) :
    (skipGap comment text).length ≤ text.length := by
  induction text generalizing comment with
  | nil => simp [skipGap]
  | cons c rest ih =>
    cases comment with
    | true =>
      rw [skipGap]
      exact Nat.le_succ_of_le (ih _)
    | false =>
      rw [skipGap]
      split
      · exact Nat.le_succ_of_le (ih _)
      · split
        · exact Nat.le_succ_of_le (ih _)
        · exact Nat.le_refl _

theorem gap_length_le (verbose : Bool) (text : List Char) :
    (gap verbose text).length ≤ text.length := by
  unfold gap
  split
  · exact skipGap_length_le false text
  · exact Nat.le_refl _

/-- Past what does not count behind something read. -/
def Taken.skipGap {limit : Nat} {α : Type} (t : Taken limit α) (verbose : Bool) :
    Taken limit α :=
  ⟨t.value, gap verbose t.rest, Nat.le_trans (gap_length_le verbose t.rest) t.bounded⟩

/-- Past blanks behind something read, whether or not they count elsewhere. -/
def Taken.skipSpace {limit : Nat} {α : Type} (t : Taken limit α) : Taken limit α :=
  t.drop (t.rest.takeWhile Text.isSpace).length

/-- The longest front of characters of a kind, gaps between them passed over. -/
def spanSpaced (verbose : Bool) (kind : Char → Bool) (text : List Char) :
    Taken text.length (List Char) :=
  match h : gap verbose text with
  | [] => ⟨[], [], Nat.zero_le _⟩
  | c :: rest =>
    have hlength : rest.length + 1 ≤ text.length := by
      have := gap_length_le verbose text
      rw [h] at this
      exact this
    if kind c then
      let others := spanSpaced verbose kind rest
      ⟨c :: others.value, others.rest, by have := others.bounded; omega⟩
    else ⟨[], c :: rest, hlength⟩
  termination_by text.length

/-- A given number of characters, gaps between them passed over. -/
def takeSpaced? (verbose : Bool) :
    Nat → (text : List Char) → Option (Taken text.length (List Char))
  | 0, text => some ⟨[], text, Nat.le_refl _⟩
  | n + 1, text =>
    match h : gap verbose text with
    | [] => none
    | c :: rest => do
      let others ← takeSpaced? verbose n rest
      return ⟨c :: others.value, others.rest, by
        have := gap_length_le verbose text
        have := others.bounded
        rw [h, List.length_cons] at *
        omega⟩

end Regex

end TreeSchema
