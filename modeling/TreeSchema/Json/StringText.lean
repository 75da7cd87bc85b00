/-
Texts as they are written.

A text stands between quotes.  A backslash introduces an escape: one of eight letters, or
`u` and four hexadecimal digits.  Characters beyond `U+FFFF` are written as two such
escapes, a high and a low surrogate, and neither may stand alone.  Control characters may
not stand in a text.

`readString` gives the text meant, `skipString` only passes over it and does not mind
surrogates that stand alone.
-/
import TreeSchema.Json.Fault
import TreeSchema.Unicode.CodePoints

namespace TreeSchema

namespace Json

/-! ### Escapes -/

/-- The number that the four hexadecimal digits at a cursor stand for.  Four bytes are
looked at, whatever characters they belong to. -/
def hexEscape (c : Cursor) : Except Fault Nat :=
  let digits := c.rest.take 4
  if digits.length = 4 ∧ digits.all (Unicode.hexDigit? · |>.isSome) then
    .ok (Unicode.hexValue digits)
  else
    let bytes := digits.foldl (fun (n : Nat) d => n + d.utf8Size) 0
    let why := if bytes < 4 then Malformation.endInString else .invalidEscape
    .error ⟨.malformed why, [], some (c.position.afterBytes (min bytes 4) digits)⟩

def isLowSurrogate (n : Nat) : Bool := 0xDC00 ≤ n && n ≤ 0xDFFF

def isHighSurrogate (n : Nat) : Bool := 0xD800 ≤ n && n ≤ 0xDBFF

/-- The character that two surrogates stand for. -/
def joinSurrogates (high low : Nat) : Char :=
  Char.ofNat ((high - 0xD800) * 0x400 + (low - 0xDC00) + 0x10000)

/-- Reads the low surrogate that has to follow a high one. -/
def readLowSurrogate (high : Nat) (c : Cursor) : Except Fault (Char × Cursor) :=
  match c.rest with
  | [] => c.failHere .endInString
  | '\\' :: rest =>
    match rest with
    | [] => c.tail.failHere .endInString
    | 'u' :: _ => do
      let low ← hexEscape c.tail.tail
      if isLowSurrogate low then return (joinSurrogates high low, c.drop 6)
      else (c.drop 6).failHere .loneSurrogate
    | _ => c.tail.failAtNext .unpairedSurrogate
  | _ => c.failAtNext .unpairedSurrogate

/-- Reads a character given by hexadecimal digits. -/
def readUnicodeEscape (c : Cursor) : Except Fault (Char × Cursor) := do
  let n ← hexEscape c
  if isLowSurrogate n then (c.drop 4).failHere .loneSurrogate
  else if isHighSurrogate n then readLowSurrogate n (c.drop 4)
  else return (Char.ofNat n, c.drop 4)

/-- The characters that the letters after a backslash stand for. -/
def escapedChar? : Char → Option Char
  | '"' => some '"'
  | '\\' => some '\\'
  | '/' => some '/'
  | 'b' => some '\x08'
  | 'f' => some '\x0c'
  | 'n' => some '\n'
  | 'r' => some '\r'
  | 't' => some '\t'
  | _ => none

/-- Reads what follows a backslash. -/
def readEscape (c : Cursor) : Except Fault (Char × Cursor) :=
  match c.rest with
  | [] => c.failHere .endInString
  | 'u' :: _ => readUnicodeEscape c.tail
  | x :: _ =>
    match escapedChar? x with
    | some meant => .ok (meant, c.tail)
    | none => c.failAtNext .invalidEscape

/-- Passes over what follows a backslash. -/
def skipEscape (c : Cursor) : Except Fault Cursor :=
  match c.rest with
  | [] => c.failHere .endInString
  | 'u' :: _ => do
    let _ ← hexEscape c.tail
    return c.tail.drop 4
  | x :: _ => if (escapedChar? x).isSome then .ok c.tail else c.failAtNext .invalidEscape

/-! ### Escapes make no text longer -/

theorem size_readLowSurrogate_le {high : Nat} {c next : Cursor} {x : Char}
    (h : readLowSurrogate high c = .ok (x, next)) : next.size ≤ c.size := by
  unfold readLowSurrogate at h
  split at h
  · cases h
  · split at h
    · cases h
    · cases hhex : hexEscape c.tail.tail with
      | error e => simp only [hhex, bind, Except.bind] at h; cases h
      | ok low =>
        simp only [hhex, bind, Except.bind] at h
        split at h
        · obtain ⟨-, rfl⟩ : joinSurrogates high low = x ∧ c.drop 6 = next := by
            simpa [pure, Except.pure] using h
          rw [Cursor.size_drop]
          omega
        · cases h
    · cases h
  · cases h

theorem size_readUnicodeEscape_le {c next : Cursor} {x : Char}
    (h : readUnicodeEscape c = .ok (x, next)) : next.size ≤ c.size := by
  unfold readUnicodeEscape at h
  cases hhex : hexEscape c with
  | error e => simp only [hhex, bind, Except.bind] at h; cases h
  | ok n =>
    simp only [hhex, bind, Except.bind] at h
    split at h
    · cases h
    · split at h
      · have := size_readLowSurrogate_le h
        rw [Cursor.size_drop] at this
        omega
      · obtain ⟨-, rfl⟩ : Char.ofNat n = x ∧ c.drop 4 = next := by
          simpa [pure, Except.pure] using h
        rw [Cursor.size_drop]
        omega

theorem size_readEscape_le {c next : Cursor} {x : Char}
    (h : readEscape c = .ok (x, next)) : next.size ≤ c.size := by
  unfold readEscape at h
  split at h
  · cases h
  · have := size_readUnicodeEscape_le h
    rw [Cursor.size_tail] at this
    omega
  · split at h
    · cases h
      rw [Cursor.size_tail]
      omega
    · cases h

theorem size_lt_of_readEscape {c next : Cursor} {x : Char} (hsize : c.tail.size < c.size)
    (h : readEscape c.tail = .ok (x, next)) : next.size < c.size :=
  Nat.lt_of_le_of_lt (size_readEscape_le h) hsize

theorem size_skipEscape_le {c next : Cursor} (h : skipEscape c = .ok next) :
    next.size ≤ c.size := by
  unfold skipEscape at h
  split at h
  · cases h
  · cases hhex : hexEscape c.tail with
    | error e => simp only [hhex, bind, Except.bind] at h; cases h
    | ok n =>
      simp only [hhex, bind, Except.bind] at h
      cases h
      rw [Cursor.size_drop, Cursor.size_tail]
      omega
  · split at h
    · cases h
      rw [Cursor.size_tail]
      omega
    · cases h

theorem size_lt_of_skipEscape {c next : Cursor} (hsize : c.tail.size < c.size)
    (h : skipEscape c.tail = .ok next) : next.size < c.size :=
  Nat.lt_of_le_of_lt (size_skipEscape_le h) hsize

/-! ### Whole texts -/

/-- Control characters are those below the blank. -/
def isControl (x : Char) : Bool := x < ' '

/-- Reads on to the closing quote; `seen` is what came before, last character first. -/
def readChars (limit : Nat) (seen : List Char) (c : Cursor) (within : c.size < limit) :
    Except Fault (Reading limit String) :=
  match hrest : c.rest with
  | [] => c.failHere .endInString
  | x :: _ =>
    have hsize := Cursor.size_tail_lt_of_rest hrest
    if x = '"' then
      .ok ⟨String.ofList seen.reverse, c.tail, Cursor.size_lt_trans hsize within⟩
    else if x = '\\' then
      match hescape : readEscape c.tail with
      | .error fault => .error fault
      | .ok (meant, next) =>
        have hnext := size_lt_of_readEscape hsize hescape
        readChars limit (meant :: seen) next (Cursor.size_lt_trans hnext within)
    else if isControl x then c.failAtNext .controlCharacter
    else readChars limit (x :: seen) c.tail (Cursor.size_lt_trans hsize within)
  termination_by c.size

/-- Reads the text at a cursor that stands behind its opening quote. -/
def readString {limit : Nat} (c : Cursor) (within : c.size < limit) :
    Except Fault (Reading limit String) :=
  readChars limit [] c within

/-- Passes over the text at a cursor that stands behind its opening quote. -/
def skipString (limit : Nat) (c : Cursor) (within : c.size < limit) :
    Except Fault (Reading limit Unit) :=
  match hrest : c.rest with
  | [] => c.failHere .endInString
  | x :: _ =>
    have hsize := Cursor.size_tail_lt_of_rest hrest
    if x = '"' then .ok ⟨(), c.tail, Cursor.size_lt_trans hsize within⟩
    else if x = '\\' then
      match hescape : skipEscape c.tail with
      | .error fault => .error fault
      | .ok next =>
        have hnext := size_lt_of_skipEscape hsize hescape
        skipString limit next (Cursor.size_lt_trans hnext within)
    else if isControl x then c.failHere .controlCharacter
    else skipString limit c.tail (Cursor.size_lt_trans hsize within)
  termination_by c.size

end Json

end TreeSchema
