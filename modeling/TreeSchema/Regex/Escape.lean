/-
Escapes.

What a backslash introduces is a character, a set of characters or a question about the
place.  All punctuation may follow a backslash and stands for itself then; letters and
digits mean what is listed here and nothing else.
-/
import TreeSchema.Regex.Named

namespace TreeSchema

namespace Regex

/-- What a single symbol of an expression stands for. -/
inductive Symbol where
  /-- A character; `byte` when it is given as a byte by two hexadecimal digits. -/
  | literal (c : Char) (byte : Bool)
  | set (set : CharSet)
  | assertion (a : Assertion)

/-- Characters with a meaning of their own in an expression. -/
def metaChars : List Char :=
  ['\\', '.', '+', '*', '?', '(', ')', '|', '[', ']', '\x7b', '\x7d', '^', '$', '#', '&', '-', '~']

/-- A text with a backslash in front of each character that has a meaning of its own. -/
def escape (text : List Char) : List Char :=
  text.flatMap fun c => if metaChars.contains c then ['\\', c] else [c]

/-- Whether a character stands for itself behind a backslash: ASCII, and no letter, digit
or angle bracket. -/
def standsForItself (c : Char) : Bool :=
  c.toNat < 128 && !c.isAlphanum && c != '<' && c != '>'

/-- The control characters that have a letter. -/
def controlLetter? : Char → Option Char
  | 'a' => some '\x07'
  | 'f' => some '\x0c'
  | 't' => some '\t'
  | 'n' => some '\n'
  | 'r' => some '\r'
  | 'v' => some '\x0b'
  | _ => none

/-- The character with a code point, if there is one. -/
def charAt? (n : Nat) : Option Char :=
  if h : n.isValidChar then some (Char.ofNatAux n h) else none

/-- The character that hexadecimal digits give, of which there must be some and nothing
else. -/
def hexChar? (digits : List Char) : Option Char :=
  if !digits.isEmpty && digits.all fun d => (Unicode.hexDigit? d).isSome then
    charAt? (Unicode.hexValue digits)
  else none

/-- How many digits follow each of the letters for a code point. -/
def hexLength (letter : Char) : Nat :=
  if letter = 'x' then 2 else if letter = 'u' then 4 else 8

/-- Reads a code point: digits between braces, or as many digits as the letter asks for. -/
def readHex? (flags : Flags) (letter : Char) (text : List Char) :
    Option (Taken text.length Symbol) :=
  let start := (Taken.whole text ()).skipGap flags.verbose
  match hopen : start.rest with
  | '\x7b' :: _ =>
    let inside := start.past hopen
    let digits := inside.andThen (spanSpaced flags.verbose (· != '\x7d') inside.rest)
    match hclose : digits.rest with
    | _ :: _ => do
      let c ← hexChar? digits.value
      return (digits.past hclose).giving (.literal c false)
    | [] => none
  | _ => do
    let digits ← takeSpaced? flags.verbose (hexLength letter) text
    let c ← hexChar? digits.value
    return digits.giving (.literal c (letter == 'x'))

/-- Reads the name of a property: one letter, or more between braces. -/
def readProperty? (flags : Flags) (negated : Bool) (text : List Char) :
    Option (Taken text.length Symbol) :=
  if !flags.unicode then none
  else
    let start := (Taken.whole text ()).skipGap flags.verbose
    match hfirst : start.rest with
    | [] => none
    | c :: _ =>
      let behind := start.past hfirst
      if c = '\x7b' then
        let name := behind.andThen (spanSpaced flags.verbose (· != '\x7d') behind.rest)
        match hclose : name.rest with
        | _ :: _ => do
          let (set, turned) ← propertySet? name.value
          let set ← closeSet? flags (negated != turned) set
          return (name.past hclose).giving (.set set)
        | [] => none
      else if c = '\\' then none
      else do
        let set ← namedSet? (Unicode.looseName [c])
        let set ← closeSet? flags negated set
        return behind.giving (.set set)

/-- The questions about words that stand between braces after `\b`. -/
def namedBoundary? (flags : Flags) (name : List Char) : Option Assertion :=
  let word := wordChars flags
  if name = ['s', 't', 'a', 'r', 't'] then some (.wordStart word)
  else if name = ['e', 'n', 'd'] then some (.wordEnd word)
  else if name = ['s', 't', 'a', 'r', 't', '-', 'h', 'a', 'l', 'f'] then some (.wordStartHalf word)
  else if name = ['e', 'n', 'd', '-', 'h', 'a', 'l', 'f'] then some (.wordEndHalf word)
  else none

/-- Reads what follows `\b`: nothing, or a name between braces.  Braces that do not begin
with a letter or a hyphen are not for the boundary. -/
def readBoundary? (flags : Flags) (text : List Char) : Option (Taken text.length Symbol) :=
  let plain := Symbol.assertion (.wordBoundary (wordChars flags))
  let inName (c : Char) : Bool := c.isAlpha || c == '-'
  match text with
  | '\x7b' :: rest =>
    match gap flags.verbose rest with
    | [] => none
    | first :: _ =>
      if inName first then
        let name := spanSpaced flags.verbose inName rest
        match hclose : name.rest with
        | '\x7d' :: _ => do
          let a ← namedBoundary? flags name.value
          return ((name.past hclose).giving (.assertion a)).behind
        | _ => none
      else some (.whole ('\x7b' :: rest) plain)
  | text => some (.whole text plain)

/-- Reads what follows a backslash. -/
def readEscape? (flags : Flags) (text : List Char) : Option (Taken text.length Symbol) :=
  match text with
  | [] => none
  | c :: rest =>
    let alone (s : Symbol) : Option (Taken (c :: rest).length Symbol) := some (.first c rest s)
    let lettered (negated : Bool) : Option (Taken (c :: rest).length Symbol) := do
      let set := (letterSet flags c.toLower).complIf negated
      if flags.unicode || set.isAscii then alone (.set set) else none
    if c = 'x' ∨ c = 'u' ∨ c = 'U' then (readHex? flags c rest).map .behind
    else if c = 'p' ∨ c = 'P' then (readProperty? flags (c == 'P') rest).map .behind
    else if c = 'd' ∨ c = 's' ∨ c = 'w' then lettered false
    else if c = 'D' ∨ c = 'S' ∨ c = 'W' then lettered true
    else if standsForItself c then alone (.literal c false)
    else match controlLetter? c with
      | some control => alone (.literal control false)
      | none =>
        let word := wordChars flags
        if c = 'A' then alone (.assertion .textStart)
        else if c = 'z' then alone (.assertion .textEnd)
        else if c = 'b' then (readBoundary? flags rest).map .behind
        else if c = 'B' then alone (.assertion (.noWordBoundary word))
        else if c = '<' then alone (.assertion (.wordStart word))
        else if c = '>' then alone (.assertion (.wordEnd word))
        else none

end Regex

end TreeSchema
