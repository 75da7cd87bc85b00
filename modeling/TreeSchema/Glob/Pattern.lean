/-
Patterns for paths.

A pattern is a path in which some characters are special: `?` is any character, `*` any
characters, `[abc]` one of some characters and `[!abc]` any other one.  Between slashes `**`
stands for any number of directories.  Everything else stands for itself, and so does a curly
bracket, although it makes an argument count as a pattern.

The components of a pattern are matched to names one by one, so a slash is never matched by
anything but a slash.
-/
import TreeSchema.Text.Split

namespace TreeSchema

namespace Glob

/-- What one piece of a pattern stands for. -/
inductive Token where
  | char (c : Char)
  | anyChar
  | anyChars
  | directories
  /-- A character in one of the ranges. -/
  | within (ranges : List (Char × Char))
  /-- A character in none of the ranges. -/
  | outside (ranges : List (Char × Char))
  deriving DecidableEq, Repr

/-- What can be wrong with a pattern. -/
inductive Flaw where
  | tooManyStars
  | directoriesInName
  | unclosedRange
  deriving DecidableEq, Repr

def Flaw.message : Flaw → String
  | .tooManyStars => "wildcards are either regular `*` or recursive `**`"
  | .directoriesInName => "recursive wildcards must form a single path component"
  | .unclosedRange => "invalid range pattern"

/-- What is wrong with a pattern, and at which of its characters. -/
structure Error where
  flaw : Flaw
  position : Nat
  deriving DecidableEq, Repr

def Error.message (e : Error) : String :=
  "Pattern syntax error near position " ++ toString e.position ++ ": " ++ e.flaw.message

/-- The ranges between brackets: two characters with a hyphen between them are the ends of
one. -/
def ranges : List Char → List (Char × Char)
  | low :: '-' :: high :: rest => (low, high) :: ranges rest
  | c :: rest => (c, c) :: ranges rest
  | [] => []

/-- What is between brackets, of which the first is passed already, and what follows.  The
first character never closes them. -/
def splitBrackets? : List Char → Option (List Char × List Char)
  | [] => none
  | first :: rest =>
    if rest.contains ']' then
      some (first :: rest.takeWhile (· != ']'), (rest.dropWhile (· != ']')).drop 1)
    else none

/-- The token of a bracket and what follows. -/
def brackets? : List Char → Option (Token × List Char)
  | '!' :: rest => (splitBrackets? rest).map fun (inner, after) => (.outside (ranges inner), after)
  | rest => (splitBrackets? rest).map fun (inner, after) => (.within (ranges inner), after)

theorem length_splitBrackets?_le {text inner after : List Char}
    (h : splitBrackets? text = some (inner, after)) : after.length ≤ text.length := by
  cases text with
  | nil => cases h
  | cons first rest =>
    simp only [splitBrackets?] at h
    split at h
    · cases h
      have := (List.dropWhile_suffix (l := rest) (· != ']')).length_le
      simp only [List.length_drop, List.length_cons]
      omega
    · cases h

theorem length_brackets?_le {text after : List Char} {token : Token}
    (h : brackets? text = some (token, after)) : after.length ≤ text.length := by
  unfold brackets? at h
  split at h
  · obtain ⟨⟨inner, next⟩, hsplit, heq⟩ := Option.map_eq_some_iff.mp h
    cases heq
    have := length_splitBrackets?_le hsplit
    simp only [List.length_cons]
    omega
  · obtain ⟨⟨inner, next⟩, hsplit, heq⟩ := Option.map_eq_some_iff.mp h
    cases heq
    exact length_splitBrackets?_le hsplit

/-- The tokens of a pattern, of which some characters are passed; `previous` is the last of
them. -/
def tokensFrom (position : Nat) (previous : Option Char) (text : List Char) :
    Except Error (List Token) :=
  match text with
  | [] => .ok []
  | '?' :: rest => (tokensFrom (position + 1) (some '?') rest).map (.anyChar :: ·)
  | '*' :: '*' :: '*' :: _ => .error ⟨.tooManyStars, position + 2⟩
  | '*' :: '*' :: rest =>
    if previous = none ∨ previous = some '/' then
      match rest with
      | [] => .ok [.directories]
      | '/' :: rest => (tokensFrom (position + 3) (some '/') rest).map (.directories :: ·)
      | _ => .error ⟨.directoriesInName, position + 2⟩
    else .error ⟨.directoriesInName, position - 1⟩
  | '*' :: rest => (tokensFrom (position + 1) (some '*') rest).map (.anyChars :: ·)
  | '[' :: rest =>
    match h : brackets? rest with
    | none => .error ⟨.unclosedRange, position⟩
    | some (token, after) =>
      have hle := length_brackets?_le h
      (tokensFrom (position + 1 + (rest.length - after.length)) (some ']') after).map (token :: ·)
  | c :: rest => (tokensFrom (position + 1) (some c) rest).map (.char c :: ·)
  termination_by text.length

/-- The tokens of a pattern. -/
def tokens (text : List Char) : Except Error (List Token) := tokensFrom 0 none text

/-- Whether a character is in one of some ranges. -/
def inRanges (ranges : List (Char × Char)) (c : Char) : Bool :=
  ranges.any fun range => range.1 ≤ c && c ≤ range.2

/-- Whether a token stands for a single character. -/
def Token.admits (token : Token) (c : Char) : Bool :=
  match token with
  | .char d => c == d
  | .anyChar => true
  | .anyChars => false
  | .directories => false
  | .within ranges => inRanges ranges c
  | .outside ranges => !inRanges ranges c

/-- Whether tokens match a text.  Any characters can be none, or one and then any. -/
def admits : List Token → List Char → Bool
  | [], text => text.isEmpty
  | token :: tokens, text =>
    if token = .anyChars ∨ token = .directories then
      admits tokens text ||
        match text with
        | [] => false
        | _ :: rest => admits (token :: tokens) rest
    else
      match text with
      | [] => false
      | c :: rest => token.admits c && admits tokens rest
  termination_by tokens text => (tokens.length, text.length)

/-- The text that tokens without special ones stand for. -/
def literal? : List Token → Option (List Char)
  | [] => some []
  | .char c :: rest => (literal? rest).map (c :: ·)
  | _ => none

end Glob

/-- A pattern for paths. -/
structure Glob where
  /-- From the root, and not from the current directory. -/
  fromRoot : Bool
  /-- Only directories match. -/
  directoriesOnly : Bool
  components : List (List Glob.Token)
  deriving Repr

namespace Glob

/-- Whether an argument counts as a pattern. -/
def isPattern (text : String) : Bool :=
  text.toList.any fun c => c == '*' || c == '?' || c == '[' || c == '\x7b'

/-- The pieces of a text that slashes end. -/
def componentTexts (text : List Char) : List (List Char) :=
  let pieces := Text.split '/' text
  if pieces.getLast? = some [] then pieces.dropLast else pieces

/-- Reads a pattern.  It has to be one as a whole and in each of its components. -/
def ofText (text : String) : Except Error Glob := do
  let chars := text.toList
  let _ ← tokens chars
  let fromRoot := chars.head? == some '/'
  let components ← (componentTexts (if fromRoot then chars.drop 1 else chars)).mapM tokens
  return ⟨fromRoot, chars.getLast? == some '/', components⟩

end Glob

end TreeSchema
