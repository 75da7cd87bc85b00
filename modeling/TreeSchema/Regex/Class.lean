/-
Bracketed classes.

A class is a union of characters, ranges, named sets and further classes; two ampersands,
hyphens or tildes between unions take the intersection, the difference or the symmetric
difference of what is left and right of them, from left to right.  A class may be negated
by a caret behind its bracket.

Open brackets and operators wait on a stack, so the reading is one loop over the text.  With
every set goes its height, the number of constructs nested in it.
-/
import TreeSchema.Regex.Escape

namespace TreeSchema

namespace Regex

/-- A set and the number of constructs nested in it. -/
structure Nested where
  set : CharSet
  height : Nat

/-- A union as far as it is read. -/
structure Union where
  set : CharSet := .empty
  /-- How many sets are in it. -/
  count : Nat := 0
  height : Nat := 0

namespace Union

def add (u : Union) (n : Nested) : Union :=
  ⟨.union u.set n.set, u.count + 1, max u.height n.height⟩

/-- A union of several sets is a construct of its own. -/
def close (u : Union) : Nested := ⟨u.set, if 2 ≤ u.count then u.height + 1 else u.height⟩

end Union

/-- The operators between unions. -/
inductive SetOperator where
  | intersection
  | difference
  | symmetricDifference
  deriving DecidableEq, Repr

def SetOperator.apply : SetOperator → CharSet → CharSet → CharSet
  | .intersection => .inter
  | .difference => .diff
  | .symmetricDifference => .symmDiff

/-- What waits while a union is read: an operator with what is left of it, or a bracket
with the union around it. -/
inductive Waiting where
  | operator (op : SetOperator) (left : Nested)
  | bracket (outer : Union) (negated : Bool)

/-- What a finished union amounts to with the operator in front of it. -/
def applyWaiting (flags : Flags) (stack : List Waiting) (right : Nested) :
    List Waiting × Nested :=
  match stack with
  | .operator op left :: stack =>
    (stack, ⟨op.apply (foldCase flags left.set) (foldCase flags right.set),
      max left.height right.height + 1⟩)
  | stack => (stack, right)

/-- The literal set of a symbol inside a class. -/
def literalSet? (flags : Flags) (c : Char) (byte : Bool) : Option CharSet :=
  if flags.unicode then some (.single c)
  else if byte || 128 ≤ c.toNat then (if c.toNat < 128 then some (.single c) else none)
  else some (.single c)

/-- What is behind an opening bracket: a caret, and hyphens or a closing bracket that stand
for themselves. -/
def openBracket? (flags : Flags) (text : List Char) :
    Option (Taken text.length (Bool × Union)) :=
  let start := (Taken.whole text ()).skipGap flags.verbose
  let negated := start.rest.head? == some '^'
  let inside := if negated then (start.drop 1).skipGap flags.verbose else start
  let hyphens := inside.andThen (spanSpaced flags.verbose (· == '-') inside.rest)
  let addAll (chars : List Char) : Union :=
    chars.foldl (fun u c => u.add ⟨.single c, 0⟩) {}
  match hrest : hyphens.rest with
  | [] => none
  | c :: _ =>
    if hyphens.value.isEmpty && c == ']' then
      let next := (hyphens.past hrest).skipGap flags.verbose
      if next.rest.isEmpty then none else some (next.giving (negated, addAll [']']))
    else some (hyphens.giving (negated, addAll hyphens.value))

/-- Reads an ASCII class behind its bracket: a name between colons, perhaps with a caret,
and the closing bracket. -/
def readAsciiClass? (text : List Char) : Option (Taken text.length (CharSet × Bool)) :=
  match text with
  | ':' :: rest =>
    let start := Taken.first ':' rest ()
    let negated := rest.head? == some '^'
    let inside := if negated then start.drop 1 else start
    let name := inside.rest.takeWhile (· != ':')
    let behind := inside.drop name.length
    match hclose : behind.rest with
    | ':' :: ']' :: _ => do
      let set ← asciiClass? (String.ofList name)
      return ((behind.past hclose).drop 1).giving (set, negated)
    | _ => none
  | _ => none

/-- Reads one symbol of a class. -/
def readClassSymbol? (flags : Flags) (text : List Char) : Option (Taken text.length Symbol) :=
  match text with
  | [] => none
  | '\\' :: rest => (readEscape? flags rest).map .behind
  | c :: rest => some (.first c rest (.literal c false))

theorem readClassSymbol?_shorter {flags : Flags} {text : List Char}
    {t : Taken text.length Symbol} (h : readClassSymbol? flags text = some t) :
    t.rest.length < text.length := by
  unfold readClassSymbol? at h
  split at h
  · cases h
  · next rest =>
    cases hescape : readEscape? flags rest with
    | none =>
      rw [hescape] at h
      cases h
    | some e =>
      rw [hescape] at h
      cases h
      exact Nat.lt_succ_of_le e.bounded
  · cases h
    exact Nat.lt_succ_self _

/-- The character that decides whether a hyphen makes a range, given the text behind the
hyphen.  In a verbose expression blanks are passed over, and one number sign with the blanks
behind it, but not the text of a comment; where nothing is left, the character directly behind
the hyphen decides. -/
def rangeGuard? (flags : Flags) (text : List Char) : Option Char :=
  if flags.verbose then
    let start := text.dropWhile Text.isSpace
    let inside := match start with
      | '#' :: rest => rest.dropWhile Text.isSpace
      | rest => rest
    inside.head?.or text.head?
  else text.head?

/-- Whether a hyphen stands for itself behind a symbol, given the text behind the hyphen. -/
def isLoneHyphen (flags : Flags) (text : List Char) : Bool :=
  let guard := rangeGuard? flags text
  guard == some ']' || guard == some '-'

/-- Reads on behind a symbol of a class, which stands for itself or begins a range. -/
def readRange? (flags : Flags) (symbol : Symbol) (text : List Char) :
    Option (Taken text.length CharSet) :=
  let after := (Taken.whole text ()).skipGap flags.verbose
  match symbol with
  | .assertion _ => none
  | .set set =>
    match after.rest with
    | '-' :: rest => if isLoneHyphen flags rest then some (after.giving set) else none
    | [] => none
    | _ => some (after.giving set)
  | .literal low lowByte =>
    match hafter : after.rest with
    | [] => none
    | '-' :: rest =>
      if isLoneHyphen flags rest then (literalSet? flags low lowByte).map after.giving
      else do
        let high := (after.past hafter).skipGap flags.verbose
        let last ← readClassSymbol? flags high.rest
        match last.value with
        | .literal top topByte =>
          if low ≤ top then
            match literalSet? flags low lowByte, literalSet? flags top topByte with
            | some _, some _ =>
              return (high.andThen last).giving (.range low.toNat top.toNat)
            | _, _ => none
          else none
        | _ => none
    | _ => (literalSet? flags low lowByte).map after.giving

/-- Reads a symbol of a class, or a range from one character to another. -/
def readClassItem? (flags : Flags) (text : List Char) :
    Option { t : Taken text.length CharSet // t.rest.length < text.length } :=
  match hfirst : readClassSymbol? flags text with
  | none => none
  | some first =>
    (readRange? flags first.value first.rest).map
      (first.andThenShorter (readClassSymbol?_shorter hfirst))

/-- The operator that a text begins with. -/
def operator? : List Char → Option SetOperator
  | '&' :: '&' :: _ => some .intersection
  | '-' :: '-' :: _ => some .difference
  | '~' :: '~' :: _ => some .symmetricDifference
  | _ => none

/-- Reads a class to its last closing bracket.  Of the stack, the last is the bracket of
the whole class. -/
def readClass? (flags : Flags) (limit : Nat) (stack : List Waiting) (union : Union)
    (text : List Char) (inside : text.length ≤ limit) : Option (Taken limit Nested) :=
  match hgap : gap flags.verbose text with
  | [] => none
  | c :: rest =>
    have hrest : rest.length < text.length := by
      have := gap_length_le flags.verbose text
      rw [hgap, List.length_cons] at this
      omega
    if c = '[' then
      match readAsciiClass? rest with
      | some ⟨(set, negated), rest', hrest'⟩ =>
        match closeSet? flags negated set with
        | none => none
        | some set => readClass? flags limit stack (union.add ⟨set, 0⟩) rest' (by omega)
      | none =>
        match openBracket? flags rest with
        | none => none
        | some ⟨(negated, inner), rest', hrest'⟩ =>
          readClass? flags limit (.bracket union negated :: stack) inner rest' (by omega)
    else if c = ']' then
      match applyWaiting flags stack union.close with
      | (.bracket outer negated :: stack, whole) =>
        match closeSet? flags negated whole.set with
        | none => none
        | some set =>
          let closed : Nested := ⟨set, whole.height + 1⟩
          if stack.isEmpty then some ⟨closed, rest, by omega⟩
          else readClass? flags limit stack (outer.add closed) rest (by omega)
      | _ => none
    else
      match operator? (c :: rest) with
      | some op =>
        let (stack, left) := applyWaiting flags stack union.close
        readClass? flags limit (.operator op left :: stack) {} (rest.drop 1) (by
          rw [List.length_drop]
          omega)
      | none =>
        match readClassItem? flags (c :: rest) with
        | none => none
        | some ⟨⟨set, rest', _⟩, hrest'⟩ =>
          have hnext : rest'.length < text.length := by
            have : rest'.length < rest.length + 1 := hrest'
            have := gap_length_le flags.verbose text
            rw [hgap, List.length_cons] at this
            omega
          readClass? flags limit stack (union.add ⟨set, 0⟩) rest' (by omega)
  termination_by text.length

end Regex

end TreeSchema
