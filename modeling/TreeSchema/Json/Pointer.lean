/-
JSON pointers.

A pointer is a sequence of reference tokens, each written after a slash, with `~1`
for a slash and `~0` for a tilde inside a token.  `Json.Step` is one step down from
a value and `Json.follow?` goes down several.  `Json.pointerText` writes a sequence of
steps as a pointer, and `Json.at?` follows a written pointer.
-/
import TreeSchema.Json.Basic
import TreeSchema.Text.Split

namespace TreeSchema

namespace Json

/-- One step down: to a field of an object or to an element of an array. -/
inductive Step where
  | field (name : String)
  | element (index : Nat)
  deriving DecidableEq, Repr

/-- The value at a place below another one. -/
def follow? : List Step → Json → Option Json
  | [], v => some v
  | .field name :: steps, v => (v.field? name).bind (follow? steps)
  | .element index :: steps, v => v.elements[index]?.bind (follow? steps)

/-- A token with its tildes and slashes escaped. -/
def escapeToken : List Char → List Char
  | [] => []
  | '~' :: rest => '~' :: '0' :: escapeToken rest
  | '/' :: rest => '~' :: '1' :: escapeToken rest
  | c :: rest => c :: escapeToken rest

/-- A token read back. -/
def unescapeToken : List Char → List Char
  | [] => []
  | '~' :: '0' :: rest => '~' :: unescapeToken rest
  | '~' :: '1' :: rest => '/' :: unescapeToken rest
  | c :: rest => c :: unescapeToken rest

/-- A step as a reference token. -/
def Step.text : Step → String
  | .field name => String.ofList (escapeToken name.toList)
  | .element index => toString index

/-- The pointer that goes down the given steps. -/
def pointerText (steps : List Step) : String :=
  String.join (steps.map fun step => "/" ++ step.text)

/-- The index that a token stands for: decimal digits, without a sign and without
a zero in front, of a number below `2 ^ 64`. -/
def indexOfToken? (token : List Char) : Option Nat :=
  if token.isEmpty || !token.all Char.isDigit || (token.head? == some '0' && token.length != 1)
  then none
  else
    let index := token.foldl (fun n c => 10 * n + (c.toNat - '0'.toNat)) 0
    if index < Nat.pow 2 64 then some index else none

/-- The value that one token selects. -/
def child? (v : Json) (token : List Char) : Option Json :=
  match v with
  | .object fields => Entries.get? fields (String.ofList token)
  | .array elements => (indexOfToken? token).bind fun index => elements[index]?
  | _ => none

/-- The value that a pointer selects.  The empty pointer selects the whole value and
every other pointer starts with a slash. -/
def at? (v : Json) (pointer : String) : Option Json :=
  match pointer.toList with
  | [] => some v
  | '/' :: rest => (Text.split '/' rest).foldlM (fun v token => v.child? (unescapeToken token)) v
  | _ => none

end Json

end TreeSchema
