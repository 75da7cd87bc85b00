/-
Sets of characters that have a name.

The letters `d`, `s` and `w` name digits, blanks and word characters; names between colons
are those of ASCII classes; and `\p` takes the name of a general category, a script or a
property, written loosely, or the name of a property and a value of it.
-/
import TreeSchema.Regex.Division
import TreeSchema.Regex.Flags
import TreeSchema.Unicode.Age

namespace TreeSchema

namespace Regex

/-! ### Digits, blanks and word characters -/

def digitSet : CharSet := .category ["Nd"]

def blankSet : CharSet := .table Text.whiteSpace

/-- Letters, marks, digits, connectors and the two joiners. -/
def wordSet : CharSet :=
  .unions [.table (.ofText Unicode.alphabeticText), .category ["Mn", "Mc", "Me", "Nd", "Pc"],
    .table (.ofText Unicode.joinControlText)]

/-- Ranges of ASCII characters. -/
def asciiRanges (ranges : List (Char × Char)) : CharSet :=
  .unions (ranges.map fun (low, high) => .range low.toNat high.toNat)

/-- The ASCII classes by name. -/
def asciiClass? (name : String) : Option CharSet :=
  if name = "alnum" then some (asciiRanges [('0', '9'), ('A', 'Z'), ('a', 'z')])
  else if name = "alpha" then some (asciiRanges [('A', 'Z'), ('a', 'z')])
  else if name = "ascii" then some (asciiRanges [('\x00', '\x7f')])
  else if name = "blank" then some (asciiRanges [('\t', '\t'), (' ', ' ')])
  else if name = "cntrl" then some (asciiRanges [('\x00', '\x1f'), ('\x7f', '\x7f')])
  else if name = "digit" then some (asciiRanges [('0', '9')])
  else if name = "graph" then some (asciiRanges [('!', '~')])
  else if name = "lower" then some (asciiRanges [('a', 'z')])
  else if name = "print" then some (asciiRanges [(' ', '~')])
  else if name = "punct" then
    some (asciiRanges [('!', '/'), (':', '@'), ('[', '\x60'), ('\x7b', '~')])
  else if name = "space" then some (asciiRanges [('\t', '\r'), (' ', ' ')])
  else if name = "upper" then some (asciiRanges [('A', 'Z')])
  else if name = "word" then
    some (asciiRanges [('0', '9'), ('A', 'Z'), ('_', '_'), ('a', 'z')])
  else if name = "xdigit" then some (asciiRanges [('0', '9'), ('A', 'F'), ('a', 'f')])
  else none

/-- The set that the letter after a backslash names, in lower case. -/
def letterSet (flags : Flags) (letter : Char) : CharSet :=
  if flags.unicode then
    if letter = 'd' then digitSet else if letter = 's' then blankSet else wordSet
  else
    (asciiClass? (if letter = 'd' then "digit" else if letter = 's' then "space" else "word")).getD
      .empty

/-- The characters of words. -/
def wordChars (flags : Flags) : CharSet := letterSet flags 'w'

/-! ### Sets under flags -/

/-- The set closed under change of case, if case does not count. -/
def foldCase (flags : Flags) (set : CharSet) : CharSet :=
  if flags.ignoreCase then (if flags.unicode then .anyCase set else .anyAsciiCase set) else set

/-- The set or its complement, after change of case.  Without the Unicode flag a set may
hold no byte beyond ASCII, because that would not be a character. -/
def closeSet? (flags : Flags) (negated : Bool) (set : CharSet) : Option CharSet :=
  let closed := (foldCase flags set).complIf negated
  if flags.unicode || closed.isAscii then some closed else none

/-! ### Properties -/

/-- The code points of general categories by the loose name of a category. -/
def categorySet? (name : String) : Option CharSet :=
  if name = "any" then some (.compl .empty)
  else if name = "assigned" then some (.compl (.category ["Cn"]))
  else if name = "ascii" then some (.range 0 127)
  else (Unicode.categoriesNamed? name).map .category

def scriptSet? (name : String) : Option CharSet :=
  (Unicode.script? name).map fun script => .table (.ofText script.own)

def usedScriptSet? (name : String) : Option CharSet :=
  (Unicode.script? name).map fun script => .table (.ofText (script.used.getD script.own))

/-- The set of a name that stands alone.  Three short names are those of a category
before they are those of a property. -/
def namedSet? (name : String) : Option CharSet :=
  let property? := if ["cf", "sc", "lc"].contains name then none else Unicode.property? name
  match property? with
  | some points => some (.table (.ofText points))
  | none =>
    match categorySet? name with
    | some set => some set
    | none => scriptSet? name

/-- The characters of a version of the standard. -/
def versionSet? (name : String) : Option CharSet :=
  (Unicode.versionsUpTo? name).map fun versions =>
    .unions (versions.map fun version => .table (.ofText version.added))

/-- The set of the characters for which a property has a value. -/
def valuedSet? (property value : String) : Option CharSet :=
  if property = "gc" ∨ property = "generalcategory" then categorySet? value
  else if property = "sc" ∨ property = "script" then scriptSet? value
  else if property = "scx" ∨ property = "scriptextensions" then usedScriptSet? value
  else if property = "age" then versionSet? value
  else if property = "gcb" ∨ property = "graphemeclusterbreak" then clusterPart? value
  else if property = "wb" ∨ property = "wordbreak" then wordPart? value
  else if property = "sb" ∨ property = "sentencebreak" then sentencePart? value
  else none

/-- Splits a text in front of the first occurrence of a mark. -/
def splitAtMark? (mark : List Char) (text : List Char) : Option (List Char × List Char) :=
  ((List.range text.length).find? fun i => mark.isPrefixOf (text.drop i)).map fun i =>
    (text.take i, text.drop (i + mark.length))

/-- The set that stands between the braces after `\p`, and whether it is negated there. -/
def propertySet? (text : List Char) : Option (CharSet × Bool) :=
  let valued (parts : List Char × List Char) :=
    valuedSet? (Unicode.looseName parts.1) (Unicode.looseName parts.2)
  match splitAtMark? ['!', '='] text with
  | some parts => (valued parts).map (·, true)
  | none =>
    match (splitAtMark? [':'] text).or (splitAtMark? ['='] text) with
    | some parts => (valued parts).map (·, false)
    | none => (namedSet? (Unicode.looseName text)).map (·, false)

end Regex

end TreeSchema
