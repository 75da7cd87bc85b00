/-
Text as it is quoted in messages.

A quoted text stands between double quotes.  Inside, the quote and the backslash follow a
backslash, the usual control characters have their letters, and every other character
that would not show up as itself is given by its code point.
-/
import TreeSchema.Unicode.GeneralCategory
import TreeSchema.Unicode.Property
import TreeSchema.Unicode.Recent

namespace TreeSchema

namespace Text

/-- The categories of characters that leave no mark: controls, formats, unassigned
and private characters, and separators. -/
def unmarkedCategories : List String := ["Cc", "Cf", "Cs", "Co", "Cn", "Zl", "Zp", "Zs"]

/-- Whether a character leaves no mark or attaches to the character in front of it. -/
def isHidden (c : Char) : Bool :=
  let category := Unicode.category c
  let among (table : String) : Bool := (Unicode.CodePoints.ofText table).contains c
  unmarkedCategories.contains category || among Unicode.defaultIgnorableCodePointText ||
    (["Mn", "Mc", "Me"].contains category && among Unicode.graphemeExtendText)

/-- Whether a character shows up as itself.  The space counts as one that does. -/
def showsItself (c : Char) : Bool :=
  if c.toNat < 128 then ' ' ≤ c && c ≤ '~'
  else !isHidden c || (Unicode.CodePoints.ofText Unicode.recentVisibleText).contains c

/-- One character inside quotes. -/
def quotedChar (c : Char) : List Char :=
  if c = '"' then ['\\', '"']
  else if c = '\\' then ['\\', '\\']
  else if c = '\n' then ['\\', 'n']
  else if c = '\r' then ['\\', 'r']
  else if c = '\t' then ['\\', 't']
  else if c = '\x00' then ['\\', '0']
  else if showsItself c then [c]
  else ['\\', 'u', '\x7b'] ++ Nat.toDigits 16 c.toNat ++ ['\x7d']

/-- A text between quotes. -/
def quoted (text : String) : String :=
  String.ofList (['"'] ++ text.toList.flatMap quotedChar ++ ['"'])

end Text

end TreeSchema
