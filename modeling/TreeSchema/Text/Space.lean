/-
White space.
-/
import TreeSchema.Unicode.Property

namespace TreeSchema

namespace Text

/-- The white space of Unicode. -/
def whiteSpace : Unicode.CodePoints := .ofText Unicode.whiteSpaceText

/-- Whether a character is white space. -/
def isSpace (c : Char) : Bool := whiteSpace.contains c

/-- Whether a text is nothing but white space. -/
def isBlank (text : String) : Bool := text.toList.all isSpace

end Text

end TreeSchema
