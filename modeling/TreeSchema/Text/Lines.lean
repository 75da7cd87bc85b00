/-
Lines of a text.
-/

namespace TreeSchema

namespace Text

/-- A line from its characters, last one first, without the carriage return that may come before
a line break. -/
def endedLine : List Char → String
  | '\r' :: reversed => String.ofList reversed.reverse
  | reversed => String.ofList reversed.reverse

/-- The lines of a text, of whose first line the given characters are passed, last one
first. -/
def linesFrom (reversed : List Char) : List Char → List String
  | [] => if reversed.isEmpty then [] else [String.ofList reversed.reverse]
  | c :: rest =>
    if c = '\n' then endedLine reversed :: linesFrom [] rest else linesFrom (c :: reversed) rest

/-- The lines of a text.  A line break ends a line, so nothing follows the last one, and a
carriage return in front of it belongs to the break. -/
def lines (text : String) : List String := linesFrom [] text.toList

end Text

end TreeSchema
