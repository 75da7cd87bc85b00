/-
Splitting a text at a separator.
-/

namespace TreeSchema

namespace Text

/-- The pieces of a text between occurrences of a character: one more than there are
occurrences. -/
def split (separator : Char) : List Char → List (List Char)
  | [] => [[]]
  | c :: rest =>
    if c = separator then [] :: split separator rest
    else match split separator rest with
      | [] => [[c]]
      | piece :: pieces => (c :: piece) :: pieces

end Text

end TreeSchema
