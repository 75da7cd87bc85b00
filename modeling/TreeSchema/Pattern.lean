/-
Patterns for texts.

A pattern keeps the text that it was written as.  `Pattern.ofSource?` wraps that text in
`^(?:` and `)$` and reads the whole as one regular expression, so that a match has to go from
the beginning of a text to its end.  `Pattern.exact` is the pattern of one given text; its
expression is built from the text, and does what its source says
(`Pattern.foundIn_source_exact`).  Two patterns are the same when they are written the same.
-/
import TreeSchema.Regex.Parser
import TreeSchema.Regex.Search

namespace TreeSchema

/-- A regular expression with the text that it was written as. -/
structure Pattern where
  source : String
  regex : Regex
  deriving Repr

namespace Pattern

/-- The source with an anchor at each end. -/
def anchored (source : List Char) : List Char :=
  ['^', '(', '?', ':'] ++ source ++ [')', '$']

/-- The pattern of a source, if that is a regular expression. -/
def ofSource? (source : String) : Option Pattern :=
  (Regex.parse? (anchored source.toList)).map fun regex => ⟨source, regex⟩

/-- The pattern that only the given text matches. -/
def exact (literal : String) : Pattern where
  source := String.ofList (['^'] ++ Regex.escape literal.toList ++ ['$'])
  regex := Regex.exactly literal.toList

/-- Whether a text matches. -/
def admits (pattern : Pattern) (text : String) : Bool := pattern.regex.foundIn text

/-- The same pattern: written the same. -/
def same (a b : Pattern) : Bool := a.source == b.source

end Pattern

end TreeSchema
