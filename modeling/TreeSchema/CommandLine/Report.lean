/-
What a command reports.

A report has the lines of the output, the warnings, and what made the command fail, if
something did.  Text can be set off by colours; whether there are any is decided from
outside.
-/
import TreeSchema.CommandLine.Failure

namespace TreeSchema

namespace CommandLine

/-- How a piece of text is set off on a terminal. -/
inductive Style where
  | bold
  | dimmed
  | red
  | green
  | yellow
  deriving DecidableEq, Repr

def Style.code : Style → String
  | .bold => "1"
  | .dimmed => "2"
  | .red => "31"
  | .green => "32"
  | .yellow => "33"

/-- What ends all styles. -/
def plainAgain : String := "\x1b[0m"

/-- A piece of text in some styles, if there are colours at all.  Where the styles end inside
the text, they begin again. -/
def styled (colour : Bool) (styles : List Style) (text : String) : String :=
  if colour then
    let start := "\x1b[" ++ String.intercalate ";" (styles.map Style.code) ++ "m"
    start ++ text.replace plainAgain (plainAgain ++ start) ++ plainAgain
  else text

/-- What a command reports. -/
structure Report where
  lines : List String := []
  warnings : List String := []
  failure : Option Failure := none

namespace Report

/-- The report of nothing but a failure. -/
def failed (failure : Failure) : Report := { failure := some failure }

/-- Lines as a text. -/
def textOf (lines : List String) : String := String.join (lines.map fun line => line ++ "\n")

/-- The text for the standard output. -/
def output (report : Report) : String := textOf report.lines

/-- The text for the standard error. -/
def errors (colour : Bool) (report : Report) (words : Wording := fun _ => none) : String :=
  textOf (report.warnings.map (fun text =>
    styled colour [.bold, .yellow] "warning:" ++ " " ++ text) ++
    report.failure.toList.map fun failure =>
      styled colour [.bold, .red] "error:" ++ " " ++ failure.message words)

/-- The exit code. -/
def code (report : Report) : Nat := if report.failure.isSome then 1 else 0

end Report

end CommandLine

end TreeSchema
