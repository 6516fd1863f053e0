/-! # Source locations

A **location** is a line of a style sheet, in the file of a given name when one is known. A sheet
that was supplied as text has no file name. -/

namespace Stylesheet

/-- A line, counted from one, in a file. -/
structure Location where
  /-- The line. -/
  line : Nat
  /-- The file, if the source has one. -/
  filename : Option String
  deriving DecidableEq

/-- The location as messages show it. -/
def Location.text (location : Location) : String :=
  "line " ++ toString location.line ++
    match location.filename with
    | none => ""
    | some filename => " of " ++ filename

end Stylesheet
