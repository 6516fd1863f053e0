/-! # Sheets

A **sheet** is a unit of compilation: rendered CSS interleaved with `@import` statements, in source
order. An `Item` is such a piece as it is written down; a `Node` is a piece of a sheet that is being
compiled, in which each `@import` occurrence is a statement with an identity of its own. -/

namespace Stylesheet

/-- A piece of a sheet as it is written. -/
inductive Item where
  /-- Rendered CSS. -/
  | css (text : String)
  /-- An `@import` of a reference, on a line. -/
  | atImport (reference : String) (line : Nat)
  deriving DecidableEq

/-- One **occurrence** of an `@import` statement. Two occurrences with the same reference and line
differ in their key. -/
structure ImportStatement where
  /-- The identity of the occurrence. -/
  key : Nat
  /-- The reference, as it is written. -/
  reference : String
  /-- The line of the statement. -/
  line : Nat
  deriving DecidableEq

/-- A piece of a sheet that is being compiled. -/
inductive Node where
  /-- Rendered CSS. -/
  | css (text : String)
  /-- An `@import` statement. -/
  | atImport (statement : ImportStatement)
  deriving DecidableEq

/-- A sheet that is being compiled. -/
structure Sheet where
  /-- What the sheet is called, as a rule its resolved path. -/
  identifier : String
  /-- The pieces, in source order. -/
  children : List Node
  deriving DecidableEq

namespace Node

/-- The piece as it was written. -/
def item : Node → Item
  | css text => .css text
  | atImport statement => .atImport statement.reference statement.line

/-- The statement of an `@import`. -/
def statement? : Node → Option ImportStatement
  | css _ => none
  | atImport statement => some statement

end Node

namespace Sheet

/-- A plain CSS file, which is imported by name and never spliced: it has no pieces. -/
def plainCss (identifier : String) : Sheet :=
  ⟨identifier, []⟩

/-- Rendered pieces on lines of their own, without the empty ones. -/
def joinPieces (pieces : List String) : String :=
  "\n".intercalate (pieces.filter (· ≠ ""))

/-- The `@import` statements of a sheet, in source order. -/
def imports (sheet : Sheet) : List ImportStatement :=
  sheet.children.filterMap Node.statement?

/-- An empty piece leaves no line. -/
@[simp] theorem joinPieces_cons_empty (pieces : List String) :
    joinPieces ("" :: pieces) = joinPieces pieces := by
  simp [joinPieces]

end Sheet

end Stylesheet
