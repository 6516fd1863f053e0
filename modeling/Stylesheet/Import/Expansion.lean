import Stylesheet.Import.Resolution
import Stylesheet.Trace

/-! # Expansion of imports

**Expanding** a sheet renders it with every imported sheet in the place of its `@import`. Each
expansion of an import is a frame of the trace; a plain CSS import stays a statement of the output;
pieces that render to nothing leave no line. A sheet is never entered while it is being expanded:
the frames show that, and the attempt is an error that lists the files of the loop. -/

namespace Stylesheet

open Diagnostic

/-- What expansion reads and changes: the outcomes of imports and the live frames. -/
structure Expansion where
  /-- The state of import resolution. -/
  imports : Imports
  /-- The live frames. -/
  trace : Trace

/-- A step of an expansion. -/
abbrev Expand := ExceptT CompileError (StateM Expansion)

namespace Expansion

/-- Carries a query on imports out. -/
def query {α : Type} (q : Query α) : Expand α := fun s =>
  let (result, imports) := q.run s.imports
  (result, { s with imports := imports })

/-- Runs a step inside a frame, which is closed again however the step ends. -/
def within {α : Type} (frame : Frame) (step : Expand α) : Expand α := fun s =>
  let (result, after) := step.run { s with trace := s.trace.push frame }
  (result, { after with trace := after.trace.pop })

/-- Lets an error that a step ends with take the live frames as its backtrace. -/
def attaching {α : Type} (step : Expand α) : Expand α :=
  tryCatch step fun error => do throw ((← get).trace.attachTo error)

/-- The files that the import of `identifier` from the file `current` would lead around in a loop,
in import order, if it would: the sheet imports itself, or the file is importing further out. -/
def loop? (trace : Trace) (current : Option String) (identifier : String) : Option (List String) :=
  if current = some identifier then
    some [identifier, identifier]
  else
    (trace.outermostImportFrom identifier).map fun start =>
      ((trace.outermostFirst.drop start).filter Frame.expandsImport).filterMap Frame.filename ++
        current.toList ++ [identifier]

/-- Fails if the import of `identifier` by the statement would close a loop. -/
def refuseLoop (statement : ImportStatement) (identifier : String) (options : Options) :
    Expand Unit := do
  match loop? (← get).trace options.filename identifier with
  | none => return ()
  | some chain =>
    throw ((CompileError.ofCause (.importLoop chain)).locatedAt (statement.location options))

/-- The sheet that the statement splices and the options to render it under, or nothing for a plain
CSS import. -/
def target (statement : ImportStatement) (options : Options) : Expand (Option (Sheet × Options)) :=
  do
    if ← query (statement.isCss options) then
      return none
    else
      let found ← query (statement.requireFound options)
      refuseLoop statement found.sheet.identifier options
      return some (found.sheet, options.forSheet found.sheet.identifier found.resolver)

/-- The frame of an `@import` that is being expanded. -/
def importFrame (statement : ImportStatement) (options : Options) : Frame :=
  ⟨options.filename, statement.line, .importing statement.reference⟩

/-- The frame of the top-level file. -/
def baseFrame (options : Options) : Frame :=
  ⟨options.filename, 1, .base⟩

/-- A plain CSS import as a statement of the output. -/
def cssImport (reference : String) : String :=
  "@import \"" ++ reference ++ "\";"

/-- Renders one piece of a sheet, an `@import` as `splice` renders it. -/
def expandNode (splice : ImportStatement → Expand String) : Node → Expand String
  | .css text => return text
  | .atImport statement => splice statement

/-- Renders the pieces of a sheet, in order, until one fails. -/
def expandNodes (splice : ImportStatement → Expand String) (nodes : List Node) : Expand String := do
  return Sheet.joinPieces (← nodes.mapM (expandNode splice))

/-- Renders what a statement imports: a plain CSS import as a statement, and a sheet as `enter`
renders it inside the frame of the import. -/
def spliceWith (enter : Sheet → Options → Expand String) (options : Options)
    (statement : ImportStatement) : Expand String := do
  match ← attaching (target statement options) with
  | none => return cssImport statement.reference
  | some (sheet, nested) => within (importFrame statement options) (enter sheet nested)

/-- Renders what a statement imports, entering sheets at most `depth` deep. The caller grants as
many levels as there are identifiers, of which every sheet that is entered uses up one, so the first
case never comes to enter a sheet. -/
def expandImport : Nat → Options → ImportStatement → Expand String
  | 0 => spliceWith fun _ _ => throw (.ofCause (.importLoop []))
  | depth + 1 => spliceWith fun sheet nested =>
    expandNodes (expandImport depth nested) sheet.children

/-- The identifiers of all sheets that an expansion under these options may enter: those of the
files of every resolver it may ask, and those of the sheets that have been resolved already. -/
def reachableIdentifiers (imports : Imports) (options : Options) : List String :=
  let found := imports.outcomes.toList.filterMap Prod.snd
  (options.resolvers ++ found.map Resolution.resolver).flatMap Resolver.identifiers ++
    found.map fun resolution => resolution.sheet.identifier

/-- **Expands** a sheet that is compiled under the given options. -/
def expand (sheet : Sheet) (options : Options) : Expand String := do
  let depth := (reachableIdentifiers (← get).imports options).length
  within (baseFrame options) (expandNodes (expandImport depth options) sheet.children)

end Expansion

end Stylesheet
