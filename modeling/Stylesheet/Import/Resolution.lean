import Std.Data.ExtTreeMap.Lemmas
import Stylesheet.Import.Options

/-! # Resolution of imports

Resolving an `@import` statement asks the importing file's resolver for a relative match and then
each load path, and keeps the first sheet found. The **outcome** of a completed search, a sheet or a
miss, is remembered for the statement and answers every later query; a search that a broken file
ends is not remembered. Each lookup is logged as a **probe** of its resolver. -/

namespace Stylesheet

open Diagnostic

/-- A lookup that a resolver has received. -/
inductive Probe where
  /-- A reference, relative to the file `origin`. -/
  | relative (reference origin : String)
  /-- A reference, from the resolver's root. -/
  | absolute (reference : String)
  deriving DecidableEq

/-- A place where a search looks for a reference. -/
inductive SearchPlace where
  /-- In the directory of the file `origin`. -/
  | beside (resolver : Resolver) (origin : String)
  /-- Below the root of the resolver. -/
  | below (resolver : Resolver)

/-- A sheet that a search has found. -/
structure Resolution where
  /-- The sheet. -/
  sheet : Sheet
  /-- The resolver that holds it, which becomes its importer. -/
  resolver : Resolver

/-- The **state of import resolution**: the outcome for every statement whose search has been
completed, and the probes of all resolvers. -/
structure Imports where
  /-- The key of the next resolver. -/
  nextResolver : Nat
  /-- The key of the next statement. -/
  nextStatement : Nat
  /-- The outcomes of completed searches, by statement; a miss has no resolution. -/
  outcomes : Std.ExtTreeMap Nat (Option Resolution)
  /-- The lookups with the resolvers that received them, the latest in front. -/
  probes : List (Nat × Probe)

/-- A query on imports, which may fail and may change the state of resolution. -/
abbrev Query := ExceptT CompileError (StateM Imports)

namespace SearchPlace

/-- The resolver that is asked. -/
def resolver : SearchPlace → Resolver
  | beside resolver _ => resolver
  | below resolver => resolver

/-- The lookup that the resolver receives. -/
def probe (reference : String) : SearchPlace → Probe
  | beside _ origin => .relative reference origin
  | below _ => .absolute reference

/-- What the resolver finds. -/
def lookup (reference : String) : SearchPlace → Except CompileError (Option SheetSource)
  | beside resolver origin => resolver.sheetBeside reference origin
  | below resolver => resolver.sheetFor reference

end SearchPlace

/-- The places to search under some options, in order: beside the current file, if there is one with
an importer, and then below each load path. -/
def Options.searchPlaces (options : Options) : List SearchPlace :=
  (match options.importer, options.filename with
    | some importer, some filename => [.beside importer filename]
    | _, _ => []) ++
    options.loadPaths.map .below

namespace Imports

/-- Nothing has been resolved yet. -/
def empty : Imports := ⟨0, 0, ∅, []⟩

/-- The outcome for a statement, if its search has been completed. -/
def outcome? (imports : Imports) (statement : ImportStatement) : Option (Option Resolution) :=
  imports.outcomes[statement.key]?

/-- The sheet for a statement, if its search has found one. -/
def resolvedSheet? (imports : Imports) (statement : ImportStatement) : Option Sheet :=
  (imports.outcome? statement).join.map Resolution.sheet

/-- Remembers the outcome for a statement. -/
def settle (imports : Imports) (statement : ImportStatement) (outcome : Option Resolution) :
    Imports :=
  { imports with outcomes := imports.outcomes.insert statement.key outcome }

/-- The outcome that was remembered is the outcome that is found. -/
@[simp] theorem outcome?_settle (imports : Imports) (statement : ImportStatement)
    (outcome : Option Resolution) :
    (imports.settle statement outcome).outcome? statement = some outcome := by
  simp [outcome?, settle]

/-- Logs a lookup. -/
def logProbe (imports : Imports) (resolver : Resolver) (probe : Probe) : Imports :=
  { imports with probes := (resolver.key, probe) :: imports.probes }

/-- The lookups that a resolver has received, oldest first. -/
def probesOf (imports : Imports) (resolver : Resolver) : List Probe :=
  (imports.probes.filterMap fun (key, probe) =>
    if key = resolver.key then some probe else none).reverse

/-- A new resolver with these files, added in order. -/
def newResolver (root : String) (files : List (String × SheetFile)) : StateM Imports Resolver :=
  modifyGet fun imports =>
    (files.foldl (fun resolver (path, file) => resolver.withFile path file)
      ⟨imports.nextResolver, root, []⟩,
      { imports with nextResolver := imports.nextResolver + 1 })

/-- A new statement. -/
def newStatement (reference : String) (line : Nat) : StateM Imports ImportStatement :=
  modifyGet fun imports =>
    (⟨imports.nextStatement, reference, line⟩,
      { imports with nextStatement := imports.nextStatement + 1 })

/-- A new node for a piece; an `@import` becomes a new statement. -/
def newNode : Item → StateM Imports Node
  | .css text => pure (.css text)
  | .atImport reference line => do return .atImport (← newStatement reference line)

/-- New nodes for pieces, in order. -/
def newNodes : List Item → StateM Imports (List Node)
  | [] => pure []
  | item :: rest => do
    let node ← newNode item
    let nodes ← newNodes rest
    return node :: nodes

/-- A new sheet from its description. -/
def newSheet (source : SheetSource) : StateM Imports Sheet := do
  return ⟨source.identifier, ← newNodes source.items⟩

/-- The sheet that a resolver's answer describes. -/
def instantiate : Except CompileError (Option SheetSource) → Query (Option Sheet)
  | .error error => throw error
  | .ok none => return none
  | .ok (some source) => return some (← newSheet source)

/-- Compiles the file at exactly this path. This is no lookup and leaves no probe. -/
def load (resolver : Resolver) (path : String) : Query (Option Sheet) :=
  instantiate (resolver.sheetAt path)

/-- Looks for a reference in one place. -/
def ask (reference : String) (place : SearchPlace) : Query (Option Sheet) := do
  modify fun imports => imports.logProbe place.resolver (place.probe reference)
  instantiate (place.lookup reference)

/-- Looks for a reference in one place and keeps the resolver with what it finds. -/
def askPlace (reference : String) (place : SearchPlace) : Query (Option Resolution) := do
  return (← ask reference place).map fun sheet => ⟨sheet, place.resolver⟩

/-- Looks for a reference in all places, until one has it or fails. -/
def searchFor (reference : String) (options : Options) : Query (Option Resolution) :=
  options.searchPlaces.findSomeM? (askPlace reference)

/-- The text of a sheet with the imports that have been resolved so far in their place, at most
`depth` sheets deep. -/
def textWithin (imports : Imports) : Nat → Sheet → String
  | 0, _ => ""
  | depth + 1, sheet =>
    Sheet.joinPieces <| sheet.children.map fun
      | .css text => text
      | .atImport statement =>
        match imports.resolvedSheet? statement with
        | none => ""
        | some imported => imports.textWithin depth imported

/-- **The text of a sheet**: its CSS and the sheets of the imports that have been resolved so far,
without empty pieces, on lines of their own. Statements are older than those of the sheets they
resolve to, so no sheet lies deeper than there are outcomes. -/
def sheetText (imports : Imports) (sheet : Sheet) : String :=
  imports.textWithin (imports.outcomes.size + 1) sheet

end Imports

namespace ImportStatement

/-- The **outcome** for the statement: the remembered one, or that of a search, which is remembered
unless it fails. An error of the search takes the place of the statement. -/
def findOutcome (statement : ImportStatement) (options : Options) : Query (Option Resolution) :=
  fun imports =>
    match imports.outcome? statement with
    | some outcome => (.ok outcome, imports)
    | none =>
      match (Imports.searchFor statement.reference options).run imports with
      | (.ok outcome, after) => (.ok outcome, after.settle statement outcome)
      | (.error error, after) => (.error (error.locatedAt (statement.location options)), after)

/-- A remembered outcome answers the query whatever the options are, and nothing is searched. -/
theorem run_findOutcome_of_settled {imports : Imports} {statement : ImportStatement}
    {outcome : Option Resolution} (h : imports.outcome? statement = some outcome)
    (options : Options) :
    (statement.findOutcome options).run imports = (.ok outcome, imports) := by
  simp only [findOutcome, ExceptT.run, h]

/-- The error that nothing was found for the statement. -/
def notFound (statement : ImportStatement) (options : Options) : CompileError :=
  (CompileError.ofCause (.importNotFound statement.reference options.pathNames)).locatedAt
    (statement.location options)

/-- The resolution of the statement; a miss is an error. -/
def requireFound (statement : ImportStatement) (options : Options) : Query Resolution := do
  match ← statement.findOutcome options with
  | some resolution => return resolution
  | none => throw (statement.notFound options)

/-- The sheet that the statement imports. -/
def importedSheet (statement : ImportStatement) (options : Options) : Query Sheet := do
  return (← statement.requireFound options).sheet

/-- The statement imports a plain CSS file and stays an `@import`. A reference with that extension
decides the question without a search. -/
def isCss (statement : ImportStatement) (options : Options) : Query Bool := do
  if Path.isCss statement.reference then
    return true
  else
    return Path.isCss (← statement.importedSheet options).identifier

/-- The cache key of what the statement imports, if anything was found. -/
def cacheKey (statement : ImportStatement) (options : Options) : Query (Option String) := do
  return (← statement.findOutcome options).map fun found =>
    found.resolver.cacheKey statement.reference

/-- The imported sheet has an empty text. -/
def rendersEmpty (statement : ImportStatement) (options : Options) : Query Bool := do
  let sheet ← statement.importedSheet options
  return (← get).sheetText sheet == ""

end ImportStatement

end Stylesheet
