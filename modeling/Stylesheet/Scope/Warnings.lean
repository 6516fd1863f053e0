import Stylesheet.Diagnostic.Logger
import Stylesheet.Scope.Chain

/-! # One-time warnings

Some deprecated uses are warned about once per chain and place. The root of the chain keeps the
ledger of what has been warned about; the options of the scope in which the use occurs decide
whether the warning is muted. A muted warning counts as given. -/

namespace Stylesheet

open Diagnostic

/-- The warning about an assignment to a global variable from a nested scope. -/
def globalAssignmentWarning (name : String) (location : Location) : String :=
  "DEPRECATION WARNING on " ++ location.text ++ ":\n" ++
    "Assigning to global variable \"$" ++ name ++
    "\" from a nested scope without !global is deprecated.\n" ++
    "Write \"$" ++ name ++ ": <value> !global\" to keep assigning to the global variable."

/-- The warning about a result of `false` that will become `null`. -/
def falseResultWarning (location : Location) : String :=
  "DEPRECATION WARNING on " ++ location.text ++ ":\n" ++
    "This result will change from false to null; avoid comparing it with \"== false\"."

namespace Store

/-- The ledger of a root. -/
def ledgerOf (store : Store) (root : Root) : Ledger :=
  store.ledgers[root.key]?.getD .empty

/-- The store with another ledger for a root. -/
def setLedgerOf (store : Store) (root : Root) (ledger : Ledger) : Store :=
  { store with ledgers := store.ledgers.insert root.key ledger }

/-- Hands a message to the logger if it is the first of its kind and the scope is not quiet. -/
def warnIfFirst (scope : Scope) (logger : Logger) (first : Bool) (message : String) : Logger :=
  if first && !scope.snapshot.options.quiet then logger.warn message else logger

/-- **Warns** about an assignment to a global variable from a nested scope, once for each variable
and place. Tells whether this was the first time. -/
def warnAssignment (scope : Scope) (logger : Logger) (name : String) (location : Location) :
    Scoping (Bool × Logger) := do
  let root ← rootOf scope
  let ledger := (← get).ledgerOf root
  let entry := (Name.ofRaw name, location)
  let first := !ledger.assignments.contains entry
  if first then
    modify fun store =>
      store.setLedgerOf root { ledger with assignments := entry :: ledger.assignments }
  return (first, warnIfFirst scope logger first
    (globalAssignmentWarning (Name.normalize name) location))

/-- **Warns** about a result of `false` that will become `null`, once for each place. Tells whether
this was the first time. -/
def warnFalseResult (scope : Scope) (logger : Logger) (location : Location) :
    Scoping (Bool × Logger) := do
  let root ← rootOf scope
  let ledger := (← get).ledgerOf root
  let first := !ledger.falseResults.contains location
  if first then
    modify fun store =>
      store.setLedgerOf root { ledger with falseResults := location :: ledger.falseResults }
  return (first, warnIfFirst scope logger first (falseResultWarning location))

end Store

end Stylesheet
