import Stylesheet.Scope.Bindings

/-! # The store

The **store** holds what changes about scopes and views while they live: bindings, selectors, the
warnings that have been given, and what has been remembered about roots and captures. Scopes and
views are numbered separately, in the order in which they are made. -/

namespace Stylesheet

/-- The one-time warnings that have been given in a chain. -/
structure Ledger where
  /-- The assignments to global variables that have been warned about, with their places. -/
  assignments : List (Name × Location)
  /-- The places of deprecated `false` results that have been warned about. -/
  falseResults : List Location
  deriving DecidableEq

/-- No warning has been given. -/
def Ledger.empty : Ledger := ⟨[], []⟩

/-- The changing side of scopes and views. -/
structure Store where
  /-- The key of the next scope. -/
  nextScope : Nat
  /-- The key of the next view. -/
  nextView : Nat
  /-- The bindings of scopes that have any. -/
  tables : Std.ExtTreeMap Nat Bindings
  /-- The selectors of the scopes of style rules. -/
  selectors : Std.ExtTreeMap Nat SelectorList
  /-- The warnings that have been given, by root. -/
  ledgers : Std.ExtTreeMap Nat Ledger
  /-- The roots that nested scopes have remembered. -/
  roots : Std.ExtTreeMap Nat Root
  /-- The callers that views have remembered. -/
  callers : Std.ExtTreeMap Nat (Option View)
  /-- The content blocks that views have remembered. -/
  contents : Std.ExtTreeMap Nat (Option (ContentBlock View))

/-- A step that reads and changes the store. -/
abbrev Scoping := StateM Store

namespace Store

/-- No scope has been made yet. -/
def empty : Store := ⟨0, 0, ∅, ∅, ∅, ∅, ∅, ∅⟩

/-! ## Making environments -/

/-- The key of a new scope. -/
def freshScope : Scoping Nat :=
  modifyGet fun store => (store.nextScope, { store with nextScope := store.nextScope + 1 })

/-- A new scope without an enclosing one, with the trace that its chain shares. -/
def newRoot (snapshot : Snapshot) (trace : TraceRef) : Scoping Scope := do
  return .root (← freshScope) snapshot trace

/-- A new scope nested in `parent`, under the options of its own if any are given. -/
def newNested (parent : Scope) (snapshot : Option Snapshot) : Scoping Scope := do
  return .nested (← freshScope) (snapshot.getD parent.snapshot) parent

/-- The new scope of a body declared in `declaring`, with the captured call site and the content
block that was passed. -/
def newBody (declaring : Scope) (caller : Handle) (content : Option (ContentBlock Handle)) :
    Scoping Scope := do
  let key ← freshScope
  return match content with
    | none => .body key declaring caller.env
    | some block => .bodyWith key declaring caller.env block.nodes block.environment.env

/-- A new view, which reports options of its own. -/
def newView (inner : Handle) (snapshot : Snapshot) : Scoping View :=
  modifyGet fun store =>
    (.view store.nextView snapshot inner.env, { store with nextView := store.nextView + 1 })

/-! ## Tables of a scope -/

/-- The bindings of a scope. -/
def bindingsOf (store : Store) (scope : Scope) : Bindings :=
  store.tables[scope.key]?.getD .empty

/-- One table of a scope. -/
def tableOf (store : Store) (scope : Scope) (ns : Namespace) : Table ns.Bound :=
  (store.bindingsOf scope).table ns

/-- The store with another table for a scope. -/
def setTableOf (store : Store) (scope : Scope) (ns : Namespace) (table : Table ns.Bound) : Store :=
  { store with
    tables := store.tables.insert scope.key ((store.bindingsOf scope).setTable ns table) }

/-- The table that was set is the table that is found. -/
@[simp] theorem tableOf_setTableOf (store : Store) (scope : Scope) (ns : Namespace)
    (table : Table ns.Bound) : (store.setTableOf scope ns table).tableOf scope ns = table := by
  simp [tableOf, bindingsOf, setTableOf]

/-- Setting a table leaves the tables of other scopes alone. -/
theorem tableOf_setTableOf_of_key_ne (store : Store) {scope other : Scope}
    (h : scope.key ≠ other.key) (ns wanted : Namespace) (table : Table ns.Bound) :
    (store.setTableOf scope ns table).tableOf other wanted = store.tableOf other wanted := by
  simp [tableOf, bindingsOf, setTableOf, Std.ExtTreeMap.getElem?_insert, h]

/-- Setting a table leaves the tables of other namespaces alone. -/
theorem tableOf_setTableOf_of_ne (store : Store) (scope : Scope) {ns other : Namespace}
    (h : ns ≠ other) (table : Table ns.Bound) :
    (store.setTableOf scope ns table).tableOf scope other = store.tableOf scope other := by
  simp [tableOf, bindingsOf, setTableOf, Bindings.table_setTable_of_ne _ h]

end Store

end Stylesheet
