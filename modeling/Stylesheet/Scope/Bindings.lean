import Std.Data.ExtTreeMap.Lemmas
import Stylesheet.Callable
import Stylesheet.Value

/-! # Binding tables

A scope binds names in three **namespaces**: variables, mixins and functions. Each namespace has a
table of its own, keyed by normalized spellings and ordered by them. What is written for one
namespace and one name leaves every other look-up as it was. -/

namespace Stylesheet

/-- The kinds of bindings that a scope holds side by side. -/
inductive Namespace where
  /-- Variables, which hold script values. -/
  | var
  /-- Mixins. -/
  | mixin
  /-- Functions. -/
  | function
  deriving DecidableEq

/-- The word for what a namespace binds. -/
def Namespace.kind : Namespace → String
  | var => "variable"
  | mixin => "mixin"
  | function => "function"

/-- What names are bound to in a namespace. -/
abbrev Namespace.Bound : Namespace → Type
  | var => Value
  | mixin => Callable
  | function => Callable

/-- A **binding table**: what names are bound to, by normalized spelling. -/
abbrev Table (ν : Type) := Std.ExtTreeMap String ν

namespace Table

variable {ν : Type}

/-- What is bound under a spelling that is taken as it stands. -/
def get? (table : Table ν) (text : String) : Option ν :=
  table[text]?

/-- Something is bound under a spelling that is taken as it stands. -/
def contains (table : Table ν) (text : String) : Bool :=
  (table.get? text).isSome

/-- Creates or overwrites a binding. -/
def bind (table : Table ν) (name : Name) (value : ν) : Table ν :=
  Std.ExtTreeMap.insert table name.text value

/-- Overwrites the binding under a spelling if there is one; otherwise hands the value back. -/
def replace (table : Table ν) (text : String) (value : ν) : Except ν (Table ν) :=
  if table.contains text then .ok (Std.ExtTreeMap.insert table text value) else .error value

/-- The bound spellings, in order. -/
def names (table : Table ν) : List String :=
  Std.ExtTreeMap.keys table

/-- The number of bindings. -/
def count (table : Table ν) : Nat :=
  Std.ExtTreeMap.size table

/-- No name is bound. -/
def hasNone (table : Table ν) : Bool :=
  table.count == 0

@[simp] theorem get?_bind (table : Table ν) (name : Name) (value : ν) (text : String) :
    (table.bind name value).get? text =
      if name.text = text then some value else table.get? text := by
  simp [bind, get?, Std.ExtTreeMap.getElem?_insert]

end Table

/-- The three tables of one scope. -/
structure Bindings where
  /-- Variables. -/
  vars : Table Value
  /-- Mixins. -/
  mixins : Table Callable
  /-- Functions. -/
  functions : Table Callable

namespace Bindings

/-- Nothing is bound. -/
def empty : Bindings := ⟨∅, ∅, ∅⟩

/-- The table of a namespace. -/
def table (bindings : Bindings) : (ns : Namespace) → Table ns.Bound
  | .var => bindings.vars
  | .mixin => bindings.mixins
  | .function => bindings.functions

/-- The bindings with another table for a namespace. -/
def setTable (bindings : Bindings) : (ns : Namespace) → Table ns.Bound → Bindings
  | .var, table => { bindings with vars := table }
  | .mixin, table => { bindings with mixins := table }
  | .function, table => { bindings with functions := table }

@[simp] theorem table_setTable (bindings : Bindings) (ns : Namespace) (table : Table ns.Bound) :
    (bindings.setTable ns table).table ns = table := by
  cases ns <;> rfl

/-- Setting one table leaves the tables of other namespaces alone. -/
theorem table_setTable_of_ne (bindings : Bindings) {ns other : Namespace} (h : ns ≠ other)
    (table : Table ns.Bound) : (bindings.setTable ns table).table other = bindings.table other := by
  cases ns <;> cases other <;> simp_all [setTable, Bindings.table]

end Bindings

end Stylesheet
