import Stylesheet.Text.Quoted

/-! # Severities of messages

Five named levels, from tracing to errors, with a threshold test and a reader of level names. -/

namespace Stylesheet.Diagnostic

/-- How severe a message is. -/
inductive Severity where
  /-- Step by step detail. -/
  | trace
  /-- Detail for debugging. -/
  | debug
  /-- Information. -/
  | info
  /-- A warning. -/
  | warn
  /-- An error. -/
  | error
  deriving DecidableEq

namespace Severity

/-- Every severity, the least severe first. -/
def all : List Severity := [trace, debug, info, warn, error]

/-- The position of a severity, counted from the least severe. -/
def rank : Severity → Nat
  | trace => 0
  | debug => 1
  | info => 2
  | warn => 3
  | error => 4

/-- Severities are ordered by their rank. -/
instance : Ord Severity := ⟨fun a b => compare a.rank b.rank⟩

/-- A message of severity `s` passes the threshold `min`. -/
def passes (s min : Severity) : Bool := min.rank ≤ s.rank

/-- The name of a severity. -/
def name : Severity → String
  | trace => "trace"
  | debug => "debug"
  | info => "info"
  | warn => "warn"
  | error => "error"

/-- The severity with the given name; the case of ASCII letters does not matter. -/
def ofName? (raw : String) : Option Severity :=
  all.find? fun s => s.name.toList == raw.toList.map Char.toLower

/-- What is said of a name that no severity has. -/
def unknownMessage (raw : String) : String :=
  "unknown log level " ++ Text.quoted raw

/-- Every severity is found by its name. -/
@[simp] theorem ofName?_name (s : Severity) : ofName? s.name = some s := by
  cases s <;> decide

/-- Warnings pass every threshold but that for errors. -/
theorem warn_passes_iff (threshold : Severity) :
    passes .warn threshold = true ↔ threshold ≠ .error := by
  cases threshold <;> decide

end Severity

end Stylesheet.Diagnostic
