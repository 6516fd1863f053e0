import Stylesheet.Location

/-! # Compile errors

An error has a **cause**, from which its message is rendered when it is raised, and usually no
location yet. The first location that it is given becomes its own; locations that come later, and the
frames that it passes through, become steps of its **backtrace**, so that a report shows both where
the failure happened and how it was reached. -/

namespace Stylesheet.Diagnostic

/-- Why compilation failed. -/
inductive Cause where
  /-- Nothing matched an imported reference: neither the importing file's resolver nor one of the
  load paths with these names. -/
  | importNotFound (reference : String) (loadPaths : List String)
  /-- A file imports itself, directly or through others. The chain lists the files in import order
  and ends with the file that closes the loop. -/
  | importLoop (chain : List String)
  /-- Any other failure, described by its message. -/
  | custom (message : String)
  deriving DecidableEq

namespace Cause

/-- The load paths as a message lists them. -/
def describeLoadPaths : List String → String
  | [] => "Load paths: (none)"
  | [path] => "Load path: " ++ path
  | paths => "Load paths:" ++ String.join (paths.map ("\n  " ++ ·))

/-- One line for each import of a loop. -/
def describeLoop (chain : List String) : String :=
  String.join ((chain.zip chain.tail).map fun (importer, imported) =>
    "\n    " ++ importer ++ " imports " ++ imported)

/-- The message of a cause. -/
def message : Cause → String
  | importNotFound reference loadPaths =>
    "File to import not found or unreadable: " ++ reference ++ ".\n" ++ describeLoadPaths loadPaths
  | importLoop chain => "An @import loop has been found:" ++ describeLoop chain
  | custom message => message

end Cause

/-- One step of the way on which an error was reached. -/
structure BacktraceStep where
  /-- The statement the error passed through. -/
  location : Location
  /-- What was happening there, if that is known. -/
  context : Option String
  deriving DecidableEq

/-- A step as a report shows it. -/
def BacktraceStep.text (step : BacktraceStep) : String :=
  "from " ++ step.location.text ++
    match step.context with
    | none => ""
    | some context => ", in " ++ context

/-- An error of the compiler. -/
structure CompileError where
  /-- Why compilation failed. -/
  cause : Cause
  /-- What is said of it, which is rendered from the cause when the error is raised. -/
  message : String
  /-- Where the failure happened, once that is known. -/
  location : Option Location
  /-- How the failure was reached, innermost step first. -/
  backtrace : List BacktraceStep
  deriving DecidableEq

namespace CompileError

/-- The error that a cause **raises**, with its message, as it is once it has this location and these
steps. -/
def raisedBy (cause : Cause) (location : Option Location) (backtrace : List BacktraceStep) :
    CompileError :=
  ⟨cause, cause.message, location, backtrace⟩

/-- An error that has not been located yet. -/
def ofCause (cause : Cause) : CompileError :=
  raisedBy cause none []

/-- The error with one more step behind its backtrace. -/
def via (error : CompileError) (step : BacktraceStep) : CompileError :=
  { error with backtrace := error.backtrace ++ [step] }

/-- The error with several more steps behind its backtrace. -/
def viaAll (error : CompileError) (steps : List BacktraceStep) : CompileError :=
  { error with backtrace := error.backtrace ++ steps }

/-- The error as it leaves the statement at `location`. An error without a location takes it as its
own; a located one keeps its location and records the new one as a step without context. -/
def locatedAt (error : CompileError) (location : Location) : CompileError :=
  match error.location with
  | none => { error with location := some location }
  | some _ => error.via ⟨location, none⟩

/-- The line of the failure, once it is located. -/
def line (error : CompileError) : Option Nat :=
  error.location.map Location.line

/-- The file of the failure, if it is located and its source has one. -/
def filename (error : CompileError) : Option String :=
  error.location.bind Location.filename

/-- The line break and indent that begin every line of a report but the first. -/
def reportIndent : String := "\n        "

/-- The **full report**: the message, the location and then each step of the backtrace. -/
def report (error : CompileError) : String :=
  "Error: " ++ error.message ++
    (match error.location with
      | none => ""
      | some location => reportIndent ++ "on " ++ location.text) ++
    String.join (error.backtrace.map fun step => reportIndent ++ step.text)

@[simp] theorem cause_raisedBy (cause : Cause) (location : Option Location)
    (backtrace : List BacktraceStep) : (raisedBy cause location backtrace).cause = cause := rfl

@[simp] theorem cause_locatedAt (error : CompileError) (location : Location) :
    (error.locatedAt location).cause = error.cause := by
  unfold locatedAt
  split <;> rfl

@[simp] theorem cause_viaAll (error : CompileError) (steps : List BacktraceStep) :
    (error.viaAll steps).cause = error.cause := rfl

/-- The first location becomes that of the error. -/
theorem locatedAt_of_unlocated {error : CompileError} (h : error.location = none)
    (location : Location) : error.locatedAt location = { error with location := some location } := by
  rw [locatedAt, h]

/-- A later location is one more step. -/
theorem locatedAt_of_located {error : CompileError} {first : Location}
    (h : error.location = some first) (location : Location) :
    error.locatedAt location = error.via ⟨location, none⟩ := by
  rw [locatedAt, h]

end CompileError

end Stylesheet.Diagnostic
