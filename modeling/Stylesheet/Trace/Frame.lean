import Stylesheet.Diagnostic.CompileError

/-! # Frames

A **frame** records a statement that is being carried out: the compilation of the top-level file,
an `@import` that is being expanded, or a mixin body that is being evaluated. -/

namespace Stylesheet

open Diagnostic

/-- What a frame stands for. -/
inductive Activity where
  /-- The compilation of the top-level file. -/
  | base
  /-- The expansion of an `@import` with this reference. -/
  | importing (reference : String)
  /-- The evaluation of the body of the mixin with this name. -/
  | mixin (name : String)
  deriving DecidableEq

/-- A statement that is being carried out. -/
structure Frame where
  /-- The file that holds the statement, if it has a name. -/
  filename : Option String
  /-- The line of the statement. -/
  line : Nat
  /-- What the statement does. -/
  activity : Activity
  deriving DecidableEq

namespace Frame

/-- The frame expands an `@import`. -/
def expandsImport (frame : Frame) : Bool :=
  match frame.activity with
  | .importing _ => true
  | _ => false

/-- Where the statement of the frame stands. -/
def location (frame : Frame) : Location :=
  ⟨frame.line, frame.filename⟩

/-- What a backtrace says about the frame. The base frame names the compiled file itself and no
statement, so nothing is said about it. -/
def description (frame : Frame) : Option String :=
  match frame.activity with
  | .base => none
  | .importing reference => some ("@import \"" ++ reference ++ "\"")
  | .mixin name => some ("mixin `" ++ name ++ "`")

/-- The step that a frame adds to the backtrace of an error raised inside it. -/
def step? (frame : Frame) : Option BacktraceStep :=
  frame.description.map fun context => ⟨frame.location, some context⟩

/-- The frame as a listing of frames shows it. -/
def text (frame : Frame) : String :=
  frame.location.text ++
    match frame.description with
    | none => ""
    | some context => ", in " ++ context

/-- A frame's step is shown as the frame itself behind the word "from". -/
theorem text_of_step {frame : Frame} {step : BacktraceStep} (h : frame.step? = some step) :
    step.text = "from " ++ frame.text := by
  obtain ⟨context, hc, rfl⟩ := Option.map_eq_some_iff.1 h
  simp [BacktraceStep.text, text, hc, String.append_assoc]

end Frame

end Stylesheet
