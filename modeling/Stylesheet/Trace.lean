import Stylesheet.Trace.Frame

/-! # Traces

The **trace** of a compilation is the stack of its live frames. An error raised while frames are
live takes them as its backtrace, and the expansion of imports scans them for loops. -/

namespace Stylesheet

open Diagnostic

/-- The live frames of a compilation. -/
structure Trace where
  /-- The frames, innermost first. -/
  frames : List Frame
  deriving DecidableEq

namespace Trace

/-- No frame is live. -/
def empty : Trace := ⟨[]⟩

/-- Opens a frame. -/
def push (trace : Trace) (frame : Frame) : Trace :=
  ⟨frame :: trace.frames⟩

/-- Closes the innermost frame; a trace without frames stays as it is. -/
def pop (trace : Trace) : Trace :=
  ⟨trace.frames.tail⟩

/-- The number of live frames. -/
def depth (trace : Trace) : Nat :=
  trace.frames.length

/-- No frame is live. -/
def isEmpty (trace : Trace) : Bool :=
  trace.frames.isEmpty

/-- The fault of closing a frame where none is live. -/
def popOnEmptyMessage : String :=
  "Stack::pop() called on empty stack"

/-- Closes the innermost frame, or reports the fault if there is none. -/
def popChecked (trace : Trace) : Except String Trace :=
  if trace.isEmpty then .error popOnEmptyMessage else .ok trace.pop

/-- The frames, outermost first. -/
def outermostFirst (trace : Trace) : List Frame :=
  trace.frames.reverse

/-- `frame` expands an `@import` of the file `filename`. -/
def importsFrom (filename : String) (frame : Frame) : Bool :=
  frame.expandsImport && frame.filename == some filename

/-- The position, counted from the outermost frame, of the outermost import opened from `filename`.
A file that has an import frame open cannot be entered again without a loop. -/
def outermostImportFrom (trace : Trace) (filename : String) : Option Nat :=
  trace.outermostFirst.findIdx? (importsFrom filename)

/-- The **backtrace** that an error raised now takes: all but the base frames, innermost first. -/
def backtrace (trace : Trace) : List BacktraceStep :=
  trace.frames.filterMap Frame.step?

/-- The error with the live frames as further steps of its backtrace. -/
def attachTo (trace : Trace) (error : CompileError) : CompileError :=
  error.viaAll trace.backtrace

/-- The frames as a listing, innermost first. -/
def text (trace : Trace) : String :=
  "\n".intercalate (trace.frames.map Frame.text)

@[simp] theorem pop_push (trace : Trace) (frame : Frame) : (trace.push frame).pop = trace := rfl

@[simp] theorem popChecked_push (trace : Trace) (frame : Frame) :
    (trace.push frame).popChecked = .ok trace := rfl

end Trace

end Stylesheet
