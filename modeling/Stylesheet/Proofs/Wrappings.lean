import Stylesheet.Trace

/-! # Errors on their way out

On its way out an error is **wrapped** time and again (`Wrapping`): it leaves a statement, a step is
recorded, or live frames are attached. Only the first location that is given changes the error
itself; whatever else comes, in whatever order, is one more stretch of its backtrace
(`foldl_wrap_of_unlocated`). So the report of an error can be read off its wrappings, and a frame
that was attached reads there as it does in a listing of frames (`wrapped_error`). -/

namespace Stylesheet

open Diagnostic

/-- The ways to **wrap** an error. -/
inductive Wrapping where
  /-- The error leaves the statement at a location. -/
  | locating (location : Location)
  /-- A step is recorded. -/
  | recording (step : BacktraceStep)
  /-- The live frames of a trace are attached. -/
  | attaching (trace : Trace)

namespace Wrapping

/-- The error after a wrapping. -/
def wrap (error : CompileError) : Wrapping → CompileError
  | locating location => error.locatedAt location
  | recording step => error.via step
  | attaching trace => trace.attachTo error

/-- The location that a wrapping gives. -/
def location? : Wrapping → Option Location
  | locating location => some location
  | _ => none

/-- The steps that a wrapping adds to the backtrace of an error that is located: a location is a
step without context, and every frame but the base frames is one, the most recent first. -/
def steps : Wrapping → List BacktraceStep
  | locating location => [⟨location, none⟩]
  | recording step => [step]
  | attaching trace =>
    (trace.frames.filter (·.activity ≠ .base)).map fun frame => ⟨frame.location, frame.description⟩

/-- The lines that a wrapping adds to the report of an error that is located. A frame is shown as in
a listing of frames. -/
def lines : Wrapping → List String
  | locating location => ["from " ++ location.text]
  | recording step => [step.text]
  | attaching trace =>
    (trace.frames.filter (·.activity ≠ .base)).map fun frame => "from " ++ frame.text

/-! ## One wrapping -/

/-- The backtrace of a trace has one step for each frame but the base frames. -/
theorem backtrace_eq_steps (trace : Trace) : trace.backtrace = (attaching trace).steps := by
  rw [Trace.backtrace, steps, ← List.filterMap_eq_map, List.filterMap_filter]
  congr 1
  funext frame
  obtain ⟨filename, line, activity⟩ := frame
  cases activity <;> rfl

/-- A wrapping of an error that is located is one stretch of its backtrace. -/
theorem wrap_of_located {error : CompileError} {location : Location}
    (h : error.location = some location) (wrapping : Wrapping) :
    wrapping.wrap error = error.viaAll wrapping.steps := by
  cases wrapping with
  | locating location => exact CompileError.locatedAt_of_located h location
  | recording => rfl
  | attaching trace => rw [wrap, Trace.attachTo, backtrace_eq_steps]

/-- So is a wrapping that gives no location. -/
theorem wrap_of_location?_eq_none {wrapping : Wrapping} (h : wrapping.location? = none)
    (error : CompileError) : wrapping.wrap error = error.viaAll wrapping.steps := by
  cases wrapping with
  | locating => cases h
  | recording => rfl
  | attaching trace => rw [wrap, Trace.attachTo, backtrace_eq_steps]

/-- **Two renderings agree**: the steps of a wrapping are shown as its lines. -/
theorem map_text_steps (wrapping : Wrapping) :
    wrapping.steps.map BacktraceStep.text = wrapping.lines := by
  cases wrapping with
  | locating => simp [steps, lines, BacktraceStep.text]
  | recording => rfl
  | attaching trace =>
    rw [steps, lines, List.map_map]
    refine List.map_congr_left fun frame hframe => ?_
    -- The frame is no base frame, so it is a step of a backtrace.
    have hbase : frame.activity ≠ .base := of_decide_eq_true (List.mem_filter.mp hframe).2
    refine Frame.text_of_step ?_
    obtain ⟨filename, line, activity⟩ := frame
    cases activity with
    | base => exact absurd rfl hbase
    | importing => rfl
    | mixin => rfl

/-! ## Any number of wrappings -/

/-- All wrappings of an error that is located add to its backtrace. -/
theorem foldl_wrap_of_located {error : CompileError} {location : Location}
    (h : error.location = some location) (wrappings : List Wrapping) :
    wrappings.foldl wrap error = error.viaAll (wrappings.flatMap steps) := by
  induction wrappings generalizing error with
  | nil => simp [CompileError.viaAll]
  | cons wrapping rest ih =>
    have hlocated : (error.viaAll wrapping.steps).location = some location := h
    rw [List.foldl_cons, wrap_of_located h, ih hlocated]
    simp [CompileError.viaAll]

/-- **The first location** becomes that of an error without one, and all other wrappings add to the
backtrace. -/
theorem foldl_wrap_of_unlocated {error : CompileError} (h : error.location = none)
    (wrappings : List Wrapping) :
    wrappings.foldl wrap error =
      ⟨error.cause, error.message, wrappings.findSome? location?,
        error.backtrace ++ (wrappings.eraseP (·.location?.isSome)).flatMap steps⟩ := by
  induction wrappings generalizing error with
  | nil =>
    obtain ⟨cause, message, location, backtrace⟩ := error
    cases h
    simp
  | cons wrapping rest ih =>
    rw [List.foldl_cons]
    rcases hlocation : wrapping.location? with _ | location
    · -- The error is still without a location, and has the steps of the wrapping.
      have hunlocated : (error.viaAll wrapping.steps).location = none := h
      rw [wrap_of_location?_eq_none hlocation, ih hunlocated]
      simp [CompileError.viaAll, hlocation]
    · -- From now on the error is located, and all other wrappings add to its backtrace.
      cases wrapping with
      | locating =>
        have hwrap : (locating location).wrap error = { error with location := some location } :=
          CompileError.locatedAt_of_unlocated h location
        cases hlocation
        rw [hwrap, foldl_wrap_of_located rfl]
        simp [CompileError.viaAll, List.findSome?_cons, location?]
      | recording => cases hlocation
      | attaching => cases hlocation

/-- The lines that an error gets from its steps are those of the wrappings that added them. -/
theorem map_text_flatMap_steps (wrappings : List Wrapping) :
    (wrappings.flatMap steps).map BacktraceStep.text = wrappings.flatMap lines := by
  simp only [List.map_flatMap, map_text_steps]

/-- **What comes of an error that is wrapped.** However often and in whatever order it is located,
is given steps and takes live frames along,
- its cause stays the same, and so does its message, which is that of the cause,
- its location is the first that it is given, if any is,
- its backtrace is what the other wrappings have added, one after the other: the later locations
  without context, the steps that were recorded, and of each trace that was attached the frames but
  the base frames, the most recent first,
- its report is the message, the location if there is one, and a line for each step, in which a
  frame that was attached stands as in a listing of frames. -/
theorem wrapped_error (cause : Cause) (wrappings : List Wrapping) :
    let error := wrappings.foldl wrap (.ofCause cause)
    let first := wrappings.findSome? location?
    let others := wrappings.eraseP (·.location?.isSome)
    error.cause = cause ∧ error.message = cause.message ∧
      error.location = first ∧
      error.backtrace = others.flatMap steps ∧
      error.report = "Error: " ++ cause.message ++
        (first.elim "" fun location => "\n        on " ++ location.text) ++
        String.join ((others.flatMap lines).map ("\n        " ++ ·)) := by
  intro error first others
  have herror : error = ⟨cause, cause.message, first, others.flatMap steps⟩ :=
    foldl_wrap_of_unlocated rfl wrappings
  rw [herror]
  refine ⟨rfl, rfl, rfl, rfl, ?_⟩
  rw [CompileError.report, ← map_text_flatMap_steps, List.map_map]
  cases first <;> rfl

/-- An error may take frames along before it is located. -/
example :
    ([attaching ⟨[⟨some "theme.scss", 7, .mixin "theme"⟩, ⟨none, 1, .base⟩]⟩,
      locating ⟨2, some "_a.scss"⟩, locating ⟨3, none⟩].foldl wrap
        (.ofCause (.custom "Unclosed block"))).report =
      "Error: Unclosed block\n        on line 2 of _a.scss\n" ++
        "        from line 7 of theme.scss, in mixin `theme`\n        from line 3" := by
  decide +kernel

end Wrapping

end Stylesheet
