import Stylesheet.Proofs.Declarations
import Stylesheet.Proofs.Errors
import Stylesheet.Proofs.Guards

/-! # Programs that nest frames

Most frames are opened for the time of a step: an import that is expanded, a mixin body that is
evaluated, a compilation. A **program** (`Program`) is what can be put together in this way from
steps that open no frames of their own, with compile errors and panics caught anywhere. Running a
program leaves all traces as they were, however it ends (`Program.trace_run`), and while any part of
it is run, a trace has just the frames that are open around the part in front of those from before
(`Program.Begins.frames_eq`). -/

namespace Stylesheet

open Diagnostic

/-! ## Programs -/

/-- A step **keeps the traces** if every trace is as before when the step has ended in any way. -/
def KeepsTraces {σ α : Type} (step : Evaluation σ α) : Prop :=
  ∀ (session : Session σ) (ref : TraceRef), (step.run.run session).2.trace ref = session.trace ref

/-- **Evaluations that nest frames.** They may do anything in between that keeps the traces: read
frames, change scopes, fail or panic. -/
inductive Program (σ : Type) : Type → Type 1 where
  /-- A step that keeps the traces. -/
  | step {α : Type} (evaluation : Evaluation σ α) (keeps : KeepsTraces evaluation) : Program σ α
  /-- One program after another, unless that fails or panics. -/
  | bind {α β : Type} (first : Program σ α) (next : α → Program σ β) : Program σ β
  /-- A program inside a frame. -/
  | within {α : Type} (ref : TraceRef) (frame : Frame) (body : Program σ α) : Program σ α
  /-- The expansion of a sheet. -/
  | expand (sheet : Sheet) (options : Options) (ref : TraceRef) : Program σ String
  /-- The invocation of a callable. -/
  | invoke {α : Type} (callable : Callable) (ref : TraceRef) (site : Location) (caller : Handle)
      (content : Option (ContentBlock Handle)) (body : Scope → Program σ α) : Program σ α
  /-- A program whose compile error is caught. -/
  | attempt {α : Type} (body : Program σ α) : Program σ (Except CompileError α)
  /-- A program whose panic is caught. -/
  | catchPanic {α : Type} (body : Program σ α) : Program σ (Except String α)

/-- The frames of one trace among those that are open. -/
def framesOn (ref : TraceRef) (opened : List (TraceRef × Frame)) : List Frame :=
  opened.filterMap fun (other, frame) => if other = ref then some frame else none

/-- The frames of a trace are collected in their order. -/
@[simp] theorem framesOn_append (ref : TraceRef) (inner outer : List (TraceRef × Frame)) :
    framesOn ref (inner ++ outer) = framesOn ref inner ++ framesOn ref outer :=
  List.filterMap_append

namespace Callable

/-- The frame that an invocation of a callable opens around the body: a mixin opens one at the call
site, a function opens none. -/
def framesAt (callable : Callable) (ref : TraceRef) (site : Location) : List (TraceRef × Frame) :=
  match callable.kind with
  | .mixin => [(ref, Evaluation.mixinFrame callable site)]
  | .function => []

end Callable

namespace Session

variable {σ : Type}

/-- The **scope that an invocation makes** for the body, and the session in which the body is run
with it. -/
def invoked (session : Session σ) (callable : Callable) (ref : TraceRef) (site : Location)
    (caller : Handle) (content : Option (ContentBlock Handle)) : Scope × Session σ :=
  let made := (Store.newBody callable.scope caller content).run session.store
  let inside := ({ session with store := made.2 } : Session σ).hold made.1.handle
  (made.1, match callable.kind with
    | .mixin => inside.enter ref (Evaluation.mixinFrame callable site)
    | .function => inside)

/-- What an invocation closes and gives up when the body has been run. -/
def returned (session : Session σ) (callable : Callable) (ref : TraceRef) (scope : Scope) :
    Session σ :=
  (match callable.kind with
    | .mixin => session.leave ref
    | .function => session).release scope.handle

@[simp] theorem trace_release (session : Session σ) (handle : Handle) (ref : TraceRef) :
    (session.release handle).trace ref = session.trace ref := rfl

/-- Opening a frame adds it to those that are open. -/
theorem frames_enter_eq_append (session : Session σ) (ref : TraceRef) (frame : Frame)
    (other : TraceRef) :
    ((session.enter ref frame).trace other).frames =
      framesOn other [(ref, frame)] ++ (session.trace other).frames := by
  rw [frames_enter]
  by_cases hsame : ref = other <;> simp [framesOn, hsame]

/-- The frames inside the body are those of the invocation and those from before. -/
theorem frames_invoked (session : Session σ) (callable : Callable) (ref : TraceRef)
    (site : Location) (caller : Handle) (content : Option (ContentBlock Handle))
    (other : TraceRef) :
    ((session.invoked callable ref site caller content).2.trace other).frames =
      framesOn other (callable.framesAt ref site) ++ (session.trace other).frames := by
  rcases hkind : callable.kind with _ | _
  · simp only [invoked, Callable.framesAt, hkind]
    rw [frames_enter_eq_append]
    rfl
  · simp only [invoked, Callable.framesAt, hkind]
    rfl

/-- Closing the frame of a step leaves the traces from before, if the step has kept them. -/
theorem trace_leave_of_kept {session after : Session σ} {ref : TraceRef} {frame : Frame}
    (h : ∀ other, after.trace other = (session.enter ref frame).trace other) (other : TraceRef) :
    (after.leave ref).trace other = session.trace other := by
  by_cases hsame : ref = other
  · subst hsame
    rw [leave, trace_setTrace, h, enter, trace_setTrace, Trace.pop_push]
  · rw [leave, trace_setTrace_of_ne _ hsame, h, enter, trace_setTrace_of_ne _ hsame]

/-- An invocation that returns leaves the traces from before, if the body has kept them. -/
theorem trace_returned {session after : Session σ} {callable : Callable} {ref : TraceRef}
    {site : Location} {caller : Handle} {content : Option (ContentBlock Handle)} {scope : Scope}
    (h : ∀ other, after.trace other =
      (session.invoked callable ref site caller content).2.trace other) (other : TraceRef) :
    (after.returned callable ref scope).trace other = session.trace other := by
  rcases hkind : callable.kind with _ | _
  · simp only [returned, hkind, trace_release]
    simp only [invoked, hkind] at h
    exact trace_leave_of_kept h other
  · simp only [returned, hkind, trace_release]
    simp only [invoked, hkind] at h
    exact h other

end Session

/-- A step that changes the session ends with its value. -/
theorem Evaluation.run_modifyGetThe {σ α : Type} (change : Session σ → α × Session σ)
    (session : Session σ) :
    (modifyGetThe (Session σ) change : Evaluation σ α).run session =
      (.ok (change session).1, (change session).2) := rfl

namespace Program

variable {σ α β : Type}

/-- What a program **does**. -/
def eval : {α : Type} → Program σ α → Evaluation σ α
  | _, .step evaluation _ => evaluation
  | _, .bind first next => first.eval >>= fun value => (next value).eval
  | _, .within ref frame body => Evaluation.within ref frame body.eval
  | _, .expand sheet options ref => Evaluation.expand sheet options ref
  | _, .invoke callable ref site caller content body =>
    Evaluation.invoke callable ref site caller content fun scope => (body scope).eval
  | _, .attempt body => body.eval.attempt
  | _, .catchPanic body => body.eval.catchPanic

/-- **Runs** a program. -/
def run (program : Program σ α) (session : Session σ) : Except Interruption α × Session σ :=
  program.eval.run.run session

/-! ## Running programs -/

variable {session there : Session σ} {opened : List (TraceRef × Frame)}

/-- A program is run after another one if that ends with a value. -/
theorem run_bind (first : Program σ α) (next : α → Program σ β) (session : Session σ) :
    (first.bind next).run session =
      match first.run session with
      | (.ok value, after) => (next value).run after
      | (.error interruption, after) => (.error interruption, after) := by
  refine (Stylesheet.run_bind first.eval (fun value => (next value).eval) session).trans ?_
  show _ = match (first.eval.run session : Except Interruption α × Session σ) with
      | (.ok value, after) => (next value).run after
      | (.error interruption, after) => (.error interruption, after)
  rcases first.eval.run session with ⟨_ | value, after⟩ <;> rfl

/-- A program inside a frame runs with the frame open, which is closed however it ends. -/
theorem run_within (ref : TraceRef) (frame : Frame) (body : Program σ α) (session : Session σ) :
    (body.within ref frame).run session =
      ((body.run (session.enter ref frame)).1, (body.run (session.enter ref frame)).2.leave ref) :=
  rfl

/-- An expansion runs with the frames of the trace. -/
theorem run_expand (sheet : Sheet) (options : Options) (ref : TraceRef) (session : Session σ) :
    (expand sheet options ref : Program σ String).run session =
      let run := (Expansion.expand sheet options).run ⟨session.imports, session.trace ref⟩
      (run.1.mapError .failed,
        { session.setTrace ref run.2.trace with imports := run.2.imports }) := by
  rcases hrun : (Expansion.expand sheet options).run ⟨session.imports, session.trace ref⟩ with
    ⟨result, after⟩
  refine (Stylesheet.run_bind _ _ session).trans ?_
  rw [Evaluation.run_modifyGetThe]
  dsimp only
  rw [hrun]
  cases result <;> rfl

/-- Catching a compile error leaves the session as the program left it. -/
theorem run_attempt (body : Program σ α) (session : Session σ) :
    body.attempt.run session =
      match body.run session with
      | (.ok value, after) => (.ok (.ok value), after)
      | (.error (.failed error), after) => (.ok (.error error), after)
      | (.error (.panicked message), after) => (.error (.panicked message), after) := by
  rfl

/-- Catching a panic leaves the session as the program left it. -/
theorem run_catchPanic (body : Program σ α) (session : Session σ) :
    body.catchPanic.run session =
      match body.run session with
      | (.ok value, after) => (.ok (.ok value), after)
      | (.error (.panicked message), after) => (.ok (.error message), after)
      | (.error (.failed error), after) => (.error (.failed error), after) := by
  rfl

/-- An invocation of a callable whose declaring scope is alive runs the body. -/
theorem run_invoke {callable : Callable} (halive : callable.scope.isAlive session.held = true)
    (ref : TraceRef) (site : Location) (caller : Handle) (content : Option (ContentBlock Handle))
    (body : Scope → Program σ α) :
    (invoke callable ref site caller content body).run session =
      let made := session.invoked callable ref site caller content
      let run := (body made.1).run made.2
      (run.1, run.2.returned callable ref made.1) := by
  refine (Stylesheet.run_bind _ _ session).trans ?_
  rw [show (Evaluation.bodyScope callable caller content).run session = _ from
    Evaluation.run_bodyScope halive caller content]
  rcases hkind : callable.kind with _ | _
  all_goals
    simp only [Session.invoked, Session.returned, hkind]
    rfl

/-- An invocation of a callable whose declaring scope has ended fails at the call site and does
nothing. -/
theorem run_invoke_of_ended {callable : Callable}
    (hended : callable.scope.isAlive session.held = false) (ref : TraceRef) (site : Location)
    (caller : Handle) (content : Option (ContentBlock Handle)) (body : Scope → Program σ α) :
    (invoke callable ref site caller content body).run session =
      (.error (.failed ((session.trace ref).attachTo
        ((CompileError.ofCause (.custom callable.endedMessage)).locatedAt site))), session) := by
  have hscope : (Evaluation.bodyScope callable caller content).run.run session =
      (.ok none, session) := by
    have hrun : (Evaluation.ifAlive callable.scope).run.run session = (.ok none, session) := by
      show (Except.ok (if callable.scope.isAlive session.held then some callable.scope else none),
        session) = _
      rw [hended]
      rfl
    rw [Evaluation.bodyScope, ExceptT.run_bind, StateT.run_bind, hrun]
    rfl
  refine (Stylesheet.run_bind _ _ session).trans ?_
  rw [show (Evaluation.bodyScope callable caller content).run session = _ from hscope]
  rfl

/-- **Running a program** leaves all traces as they were, however it ends. -/
theorem trace_run (program : Program σ α) (session : Session σ) (ref : TraceRef) :
    (program.run session).2.trace ref = session.trace ref := by
  induction program generalizing session ref with
  | step evaluation keeps => exact keeps session ref
  | bind first next ih ih' =>
    have hfirst := ih session ref
    rw [run_bind]
    rcases hrun : first.run session with ⟨interruption | value, after⟩
    all_goals rw [hrun] at hfirst
    · exact hfirst
    · exact (ih' value after ref).trans hfirst
  | within other frame body ih =>
    rw [run_within]
    exact Session.trace_leave_of_kept (ih (session.enter other frame)) ref
  | expand sheet options other =>
    have hrestored : ((Expansion.expand sheet options).run ⟨session.imports, session.trace other⟩
        ).2.trace = session.trace other :=
      Expansion.nested_of_leads (Expansion.ends_expand sheet options _)
    rw [run_expand]
    show (session.setTrace other _).trace ref = session.trace ref
    rw [hrestored]
    by_cases hsame : other = ref
    · rw [hsame, Session.trace_setTrace]
    · exact session.trace_setTrace_of_ne hsame _
  | invoke callable other site caller content body ih =>
    rcases halive : callable.scope.isAlive session.held with _ | _
    · rw [run_invoke_of_ended halive]
    · rw [run_invoke halive]
      exact Session.trace_returned (ih _ _) ref
  | attempt body ih =>
    have hbody := ih session ref
    rw [run_attempt]
    rcases hrun : body.run session with ⟨⟨error | message⟩ | value, after⟩
    all_goals
      rw [hrun] at hbody
      exact hbody
  | catchPanic body ih =>
    have hbody := ih session ref
    rw [run_catchPanic]
    rcases hrun : body.run session with ⟨⟨error | message⟩ | value, after⟩
    all_goals
      rw [hrun] at hbody
      exact hbody

/-! ## The parts of a program -/

/-- In the run of a program from a session, a **part** of the program **begins** at the session
`there`, inside the frames `opened`, innermost first, which the program has opened and not closed
yet. -/
inductive Begins : {α : Type} → Program σ α → Session σ → List (TraceRef × Frame) →
    {β : Type} → Program σ β → Session σ → Prop
  /-- The program itself begins. -/
  | itself {α : Type} (program : Program σ α) (session : Session σ) :
    Begins program session [] program session
  /-- The first of two programs comes to the part. -/
  | first {α β γ : Type} {first : Program σ α} {next : α → Program σ β} {part : Program σ γ}
    {session there : Session σ} {opened : List (TraceRef × Frame)}
    (h : Begins first session opened part there) :
    Begins (first.bind next) session opened part there
  /-- The second one does, after the first has ended with a value. -/
  | next {α β γ : Type} {first : Program σ α} {next : α → Program σ β} {part : Program σ γ}
    {session after there : Session σ} {opened : List (TraceRef × Frame)} {value : α}
    (hrun : first.run session = (.ok value, after))
    (h : Begins (next value) after opened part there) :
    Begins (first.bind next) session opened part there
  /-- A program inside a frame does. -/
  | within {α γ : Type} {ref : TraceRef} {frame : Frame} {body : Program σ α} {part : Program σ γ}
    {session there : Session σ} {opened : List (TraceRef × Frame)}
    (h : Begins body (session.enter ref frame) opened part there) :
    Begins (body.within ref frame) session (opened ++ [(ref, frame)]) part there
  /-- The body of an invocation does. -/
  | invoke {α γ : Type} {callable : Callable} {ref : TraceRef} {site : Location} {caller : Handle}
    {content : Option (ContentBlock Handle)} {body : Scope → Program σ α} {part : Program σ γ}
    {session there : Session σ} {opened : List (TraceRef × Frame)}
    (halive : callable.scope.isAlive session.held = true)
    (h : Begins (body (session.invoked callable ref site caller content).1)
      (session.invoked callable ref site caller content).2 opened part there) :
    Begins (.invoke callable ref site caller content body) session
      (opened ++ callable.framesAt ref site) part there
  /-- A program whose compile error is caught does. -/
  | attempt {α γ : Type} {body : Program σ α} {part : Program σ γ} {session there : Session σ}
    {opened : List (TraceRef × Frame)} (h : Begins body session opened part there) :
    Begins body.attempt session opened part there
  /-- A program whose panic is caught does. -/
  | catchPanic {α γ : Type} {body : Program σ α} {part : Program σ γ} {session there : Session σ}
    {opened : List (TraceRef × Frame)} (h : Begins body session opened part there) :
    Begins body.catchPanic session opened part there

/-- **Where a part begins**, every trace has the frames that are open around the part in front of
those from before. -/
theorem Begins.frames_eq {program : Program σ α} {part : Program σ β}
    (h : program.Begins session opened part there) (ref : TraceRef) :
    (there.trace ref).frames = framesOn ref opened ++ (session.trace ref).frames := by
  induction h with
  | itself => rfl
  | first _ ih => exact ih
  | @next _ _ _ first _ _ session after _ _ _ hrun _ ih =>
    have hkept := first.trace_run session ref
    rw [hrun] at hkept
    rw [ih, hkept]
  | @within _ _ other frame _ _ session _ _ _ ih =>
    rw [ih, Session.frames_enter_eq_append, framesOn_append, List.append_assoc]
  | @invoke _ _ callable other site caller content _ _ session _ _ _ _ ih =>
    rw [ih, Session.frames_invoked, framesOn_append, List.append_assoc]
  | attempt _ ih => exact ih
  | catchPanic _ ih => exact ih

end Program

/-! ## The discipline of frames -/

/-- **The discipline of frames.** Take any session and any steps that open frames and drop guards, in
any order, with each guard dropped once. Closing a frame never meets a trace without frames; the
depth of a trace is what it was at first and one more for each guard of the trace that is live; and
whenever all guards of a trace that were made after some moment are dropped, while none from before
is, its frames are those of that moment.

Programs nest frames. When one has ended, with a value, an error or a panic, all traces are as they
were. In a body that is run inside a frame, the trace has the frames from its entry and this frame
wherever no inner body is being run, and it is this frame that is closed in the end. While any part
of the program is run, at whatever depth and whatever has been caught before, the frames are those
that are open around it and those from before. In an expansion these are the frames of the sheets
that wait and the base frame. -/
theorem frame_discipline {σ : Type} (session : Session σ) :
    (∀ steps, DropsOnce 0 [] steps →
      ∃ final, (Guarded.unguarded session).afterAll steps = .ok final ∧
        (∀ ref, (final.session.trace ref).depth =
          (session.trace ref).depth + (guardsOf ref final.live).length) ∧
        ∀ earlier later, steps = earlier ++ later →
          ∃ moment, (Guarded.unguarded session).afterAll earlier = .ok moment ∧
            ∀ ref, (∀ guard ∈ final.live, guard.ref = ref → guard.number < moment.next) →
              (∀ guard ∈ moment.live, guard.ref = ref → guard ∈ final.live) →
              final.session.trace ref = moment.session.trace ref) ∧
    (∀ {α : Type} (program : Program σ α),
      (∀ ref, (program.run session).2.trace ref = session.trace ref) ∧
      (∀ (ref : TraceRef) (frame : Frame),
        (∀ {β : Type} (part : Program σ β) (there : Session σ),
          program.Begins (session.enter ref frame) [] part there →
            there.trace ref = (session.trace ref).push frame ∧
              (part.run there).2.trace ref = (session.trace ref).push frame) ∧
        ((program.run (session.enter ref frame)).2.trace ref).popChecked =
          .ok (session.trace ref)) ∧
      ∀ {β : Type} (opened : List (TraceRef × Frame)) (part : Program σ β) (there : Session σ),
        program.Begins session opened part there → ∀ ref,
          (there.trace ref).frames = framesOn ref opened ++ (session.trace ref).frames) ∧
    ∀ (sheet : Sheet) (options : Options) (ref : TraceRef) (position : Expansion.Position),
      (Expansion.start sheet options ⟨session.imports, session.trace ref⟩).Leads
        (.rendering position) →
      position.state.trace.frames =
        position.outer.map Expansion.Waiting.frame ++
          Expansion.baseFrame options :: (session.trace ref).frames := by
  refine ⟨fun steps hsteps => ?_, fun program => ⟨program.trace_run session, ?_, ?_⟩, ?_⟩
  · have hstart := Guarded.Since.refl (Guarded.unguarded session)
    obtain ⟨final, hfinal, -, hmoments⟩ :=
      Guarded.exists_afterAll steps [] hstart (by rwa [List.append_nil])
    refine ⟨final, hfinal, (hmoments _ hstart).depth_eq, ?_⟩
    rintro earlier later rfl
    -- The moment comes first; what follows leads on to the end.
    obtain ⟨moment, hmoment, hlater, hbefore⟩ := Guarded.exists_afterAll _ _ hstart hsteps
    obtain ⟨last, hlast, -, hsince⟩ :=
      Guarded.exists_afterAll later [] (hbefore _ hstart) (by rwa [List.append_nil])
    have hsame : last = final := by
      rw [Guarded.afterAll, List.foldlM_append, ← Guarded.afterAll, hmoment] at hfinal
      exact Except.ok.inj (hlast.symm.trans hfinal)
    subst hsame
    exact ⟨moment, hmoment, fun ref => (hsince moment (.refl moment)).trace_eq⟩
  · intro ref frame
    have hentered : (session.enter ref frame).trace ref = (session.trace ref).push frame :=
      session.trace_setTrace ref _
    refine ⟨fun part there hbegins => ?_, ?_⟩
    · have hthere : there.trace ref = (session.enter ref frame).trace ref :=
        Trace.eq_of_frames_eq (hbegins.frames_eq ref)
      rw [part.trace_run, hthere, hentered]
      exact ⟨rfl, rfl⟩
    · rw [program.trace_run, hentered, Trace.popChecked_push]
  · exact fun opened part there hbegins => hbegins.frames_eq
  · intro sheet options ref position hleads
    have hnested : position.Nested sheet options _ := Expansion.nested_of_leads hleads
    exact hnested.frames

/-- The frame of an import. -/
def buttonsFrame : Frame :=
  ⟨some "main.scss", 2, .importing "buttons"⟩

/-- The frame of a mixin in the imported file. -/
def primaryFrame : Frame :=
  ⟨some "_buttons.scss", 7, .mixin "primary"⟩

/-- Two frames are opened, the guard of the outer one is dropped, and one more is opened and
closed. -/
def outOfOrder : List GuardStep :=
  [.enter ⟨0⟩ buttonsFrame, .enter ⟨0⟩ primaryFrame, .drop ⟨0, ⟨0⟩⟩, .enter ⟨0⟩ primaryFrame,
    .drop ⟨2, ⟨0⟩⟩]

/-- A step that panics. -/
def suddenPanic : Program Unit Unit :=
  .step (throw (.panicked "test panic")) fun _ _ => rfl

/-- A panic inside both frames that is caught further out. -/
def panicking : Program Unit (Except String Unit) :=
  .catchPanic ((suddenPanic.within ⟨0⟩ primaryFrame).within ⟨0⟩ buttonsFrame)

/-- When the wrong guard has been dropped, one frame is left, and it stays the same while another one
is opened and closed. The panic passes both frames, which are closed, innermost first. -/
theorem outOfOrder_frames :
    (∃ moment final,
      (Guarded.unguarded (Session.new ())).afterAll (outOfOrder.take 3) = .ok moment ∧
        (Guarded.unguarded (Session.new ())).afterAll outOfOrder = .ok final ∧
        (final.session.trace ⟨0⟩).depth = 1 ∧
        final.session.trace ⟨0⟩ = moment.session.trace ⟨0⟩) ∧
    (panicking.run (Session.new ())).2.trace ⟨0⟩ = (Session.new ()).trace ⟨0⟩ ∧
    ∃ there, panicking.Begins (Session.new ()) [(⟨0⟩, primaryFrame), (⟨0⟩, buttonsFrame)]
        suddenPanic there ∧
      (there.trace ⟨0⟩).frames = [primaryFrame, buttonsFrame] := by
  obtain ⟨hguards, hprograms, -⟩ := frame_discipline (Session.new ())
  refine ⟨?_, ?_, ?_⟩
  · have honce : DropsOnce 0 [] outOfOrder :=
      .enter _ (.enter _ (.drop (by decide) (.enter _ (.drop (by decide) .done))))
    obtain ⟨final, hfinal, hdepth, hmoments⟩ := hguards outOfOrder honce
    obtain ⟨moment, hmoment, hsame⟩ := hmoments (outOfOrder.take 3) (outOfOrder.drop 3) rfl
    -- In the end the guard of the inner frame is live, as it was at the moment.
    have hlive : final.live = [⟨1, ⟨0⟩⟩] := by
      have hlives : ((Guarded.unguarded (Session.new ())).afterAll outOfOrder).map Guarded.live =
          .ok [⟨1, ⟨0⟩⟩] := by decide +kernel
      rw [hfinal] at hlives
      exact Except.ok.inj hlives
    have hthen : (moment.live, moment.next) = ([⟨1, ⟨0⟩⟩], 2) := by
      have hstates : ((Guarded.unguarded (Session.new ())).afterAll (outOfOrder.take 3)).map
          (fun state => (state.live, state.next)) = .ok ([⟨1, ⟨0⟩⟩], 2) := by decide +kernel
      rw [hmoment] at hstates
      exact Except.ok.inj hstates
    obtain ⟨hmomentLive, hmomentNext⟩ := Prod.mk.inj hthen
    refine ⟨moment, final, hmoment, hfinal, ?_, hsame ⟨0⟩ ?_ ?_⟩
    · rw [hdepth, hlive]
      rfl
    · rw [hlive, hmomentNext]
      decide
    · rw [hlive, hmomentLive]
      decide
  · exact (hprograms panicking).1 ⟨0⟩
  · have hbegins := Program.Begins.catchPanic (.within (.within (.itself suddenPanic
      (((Session.new ()).enter ⟨0⟩ buttonsFrame).enter ⟨0⟩ primaryFrame))))
    exact ⟨_, hbegins, (hprograms panicking).2.2 _ suddenPanic _ hbegins ⟨0⟩⟩

end Stylesheet
