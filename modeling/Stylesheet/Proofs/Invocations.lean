import Stylesheet.Proofs.Effects
import Stylesheet.Proofs.Programs

/-! # Invocations

An **invocation** runs the body of a callable in a scope of its own, inside a frame if the callable
is a mixin. Or it fails at the call site, if the scope that declares the callable has ended; then
nothing happens. A body is any program, so invocations and imports nest to any depth. An error that
leaves such a program was raised in one of its parts and has not been touched since
(`Program.exists_raises`); where it was raised it took one step for each frame around the part,
innermost first (`Program.Begins.attachTo_eq`). `Run.invocation_end_to_end` puts this together. -/

namespace Stylesheet

open Diagnostic

/-! ## Where errors are raised -/

namespace Session

variable {σ : Type}

/-- The trace under a reference once more frames have been opened. -/
def traceInside (session : Session σ) (inner : List (TraceRef × Frame)) (ref : TraceRef) : Trace :=
  ⟨framesOn ref inner ++ (session.trace ref).frames⟩

end Session

/-- The frames that are open at a position of an expansion: those of the sheets that wait and the
base frame. -/
def Expansion.Position.framesAt (position : Expansion.Position) (options : Options)
    (ref : TraceRef) : List (TraceRef × Frame) :=
  (position.outer.map Expansion.Waiting.frame ++ [Expansion.baseFrame options]).map fun frame =>
    (ref, frame)

/-- The frames on one trace are all frames if they have been opened on it. -/
theorem framesOn_map_pair (ref : TraceRef) (frames : List Frame) :
    framesOn ref (frames.map fun frame => (ref, frame)) = frames := by
  simp [framesOn, List.filterMap_map]

namespace Program

variable {σ α β : Type} {session there : Session σ} {opened inner : List (TraceRef × Frame)}

/-- A part of a program that begins at the session `there` **raises** an error itself, while the
frames `inner` are open that it has opened: a step fails, an invocation finds that the declaring
scope has ended, or a statement of a sheet fails that is being expanded. -/
inductive Raises : {α : Type} → Program σ α → Session σ → List (TraceRef × Frame) →
    CompileError → Prop
  /-- A step fails. -/
  | step {α : Type} {evaluation : Evaluation σ α} {keeps : KeepsTraces evaluation}
    {there : Session σ} {error : CompileError}
    (hrun : (evaluation.run.run there).1 = .error (.failed error)) :
    Raises (.step evaluation keeps) there [] error
  /-- The declaring scope of a callable has ended. -/
  | ended {α : Type} {callable : Callable} {ref : TraceRef} {site : Location} {caller : Handle}
    {content : Option (ContentBlock Handle)} {body : Scope → Program σ α} {there : Session σ}
    (hended : callable.scope.isAlive there.held = false) :
    Raises (.invoke callable ref site caller content body) there []
      ((there.traceInside [] ref).attachTo
        (.raisedBy (.custom callable.endedMessage) (some site) []))
  /-- A statement of a sheet fails. -/
  | expand {sheet : Sheet} {options : Options} {ref : TraceRef} {there : Session σ}
    {position : Expansion.Position} {statement : ImportStatement} {raised : CompileError}
    (hleads : (Expansion.start sheet options ⟨there.imports, there.trace ref⟩).Leads
      (.rendering position))
    (hnext : ∃ rest, position.level.nodes = .atImport statement :: rest)
    (hfails : statement.FailsWith position.level.options position.state raised) :
    Raises (.expand sheet options ref) there (position.framesAt options ref)
      ((there.traceInside (position.framesAt options ref) ref).attachTo raised)

/-- **An error takes one step for each frame** around the part of the program where it is raised,
innermost first and none for base frames, and then those from before. -/
theorem Begins.attachTo_eq {program : Program σ α} {part : Program σ β}
    (h : program.Begins session opened part there) (inner : List (TraceRef × Frame))
    (ref : TraceRef) (raised : CompileError) :
    (there.traceInside inner ref).attachTo raised =
      raised.viaAll ((framesOn ref (inner ++ opened)).filterMap Frame.step? ++
        (session.trace ref).backtrace) := by
  rw [Trace.attachTo, Trace.backtrace, Session.traceInside, h.frames_eq, framesOn_append,
    ← List.append_assoc, List.filterMap_append, Trace.backtrace]

/-- The trace at a position of an expansion is the one from before with the frames of the
position. -/
theorem traceInside_framesAt {sheet : Sheet} {options : Options} {ref : TraceRef}
    {position : Expansion.Position}
    (hleads : (Expansion.start sheet options ⟨there.imports, there.trace ref⟩).Leads
      (.rendering position)) :
    there.traceInside (position.framesAt options ref) ref = position.state.trace := by
  have hnested : position.Nested sheet options _ := Expansion.nested_of_leads hleads
  refine Trace.eq_of_frames_eq (Eq.trans ?_ hnested.frames.symm)
  rw [Session.traceInside, Expansion.Position.framesAt, framesOn_map_pair, List.append_assoc]
  rfl

/-- **The error of a program** is one that a part of it has raised. -/
theorem exists_raises {program : Program σ α} {error : CompileError}
    (h : (program.run session).1 = .error (.failed error)) :
    ∃ (β : Type) (opened inner : List (TraceRef × Frame)) (part : Program σ β)
      (there : Session σ),
      program.Begins session opened part there ∧ part.Raises there inner error := by
  induction program generalizing session with
  | step evaluation keeps => exact ⟨_, [], [], _, _, .itself _ _, .step h⟩
  | bind first next ih ih' =>
    rw [run_bind] at h
    rcases hrun : first.run session with ⟨interruption | value, after⟩
    all_goals rw [hrun] at h
    · cases h
      obtain ⟨β, opened, inner, part, there, hbegins, hraises⟩ := ih (by rw [hrun])
      exact ⟨β, opened, inner, part, there, .first hbegins, hraises⟩
    · obtain ⟨β, opened, inner, part, there, hbegins, hraises⟩ := ih' value h
      exact ⟨β, opened, inner, part, there, .next hrun hbegins, hraises⟩
  | within ref frame body ih =>
    obtain ⟨β, opened, inner, part, there, hbegins, hraises⟩ := ih h
    exact ⟨β, _, inner, part, there, .within hbegins, hraises⟩
  | expand sheet options ref =>
    rw [run_expand] at h
    have herror : ((Expansion.expand sheet options).run ⟨session.imports, session.trace ref⟩).1 =
        .error error := by
      revert h
      rcases (Expansion.expand sheet options).run _ with ⟨raised | text, after⟩
      · exact fun h => congrArg Except.error (Interruption.failed.inj (Except.error.inj h))
      · exact nofun
    -- The error has been raised by a statement, and its backtrace is that of the position.
    obtain ⟨position, statement, hleads, hblamed⟩ := Expansion.blamed_of_expand herror
    obtain ⟨raised, hlocated, hattached⟩ := hblamed.located
    have hraises := Raises.expand hleads hblamed.nodes hlocated.failsWith
    rw [traceInside_framesAt hleads, Trace.attachTo, ← hattached] at hraises
    exact ⟨_, [], _, _, _, .itself _ _, hraises⟩
  | invoke callable ref site caller content body ih =>
    rcases halive : callable.scope.isAlive session.held with _ | _
    · rw [run_invoke_of_ended halive] at h
      cases h
      exact ⟨_, [], [], _, _, .itself _ _, .ended halive⟩
    · rw [run_invoke halive] at h
      obtain ⟨β, opened, inner, part, there, hbegins, hraises⟩ := ih _ h
      exact ⟨β, _, inner, part, there, .invoke halive hbegins, hraises⟩
  | attempt body ih =>
    rw [run_attempt] at h
    rcases hrun : body.run session with ⟨⟨_ | _⟩ | _, _⟩ <;> rw [hrun] at h <;> cases h
  | catchPanic body ih =>
    rw [run_catchPanic] at h
    rcases hrun : body.run session with ⟨⟨_ | _⟩ | _, _⟩ <;> rw [hrun] at h <;> cases h
    obtain ⟨β, opened, inner, part, there, hbegins, hraises⟩ := ih (by rw [hrun])
    exact ⟨β, opened, inner, part, there, .catchPanic hbegins, hraises⟩

end Program

/-! ## The scope of a body -/

namespace Store

variable (declaring : Scope) (caller : Handle) (content : Option (ContentBlock Handle))
  (store : Store)

/-- The scope of a body takes the next key. -/
theorem key_newBody : ((newBody declaring caller content).run store).1.key = store.nextScope := by
  cases content <;> rfl

/-- The scope of a body captures the call site. -/
theorem ownCaller?_newBody :
    ((newBody declaring caller content).run store).1.ownCaller? = some caller := by
  cases content <;> rfl

/-- The scope of a body captures the content block that was passed, if one was. -/
theorem ownContent?_newBody :
    ((newBody declaring caller content).run store).1.ownContent? = content := by
  cases content <;> rfl

end Store

namespace Session

variable {σ : Type} (session : Session σ) (callable : Callable) (ref : TraceRef) (site : Location)
  (caller : Handle) (content : Option (ContentBlock Handle))

/-- Inside an invocation there is one more scope in the store. -/
theorem store_invoked :
    (session.invoked callable ref site caller content).2.store =
      ((Store.newBody callable.scope caller content).run session.store).2 := by
  rcases hkind : callable.kind with _ | _ <;> simp only [invoked, hkind] <;> rfl

/-- Inside an invocation the scope of the body is held. -/
theorem held_invoked :
    (session.invoked callable ref site caller content).2.held =
      (session.invoked callable ref site caller content).1.handle :: session.held := by
  rcases hkind : callable.kind with _ | _ <;> simp only [invoked, hkind] <;> rfl

/-- Inside the invocation of a mixin its frame is open, inside that of a function no more frames
are. -/
theorem trace_invoked :
    (session.invoked callable ref site caller content).2.trace ref =
      match callable.kind with
      | .mixin =>
        (session.trace ref).push ⟨site.filename, site.line, .mixin callable.name.text⟩
      | .function => session.trace ref := by
  rcases hkind : callable.kind with _ | _ <;> simp only [invoked, hkind]
  · exact trace_setTrace _ _ _
  · rfl

/-- Other traces than the one that an invocation is given do not change. -/
theorem trace_invoked_of_ne {other : TraceRef} (h : ref ≠ other) :
    (session.invoked callable ref site caller content).2.trace other = session.trace other := by
  rcases hkind : callable.kind with _ | _ <;> simp only [invoked, hkind]
  · exact trace_setTrace_of_ne _ h _
  · rfl

end Session

/-! ## Invocations end to end -/

namespace Run

variable {actions : List Action} {forest : Forest} {σ α : Type}

/-- The scope of a body may be made of known environments. -/
theorem known_of_body {declaring : Scope} (hdeclaring : declaring.handle ∈ forest.known)
    {caller : Handle} (hcaller : caller ∈ forest.known)
    {content : Option (ContentBlock Handle)}
    (hcontent : ∀ block ∈ content, block.environment ∈ forest.known) :
    ∀ handle ∈ (Action.body declaring caller content).uses, handle ∈ forest.known := by
  intro handle hmem
  rcases List.mem_cons.mp hmem with rfl | hmem
  · exact hdeclaring
  rcases List.mem_cons.mp hmem with rfl | hmem
  · exact hcaller
  obtain ⟨block, hblock, rfl⟩ := Option.map_eq_some_iff.mp (Option.mem_toList.mp hmem)
  exact hcontent block hblock

/-- The session in which a body is run has the forest in which its scope has been made. -/
theorem after_invoked {session : Session σ} (hstore : session.store = forest.store)
    (hheld : session.held = forest.held) (callable : Callable) (ref : TraceRef) (site : Location)
    (caller : Handle) (content : Option (ContentBlock Handle)) :
    let made := session.invoked callable ref site caller content
    let later := forest.after (.body callable.scope caller content)
    made.2.store = later.store ∧ made.2.held = later.held ∧ made.1.handle ∈ later.known := by
  intro made later
  have hscope : made.1 =
      ((Store.newBody callable.scope caller content).run forest.store).1 := hstore ▸ rfl
  refine ⟨?_, ?_, .inr ?_⟩
  · rw [session.store_invoked, hstore]
    rfl
  · rw [session.held_invoked, hheld]
    show made.1.handle :: forest.held = _
    rw [hscope]
    rfl
  · show _ = some made.1.handle
    rw [hscope]
    rfl

/-- The scope of a body is new: it has the key of no known scope, and it binds nothing. -/
theorem fresh_invoked (h : Run actions forest) {session : Session σ}
    (hstore : session.store = forest.store) (callable : Callable) (ref : TraceRef)
    (site : Location) (caller : Handle) (content : Option (ContentBlock Handle)) :
    let made := session.invoked callable ref site caller content
    (∀ other : Scope, other.handle ∈ forest.known → other.key ≠ made.1.key) ∧
      made.2.store.bindingsOf made.1 = .empty := by
  intro made
  have hkey : made.1.key = forest.store.nextScope :=
    (Store.key_newBody callable.scope caller content session.store).trans
      (congrArg Store.nextScope hstore)
  constructor
  · -- Known scopes have smaller keys.
    intro other hother
    have hlt : other.key < forest.store.nextScope := h.coherent.key_lt _ hother
    omega
  · -- Nothing has been written at the key yet.
    have hnone := h.writtenAt_of_le (Nat.le_refl forest.store.nextScope)
    rw [← hkey, ← hstore] at hnone
    rw [session.store_invoked]
    exact Store.bindingsOf_of_writtenAt hnone

/-- **An invocation, end to end**, with any body: a program that nests frames, invokes, expands,
changes scopes, fails and panics as it likes.
- If the declaring scope is not alive, nothing changes, and the error is located at the call site
  and has the live frames as its backtrace.
- If it is, the body is run once, in a scope that is new, binds nothing, is nested in the declaring
  scope and has captured the call site and the content block. For a mixin its frame is open on top of
  those from before, for a function no other frame is. The result of the body is the result of the
  invocation, and of what the body has left behind the frame is closed and the scope given up.
- In any case all traces are as before in the end.
- The error that the invocation ends with, if any, has been raised by some part of it.
- An error that takes the live frames anywhere inside has one step in its backtrace for each frame
  that is open there, innermost first and without base frames, and after them those from before. -/
theorem invocation_end_to_end (h : Run actions forest) {session : Session σ}
    (hstore : session.store = forest.store) (hheld : session.held = forest.held)
    {callable : Callable} (hcallable : callable.scope.handle ∈ forest.known) {caller : Handle}
    (hcaller : caller ∈ forest.known) {content : Option (ContentBlock Handle)}
    (hcontent : ∀ block ∈ content, block.environment ∈ forest.known) (ref : TraceRef)
    (site : Location) (body : Scope → Program σ α) :
    let call := Program.invoke callable ref site caller content body
    let alive := ∃ owner ∈ forest.held, owner.Reaches callable.scope.handle
    (¬ alive → call.run session =
      (.error (.failed
        (.raisedBy (.custom callable.endedMessage) (some site) (session.trace ref).backtrace)),
          session)) ∧
    (alive → ∃ (scope : Scope) (inside : Session σ),
      let later := forest.after (.body callable.scope caller content)
      call.run session = (((body scope).run inside).1,
        ((body scope).run inside).2.returned callable ref scope) ∧
      Run (.body callable.scope caller content :: actions) later ∧
      inside.store = later.store ∧ inside.held = later.held ∧ scope.handle ∈ later.known ∧
      (∀ other : Scope, other.handle ∈ forest.known → other.key ≠ scope.key) ∧
      inside.store.bindingsOf scope = .empty ∧
      scope.parent? = some callable.scope ∧ scope.ownCaller? = some caller ∧
      scope.ownContent? = content ∧
      inside.trace ref = (match callable.kind with
        | .mixin =>
          (session.trace ref).push ⟨site.filename, site.line, .mixin callable.name.text⟩
        | .function => session.trace ref) ∧
      ∀ other, ref ≠ other → inside.trace other = session.trace other) ∧
    (∀ other, (call.run session).2.trace other = session.trace other) ∧
    (∀ error, (call.run session).1 = .error (.failed error) →
      ∃ (β : Type) (opened inner : List (TraceRef × Frame)) (part : Program σ β)
        (there : Session σ),
        call.Begins session opened part there ∧ part.Raises there inner error) ∧
    ∀ {β : Type} (opened : List (TraceRef × Frame)) (part : Program σ β) (there : Session σ),
      call.Begins session opened part there →
        ∀ (inner : List (TraceRef × Frame)) (other : TraceRef) (raised : CompileError),
          (there.traceInside inner other).attachTo raised =
            raised.viaAll ((framesOn other (inner ++ opened)).filterMap Frame.step? ++
              (session.trace other).backtrace) := by
  intro call alive
  have halive : callable.scope.isAlive session.held = true ↔ alive := by
    rw [hheld]
    exact Scope.isAlive_iff h.coherent h.known_of_held hcallable
  refine ⟨fun hended => ?_, fun hlives => ?_, call.trace_run session,
    fun _ => Program.exists_raises, fun opened part there hbegins => hbegins.attachTo_eq⟩
  · exact Program.run_invoke_of_ended (Bool.eq_false_iff.mpr fun htrue => hended (halive.mp htrue))
      ref site caller content body
  · have hlater := h.act (.body callable.scope caller content)
      (known_of_body hcallable hcaller hcontent)
    obtain ⟨hsame, hsameHeld, hmem⟩ :=
      after_invoked hstore hheld callable ref site caller content
    obtain ⟨hkey, hempty⟩ := h.fresh_invoked hstore callable ref site caller content
    exact ⟨(session.invoked callable ref site caller content).1,
      (session.invoked callable ref site caller content).2,
      Program.run_invoke (halive.mpr hlives) ref site caller content body, hlater, hsame, hsameHeld,
      hmem, hkey, hempty, Store.parent?_newBody _ _ _ _, Store.ownCaller?_newBody _ _ _ _,
      Store.ownContent?_newBody _ _ _ _, session.trace_invoked callable ref site caller content,
      fun other hne => session.trace_invoked_of_ne callable ref site caller content hne⟩

/-- An error of a mixin body. -/
def widthError : CompileError :=
  .raisedBy (.custom "Undefined variable: \"$width\".") (some ⟨5, some "_grid.scss"⟩) []

/-- A body that raises the error inside an import, with the live frames. -/
def failingBody : Program Unit Unit :=
  Program.within ⟨0⟩ buttonsFrame <|
    .step (do
      let trace := (← getThe (Session Unit)).trace ⟨0⟩
      throw (.failed (trace.attachTo widthError))) fun _ _ => rfl

/-- The mixin of the nested scope is invoked from the root of the sample. -/
def failingCall : Program Unit Unit :=
  .invoke themeMixin ⟨0⟩ ⟨3, some "_grid.scss"⟩ sampleRoot.handle none fun _ => failingBody

/-- The session of the sample, before any frame is opened. -/
def sampleSession : Session Unit :=
  { Session.new () with
    store := (Forest.ofActions sampleActions).store
    held := (Forest.ofActions sampleActions).held }

/-- The error of the body names the import and the mixin, and no frame is left. -/
theorem failingCall_names_frames :
    (failingCall.run sampleSession).1 = .error (.failed (widthError.viaAll
      [⟨⟨2, some "main.scss"⟩, some "@import \"buttons\""⟩,
        ⟨⟨3, some "_grid.scss"⟩, some "mixin `theme`"⟩])) ∧
      (failingCall.run sampleSession).2.trace ⟨0⟩ = sampleSession.trace ⟨0⟩ := by
  have hstore : sampleSession.store = (Forest.ofActions sampleActions).store := rfl
  have hdeclaring : themeMixin.scope.handle ∈ (Forest.ofActions sampleActions).known :=
    known_sample sampleNested.handle (by simp)
  have hcaller : sampleRoot.handle ∈ (Forest.ofActions sampleActions).known :=
    known_sample _ (by simp)
  have hcontent : ∀ block ∈ (none : Option (ContentBlock Handle)),
      block.environment ∈ (Forest.ofActions sampleActions).known := nofun
  obtain ⟨-, hlives, htrace, -⟩ := invocation_end_to_end run_sampleActions hstore rfl hdeclaring
    hcaller hcontent ⟨0⟩ ⟨3, some "_grid.scss"⟩ fun _ => failingBody
  refine ⟨?_, htrace ⟨0⟩⟩
  have hheld : sampleNested.handle ∈ (Forest.ofActions sampleActions).held :=
    .tail _ (.tail _ (.tail _ (.head _)))
  obtain ⟨scope, inside, hrun, -, -, -, -, -, -, -, -, -, hmixin, -⟩ :=
    hlives ⟨sampleNested.handle, hheld, .refl _⟩
  -- The body fails inside the frame of the mixin and the frame of the import.
  have hfails : (failingBody.run inside).1 = .error (.failed
      (((inside.enter ⟨0⟩ buttonsFrame).trace ⟨0⟩).attachTo widthError)) := rfl
  rw [failingCall, hrun, hfails, Session.enter, Session.trace_setTrace, hmixin]
  rfl

end Run

end Stylesheet
