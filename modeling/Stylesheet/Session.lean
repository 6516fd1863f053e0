import Stylesheet.Import.Expansion
import Stylesheet.Scope.Captures
import Stylesheet.Scope.Chain
import Stylesheet.Scope.Lifetime
import Stylesheet.Scope.Selectors

/-! # Sessions

A **session** is the state of an evaluation: import resolution, scopes, the traces of compilations
and the environments that are being held. An **evaluation** is a step that reads and changes a
session and ends with a value, with a compile error, or in a panic. Whatever is opened for the time
of a step, a frame or a hold on an environment, is closed again however the step ends. -/

namespace Stylesheet

open Diagnostic

/-- How an evaluation ends without a value. -/
inductive Interruption where
  /-- A compile error. -/
  | failed (error : CompileError)
  /-- A panic: a broken promise of the program itself, with its message. -/
  | panicked (message : String)
  deriving DecidableEq

/-- The **state of an evaluation**. A client of the library may keep a value of its own with it. -/
structure Session (σ : Type) where
  /-- The state of import resolution. -/
  imports : Imports
  /-- The changing side of scopes and views. -/
  store : Store
  /-- The traces, by key. -/
  traces : Std.ExtTreeMap Nat Trace
  /-- The key of the next trace. -/
  nextTrace : Nat
  /-- The key of the next snapshot of options. -/
  nextSnapshot : Nat
  /-- The key of the next body of a callable. -/
  nextBody : Nat
  /-- The environments that are held; one that is held twice is in the list twice. -/
  held : List Handle
  /-- What the client keeps. -/
  client : σ

/-- A step that reads and changes a session. -/
abbrev Evaluation (σ : Type) := ExceptT Interruption (StateM (Session σ))

namespace Session

/-- A session in which nothing has happened yet. -/
def new {σ : Type} (client : σ) : Session σ :=
  ⟨.empty, .empty, ∅, 0, 0, 0, [], client⟩

/-- The trace under a reference. -/
def trace {σ : Type} (session : Session σ) (ref : TraceRef) : Trace :=
  session.traces[ref.key]?.getD .empty

/-- The session with another trace under a reference. -/
def setTrace {σ : Type} (session : Session σ) (ref : TraceRef) (trace : Trace) : Session σ :=
  { session with traces := session.traces.insert ref.key trace }

/-- Opens a frame. -/
def enter {σ : Type} (session : Session σ) (ref : TraceRef) (frame : Frame) : Session σ :=
  session.setTrace ref ((session.trace ref).push frame)

/-- Closes the innermost frame. -/
def leave {σ : Type} (session : Session σ) (ref : TraceRef) : Session σ :=
  session.setTrace ref (session.trace ref).pop

/-- Holds an environment. -/
def hold {σ : Type} (session : Session σ) (handle : Handle) : Session σ :=
  { session with held := handle :: session.held }

/-- Gives up one hold on an environment. -/
def release {σ : Type} (session : Session σ) (handle : Handle) : Session σ :=
  { session with held := session.held.eraseP handle.same }

@[simp] theorem trace_setTrace {σ : Type} (session : Session σ) (ref : TraceRef) (trace : Trace) :
    (session.setTrace ref trace).trace ref = trace := by
  simp [Session.trace, setTrace]

end Session

namespace Evaluation

variable {σ α : Type}

/-- Carries a step on import resolution out. -/
def importing (step : StateM Imports α) : Evaluation σ α :=
  modifyGetThe (Session σ) fun session =>
    let (value, imports) := step.run session.imports
    (value, { session with imports := imports })

/-- Carries a step on scopes out. -/
def scoping (step : Scoping α) : Evaluation σ α :=
  modifyGetThe (Session σ) fun session =>
    let (value, store) := step.run session.store
    (value, { session with store := store })

/-- Ends with a value or with a compile error. -/
def ofExcept : Except CompileError α → Evaluation σ α
  | .ok value => return value
  | .error error => throw (.failed error)

/-- Carries a query on imports out. -/
def query (q : Query α) : Evaluation σ α := do
  ofExcept (← importing q.run)

/-- A step with its compile error, if it ends with one. A panic passes on. -/
def attempt (step : Evaluation σ α) : Evaluation σ (Except CompileError α) := fun session => do
  match ← step.run session with
  | (.ok value, after) => return (.ok (.ok value), after)
  | (.error (.failed error), after) => return (.ok (.error error), after)
  | (.error (.panicked message), after) => return (.error (.panicked message), after)

/-- A step with the message of its panic, if it ends in one. A compile error passes on. -/
def catchPanic (step : Evaluation σ α) : Evaluation σ (Except String α) := fun session => do
  match ← step.run session with
  | (.ok value, after) => return (.ok (.ok value), after)
  | (.error (.panicked message), after) => return (.ok (.error message), after)
  | (.error (.failed error), after) => return (.error (.failed error), after)

/-- Runs a step **inside a frame** of the trace under a reference. -/
def within (ref : TraceRef) (frame : Frame) (step : Evaluation σ α) : Evaluation σ α :=
  fun session => do
    let (result, after) ← step.run (session.enter ref frame)
    return (result, after.leave ref)

/-- Runs a step **while holding** an environment. -/
def holding (handle : Handle) (step : Evaluation σ α) : Evaluation σ α :=
  fun session => do
    let (result, after) ← step.run (session.hold handle)
    return (result, after.release handle)

/-- A new trace without frames. -/
def newTrace : Evaluation σ TraceRef :=
  modifyGetThe (Session σ) fun session =>
    (⟨session.nextTrace⟩, { session with nextTrace := session.nextTrace + 1 })

/-- A new snapshot of options. -/
def newSnapshot (options : Options) : Evaluation σ Snapshot :=
  modifyGetThe (Session σ) fun session =>
    (⟨session.nextSnapshot, options⟩, { session with nextSnapshot := session.nextSnapshot + 1 })

/-- A new root, under default options and with a trace of its own unless others are given. -/
def newRoot (snapshot : Option Snapshot) (trace : Option TraceRef) : Evaluation σ Scope := do
  let snapshot ← match snapshot with
    | some snapshot => pure snapshot
    | none => newSnapshot .default
  let trace ← match trace with
    | some trace => pure trace
    | none => newTrace
  scoping (Store.newRoot snapshot trace)

/-- The scope is alive. -/
def isAlive (scope : Scope) : Evaluation σ Bool := do
  return scope.isAlive (← getThe (Session σ)).held

/-- The scope as something to use, if it is alive. -/
def ifAlive (scope : Scope) : Evaluation σ (Option Scope) := do
  return if ← isAlive scope then some scope else none

/-- **Expands** a sheet, with the frames of the trace under a reference. -/
def expand (sheet : Sheet) (options : Options) (ref : TraceRef) : Evaluation σ String := do
  let result ← modifyGetThe (Session σ) fun session =>
    let (result, after) := (Expansion.expand sheet options).run ⟨session.imports, session.trace ref⟩
    (result, { session.setTrace ref after.trace with imports := after.imports })
  ofExcept result

/-! ## Callables -/

/-- **Declares** a mixin or a function in a scope. -/
def declareCallable (kind : Callable.Kind) (name : String) (params : List String)
    (rest : Option String) (takesContent : Bool) (body : List Item) (scope : Scope) :
    Evaluation σ Callable := do
  let nodes ← importing (Imports.newNodes body)
  modifyGetThe (Session σ) fun session =>
    (⟨kind, .ofRaw name, params.map .ofRaw, rest.map .ofRaw, session.nextBody, nodes, takesContent,
        scope⟩,
      { session with nextBody := session.nextBody + 1 })

/-- A new scope for one **invocation** of a callable's body, nested in the declaring scope, if that
is still alive. -/
def bodyScope (callable : Callable) (caller : Handle)
    (content : Option (ContentBlock Handle)) : Evaluation σ (Option Scope) := do
  match ← ifAlive callable.scope with
  | none => return none
  | some declaring => return some (← scoping (Store.newBody declaring caller content))

/-- The frame of a mixin that is invoked at a call site. -/
def mixinFrame (callable : Callable) (site : Location) : Frame :=
  ⟨site.filename, site.line, .mixin callable.name.text⟩

/-- **Invokes** a callable: runs the body in a new scope, which is held meanwhile, and for a mixin
inside a frame at the call site. Fails at the call site, without running the body, if the declaring
scope is no longer alive. -/
def invoke (callable : Callable) (ref : TraceRef) (site : Location) (caller : Handle)
    (content : Option (ContentBlock Handle)) (body : Scope → Evaluation σ α) :
    Evaluation σ α := do
  match ← bodyScope callable caller content with
  | none =>
    let error := (CompileError.ofCause (.custom callable.endedMessage)).locatedAt site
    throw (.failed (((← getThe (Session σ)).trace ref).attachTo error))
  | some scope =>
    holding scope.handle <|
      match callable.kind with
      | .mixin => within ref (mixinFrame callable site) (body scope)
      | .function => body scope

end Evaluation

end Stylesheet
