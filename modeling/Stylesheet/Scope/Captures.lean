import Stylesheet.Scope.Store

/-! # Captures and views

A body captures its call site and the content block that it was passed, and both are seen from every
scope inside. A view shows the captures of what it wraps as views in their turn. It makes these on
first access and remembers them, so that asking again yields the very same view. -/

namespace Stylesheet

/-- How a captured environment shows itself: to a scope as it was captured, to a view as a view. -/
abbrev Captured : Access → Type
  | .writable => Handle
  | .readOnly => View

/-- What was captured, as a handle. -/
def Captured.handle : {a : Access} → Captured a → Handle
  | .writable, handle => handle
  | .readOnly, view => Env.handle view

namespace Store

/-- Views an environment **read-only**. A view is taken as it is, a scope is wrapped in a new view
that reports the scope's options. -/
def viewOf : Handle → Scoping View
  | @Handle.mk .readOnly view => return view
  | @Handle.mk .writable scope => newView ⟨scope⟩ scope.snapshot

/-- Views a call site read-only, if there is one. -/
def viewOf? : Option Handle → Scoping (Option View)
  | none => return none
  | some handle => return some (← viewOf handle)

/-- Views the environment of a content block read-only, if there is a block. -/
def viewOfBlock? : Option (ContentBlock Handle) → Scoping (Option (ContentBlock View))
  | none => return none
  | some block => return some ⟨block.nodes, ← viewOf block.environment⟩

/-- What a view has remembered of its caller, or else what `find` captures, viewed read-only and
remembered from now on. -/
def rememberCaller (key : Nat) (find : Scoping (Option Handle)) : Scoping (Option View) :=
  fun store =>
    match store.callers[key]? with
    | some caller => (caller, store)
    | none =>
      let (caller, after) := (find >>= viewOf?).run store
      (caller, { after with callers := after.callers.insert key caller })

/-- What a view has remembered of its content block, or else what `find` captures, with its
environment viewed read-only and remembered from now on. -/
def rememberContent (key : Nat) (find : Scoping (Option (ContentBlock Handle))) :
    Scoping (Option (ContentBlock View)) :=
  fun store =>
    match store.contents[key]? with
    | some content => (content, store)
    | none =>
      let (content, after) := (find >>= viewOfBlock?).run store
      (content, { after with contents := after.contents.insert key content })

section

variable {key : Nat} {store : Store}

/-- A caller that is remembered is answered again. -/
theorem run_rememberCaller_of_some {find : Scoping (Option Handle)} {caller : Option View}
    (h : store.callers[key]? = some caller) :
    (rememberCaller key find).run store = (caller, store) := by
  simp only [rememberCaller, StateT.run, h]

/-- A caller that is not remembered is found, viewed and remembered. -/
theorem run_rememberCaller_of_none {find : Scoping (Option Handle)}
    (h : store.callers[key]? = none) :
    (rememberCaller key find).run store =
      (((find >>= viewOf?).run store).1,
        { ((find >>= viewOf?).run store).2 with
          callers := ((find >>= viewOf?).run store).2.callers.insert key
            ((find >>= viewOf?).run store).1 }) := by
  simp only [rememberCaller, StateT.run, h]
  rfl

/-- A content block that is remembered is answered again. -/
theorem run_rememberContent_of_some {find : Scoping (Option (ContentBlock Handle))}
    {content : Option (ContentBlock View)} (h : store.contents[key]? = some content) :
    (rememberContent key find).run store = (content, store) := by
  simp only [rememberContent, StateT.run, h]

/-- A content block that is not remembered is found, viewed and remembered. -/
theorem run_rememberContent_of_none {find : Scoping (Option (ContentBlock Handle))}
    (h : store.contents[key]? = none) :
    (rememberContent key find).run store =
      (((find >>= viewOfBlock?).run store).1,
        { ((find >>= viewOfBlock?).run store).2 with
          contents := ((find >>= viewOfBlock?).run store).2.contents.insert key
            ((find >>= viewOfBlock?).run store).1 }) := by
  simp only [rememberContent, StateT.run, h]
  rfl

end

/-- The call site of the nearest body around an environment. -/
def callerOf : {a : Access} → Env a → Scoping (Option (Captured a))
  | .writable, scope => return Scope.caller? scope
  | .readOnly, .view key _ inner =>
    rememberCaller key do return (← callerOf inner).map Captured.handle

/-- The content block of the nearest body around an environment that was passed one. -/
def contentOf : {a : Access} → Env a → Scoping (Option (ContentBlock (Captured a)))
  | .writable, scope => return Scope.content? scope
  | .readOnly, .view key _ inner =>
    rememberContent key do return (← contentOf inner).map (ContentBlock.map Captured.handle)

/-- A scope answers with the call site that it has captured. -/
theorem run_callerOf (scope : Scope) (store : Store) :
    (callerOf scope).run store = (scope.caller?, store) := by
  cases scope <;> rfl

/-- A scope answers with the content block that it has captured. -/
theorem run_contentOf (scope : Scope) (store : Store) :
    (contentOf scope).run store = (scope.content?, store) := by
  cases scope <;> rfl

end Store

end Stylesheet
