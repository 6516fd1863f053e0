import Stylesheet.Proofs.Forest

/-! # Transparency of views

A view answers what the scope behind it answers, however many views lie between them and whatever
has been remembered by then (`Run.view_answers_as_scope`). Bindings and selectors are read through
the view, so they are those of the scope at that very moment. Captures never change, so a **walk**
from capture to capture (`walk`) leads where the links say (`route`), whether it sets out from a
scope or from a view, and whether the captures on the way are shown as they are or as views. -/

namespace Stylesheet

/-! ## Walks along captures -/

/-- A **hop** to what the nearest body around an environment has captured. -/
inductive Hop where
  /-- To its call site. -/
  | caller
  /-- To the environment of its content block. -/
  | content

namespace Hop

/-- The action that a hop is carried out by. -/
def action (hop : Hop) (handle : Handle) : Action :=
  match hop with
  | caller => .callerOf handle
  | content => .contentOf handle

/-- The environment that a hop from a scope leads to. -/
def captured? (hop : Hop) (scope : Scope) : Option Handle :=
  match hop with
  | caller => scope.caller?
  | content => scope.content?.map ContentBlock.environment

end Hop

/-- **Walks** from capture to capture and answers where the walk ends, if every hop leads
somewhere. -/
def walk : List Hop → Handle → Scoping (Option Handle)
  | [], handle => return some handle
  | hop :: rest, handle => do
    match ← (hop.action handle).perform with
    | none => return none
    | some next => walk rest next

/-- The scope that a walk from a scope leads to, by the links alone. -/
def route : List Hop → Scope → Option Scope
  | [], scope => some scope
  | hop :: rest, scope => (hop.captured? scope).bind fun next => route rest next.env.unwrapped

namespace Store.Coherent

variable {store : Store} {known : Set Handle}

/-- **One hop** from a known environment keeps the store coherent and shows what the scope behind
the environment has captured. -/
theorem perform_hop (h : store.Coherent known) (hop : Hop) {handle : Handle}
    (hknown : handle ∈ known) :
    let run := (hop.action handle).perform.run store
    Answers (withAnswer known run.1) (hop.captured? handle.env.unwrapped) run.1 ∧
      run.2.Coherent (withAnswer known run.1) := by
  cases hop with
  | caller =>
    obtain ⟨hanswers, hreads⟩ := h.callerOf hknown
    exact ⟨hanswers, hreads.coherent⟩
  | content =>
    obtain ⟨hanswers, -, hreads⟩ := h.contentOf hknown
    exact ⟨hanswers, hreads.coherent⟩

/-- **A walk** leads where the links say, whatever has been remembered. -/
theorem walk (h : store.Coherent known) (hops : List Hop) {handle : Handle}
    (hknown : handle ∈ known) :
    ((walk hops handle).run store).1.map (·.env.unwrapped) =
      route hops handle.env.unwrapped := by
  induction hops generalizing store known handle with
  | nil => rfl
  | cons hop rest ih =>
    -- The store after the hop is coherent with the answer, so the rest of the walk may begin there.
    obtain ⟨hanswers, hcoherent⟩ := h.perform_hop hop hknown
    have hrun : (Stylesheet.walk (hop :: rest) handle).run store =
        match ((hop.action handle).perform.run store).1 with
        | none => (none, ((hop.action handle).perform.run store).2)
        | some next =>
          (Stylesheet.walk rest next).run ((hop.action handle).perform.run store).2 := by
      simp only [Stylesheet.walk, StateT.run_bind]
      dsimp only [bind, Id.run]
      split <;> rfl
    rw [hrun, route]
    generalize (hop.action handle).perform.run store = run at hanswers hcoherent ⊢
    obtain ⟨answer, after⟩ := run
    dsimp only at hanswers hcoherent ⊢
    generalize hop.captured? handle.env.unwrapped = captured at hanswers ⊢
    cases hanswers with
    | nothing => rfl
    | shown hshows hnext =>
      rw [Option.bind_some, ← hshows.unwrapped_eq]
      exact ih hcoherent hnext

end Store.Coherent

/-! ## Views and the scopes behind them -/

namespace Run

variable {actions : List Action} {forest : Forest}

/-- The scope behind a known environment is known. -/
theorem unwrapped_known (h : Run actions forest) {handle : Handle}
    (hknown : handle ∈ forest.known) :
    handle.env.unwrapped.handle ∈ forest.known :=
  h.coherent.mem_of_reaches hknown handle.env.reaches_unwrapped

/-- **A view answers as the scope behind it does**, at every moment of a run: look-ups, the question
whether a name is bound at the root, the selector, the root of the chain and its trace. It has a
call site exactly if the scope has one, and a content block exactly if the scope has one, with the
same pieces; and every walk along captures leads to the same scope. -/
theorem view_answers_as_scope (h : Run actions forest) {view : View}
    (hview : view.handle ∈ forest.known) :
    let scope := view.unwrapped
    (∀ (ns : Namespace) (name : String),
      forest.store.get? view ns name = forest.store.get? scope ns name ∧
        forest.store.isBoundAtRoot view ns name = forest.store.isBoundAtRoot scope ns name) ∧
    forest.store.selector? view = forest.store.selector? scope ∧
    ((Store.rootOf view).run forest.store).1 = ((Store.rootOf scope).run forest.store).1 ∧
    ((Store.traceOf view).run forest.store).1 = ((Store.traceOf scope).run forest.store).1 ∧
    ((Store.callerOf view).run forest.store).1.isSome =
      ((Store.callerOf scope).run forest.store).1.isSome ∧
    ((Store.contentOf view).run forest.store).1.map ContentBlock.nodes =
      ((Store.contentOf scope).run forest.store).1.map ContentBlock.nodes ∧
    ∀ hops : List Hop,
      ((walk hops view.handle).run forest.store).1.map (·.env.unwrapped) =
        ((walk hops scope.handle).run forest.store).1.map (·.env.unwrapped) := by
  intro scope
  have hscope : scope.handle ∈ forest.known := h.unwrapped_known hview
  have hunwrapped : scope.unwrapped = scope := view.unwrapped_unwrapped
  have hroot : ((Store.rootOf view).run forest.store).1 =
      ((Store.rootOf scope).run forest.store).1 := by
    rw [(h.coherent.rootOf hview).1, (h.coherent.rootOf hscope).1, view.chainRoot_unwrapped]
  refine ⟨?_, ?_, hroot, congrArg Root.trace hroot, ?_, ?_, ?_⟩
  · -- Look-ups depend on the path alone, which a view shares with the scope.
    intro ns name
    refine ⟨(Store.get?_unwrapped _ _ _ _).symm, ?_⟩
    rw [Store.isBoundAtRoot, Store.isBoundAtRoot, Store.binder?, Store.binder?, Env.path_unwrapped]
  · exact (Store.selector?_unwrapped _ _).symm
  · -- Both answers show the same capture.
    have hofView := (h.coherent.callerOf hview).1.isSome_eq
    have hofScope := (h.coherent.callerOf hscope).1.isSome_eq
    rw [Option.isSome_map] at hofView hofScope
    rw [hofView, hofScope, hunwrapped]
  · have hofView := (h.coherent.contentOf hview).2.1
    have hofScope := (h.coherent.contentOf hscope).2.1
    rw [hunwrapped] at hofScope
    rw [Option.map_map] at hofView hofScope
    exact hofView.trans hofScope.symm
  · intro hops
    rw [h.coherent.walk hops hview, h.coherent.walk hops hscope]
    show route hops scope = route hops scope.unwrapped
    rw [hunwrapped]

/-- In the sample, after the caller of the view has been remembered, the view of the view leads to
the same call site as the body. -/
theorem sampleTower_answers_as_body :
    ∃ forest, Run (.callerOf sampleView.handle :: sampleActions) forest ∧
      ((Store.callerOf sampleTower).run forest.store).1.isSome = true ∧
      ((walk [.caller] sampleTower.handle).run forest.store).1.map (·.env.unwrapped) =
        some sampleNested := by
  have hrun : Run (.callerOf sampleView.handle :: sampleActions)
      (.ofActions (.callerOf sampleView.handle :: sampleActions)) := by
    refine run_sampleActions.act _ fun handle hmem => ?_
    exact List.mem_singleton.mp hmem ▸ known_sample _ (by simp)
  have htower : sampleTower.handle ∈
      (Forest.ofActions (.callerOf sampleView.handle :: sampleActions)).known :=
    .inl (known_sample _ (by simp))
  obtain ⟨-, -, -, -, hcaller, -, hwalk⟩ := view_answers_as_scope hrun htower
  exact ⟨_, hrun, hcaller, hwalk [.caller]⟩

end Run

end Stylesheet
