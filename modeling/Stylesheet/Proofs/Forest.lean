import Stylesheet.Proofs.Coherence
import Stylesheet.Scope.Selectors
import Stylesheet.Scope.Warnings

/-! # Scopes in the course of time

What happens to scopes and views is a sequence of **actions** (`Action`): environments are made,
viewed, read, written to, held and dropped, in any order and through any handles that have been
handed out. A **run** (`Run`) is such a sequence with the **forest** that it leads to: the store,
the environments that are known and those that are held. Throughout a run the store is coherent with
the known environments (`Run.coherent`), so every result about coherent stores holds at every
moment. -/

namespace Stylesheet

/-- The ways to **write** a binding. -/
inductive WriteMode where
  /-- The name is declared in the very scope. -/
  | here
  /-- The name is declared on the root of the chain. -/
  | atRoot
  /-- The nearest existing binding is overwritten, if there is one. -/
  | existing
  /-- The nearest existing binding is overwritten, or the name is declared in the very scope. -/
  | existingOrHere

namespace Store

/-- The store after the nearest existing binding of a name has been overwritten, if there is one. -/
def overwritten (store : Store) (scope : Scope) (ns : Namespace) (name : String)
    (value : ns.Bound) : Store :=
  match store.overwrite scope ns name value with
  | .ok after => after
  | .error _ => store

/-- What is overwritten is the binding in the nearest binder. -/
theorem overwritten_eq (store : Store) (scope : Scope) (ns : Namespace) (name : String)
    (value : ns.Bound) :
    store.overwritten scope ns name value =
      (store.binder? scope ns name).elim store (store.declare · ns name value) := by
  rw [overwritten, overwrite_eq]
  cases store.binder? scope ns name <;> rfl

/-- An assignment declares the name in the nearest binder or else in the very scope. -/
theorem assign_eq (store : Store) (scope : Scope) (ns : Namespace) (name : String)
    (value : ns.Bound) :
    store.assign scope ns name value =
      store.declare ((store.binder? scope ns name).getD scope) ns name value := by
  rw [assign, overwrite_eq]
  cases store.binder? scope ns name <;> rfl

end Store

/-- Writes a binding. -/
def WriteMode.perform (scope : Scope) (ns : Namespace) (name : String) (value : ns.Bound) :
    WriteMode → Scoping Unit
  | here => modify fun store => store.declare scope ns name value
  | atRoot => Store.declareAtRoot scope ns name value
  | existing => modify fun store => store.overwritten scope ns name value
  | existingOrHere => modify fun store => store.assign scope ns name value

/-- What may **happen** to scopes and views. -/
inductive Action where
  /-- A root is made. -/
  | root (snapshot : Snapshot) (trace : TraceRef)
  /-- A scope is nested in another. -/
  | nested (parent : Scope) (snapshot : Option Snapshot)
  /-- The scope of a style rule is made. -/
  | rule (parent : Scope) (selector : SelectorList)
  /-- The scope of a body is made. -/
  | body (declaring : Scope) (caller : Handle) (content : Option (ContentBlock Handle))
  /-- A view is made that reports options of its own. -/
  | view (inner : Handle) (snapshot : Snapshot)
  /-- An environment is viewed read-only. -/
  | viewOf (handle : Handle)
  /-- The root of a chain is asked for. -/
  | rootOf (handle : Handle)
  /-- The captured call site is asked for. -/
  | callerOf (handle : Handle)
  /-- The captured content block is asked for. -/
  | contentOf (handle : Handle)
  /-- A binding is written. -/
  | write (mode : WriteMode) (scope : Scope) (ns : Namespace) (name : String) (value : ns.Bound)
  /-- The selector of a scope is set. -/
  | select (scope : Scope) (selector : SelectorList)
  /-- An assignment to a global variable is warned about. -/
  | warnAssignment (scope : Scope) (logger : Diagnostic.Logger) (name : String)
    (location : Location)
  /-- A result of `false` is warned about. -/
  | warnFalseResult (scope : Scope) (logger : Diagnostic.Logger) (location : Location)
  /-- An environment is held once more. -/
  | hold (handle : Handle)
  /-- One hold on an environment is given up. -/
  | drop (handle : Handle)

namespace Action

/-- The environments that an action is carried out with. -/
def uses : Action → List Handle
  | root _ _ => []
  | nested parent _ => [parent.handle]
  | rule parent _ => [parent.handle]
  | body declaring caller content =>
    declaring.handle :: caller :: (content.map ContentBlock.environment).toList
  | view inner _ => [inner]
  | viewOf handle => [handle]
  | rootOf handle => [handle]
  | callerOf handle => [handle]
  | contentOf handle => [handle]
  | write _ scope _ _ _ => [scope.handle]
  | select scope _ => [scope.handle]
  | warnAssignment scope _ _ _ => [scope.handle]
  | warnFalseResult scope _ _ => [scope.handle]
  | hold handle => [handle]
  | drop handle => [handle]

/-- Carries an action out and hands out the environment that it results in, if any. -/
def perform : Action → Scoping (Option Handle)
  | root snapshot trace => do return some (← Store.newRoot snapshot trace).handle
  | nested parent snapshot => do return some (← Store.newNested parent snapshot).handle
  | rule parent selector => do return some (← Store.newRule parent selector).handle
  | body declaring caller content => do
    return some (← Store.newBody declaring caller content).handle
  | view inner snapshot => do return some (← Store.newView inner snapshot).handle
  | viewOf handle => do return some (← Store.viewOf handle).handle
  | rootOf handle => do return some (← Store.rootOf handle.env).scope.handle
  | callerOf handle => do return (← Store.callerOf handle.env).map Captured.handle
  | contentOf handle => do
    let content := (← Store.contentOf handle.env).map (ContentBlock.map Captured.handle)
    return content.map ContentBlock.environment
  | write mode scope ns name value => do
    mode.perform scope ns name value
    return none
  | select scope selector => do
    modify fun store => store.setSelectorOf scope selector
    return none
  | warnAssignment scope logger name location => do
    let _ ← Store.warnAssignment scope logger name location
    return none
  | warnFalseResult scope logger location => do
    let _ ← Store.warnFalseResult scope logger location
    return none
  | hold handle => return some handle
  | drop _ => return none

/-- The action makes a scope. -/
def makesScope : Action → Bool
  | root _ _ | nested _ _ | rule _ _ | body _ _ _ => true
  | _ => false

/-- The action asks for something that is found along links and then remembered. -/
def asks : Action → Bool
  | viewOf _ | rootOf _ | callerOf _ | contentOf _ => true
  | _ => false

/-- What is still held of a number of handles when an action has been carried out. -/
def keep (held : List Handle) : Action → List Handle
  | drop handle => held.eraseP handle.same
  | _ => held

end Action

/-- Scopes and views **at one moment**. -/
structure Forest where
  /-- Their changing side. -/
  store : Store
  /-- The environments that have been handed out so far. -/
  known : Set Handle
  /-- The environments that are held; one that is held twice is in the list twice. -/
  held : List Handle

namespace Forest

/-- Before anything has happened. -/
def empty : Forest := ⟨.empty, ∅, []⟩

/-- The forest after an action. What is handed out is held until it is dropped, as the scope of a
body is while the body runs. -/
def after (forest : Forest) (action : Action) : Forest :=
  let (given, store) := action.perform.run forest.store
  ⟨store, Store.withAnswer forest.known given, given.toList ++ action.keep forest.held⟩

/-- The forest after a number of actions, the latest in front. -/
def ofActions : List Action → Forest
  | [] => empty
  | action :: earlier => (ofActions earlier).after action

end Forest

/-- **What can come about**: actions, the latest in front, and the forest that they lead to. An
action may be carried out with any environment that has ever been handed out, held or not; the runs
in which only environments that are held or alive are used are among these. -/
inductive Run : List Action → Forest → Prop
  /-- At first nothing has happened. -/
  | start : Run [] .empty
  /-- An action is carried out. -/
  | act {actions : List Action} {forest : Forest} (h : Run actions forest) (action : Action)
    (huses : ∀ handle ∈ action.uses, handle ∈ forest.known) :
    Run (action :: actions) (forest.after action)

/-! ## What an action does to the store -/

namespace Store

variable {store : Store} {known : Set Handle}

/-- Remembering a root changes nothing else if finding it does not. -/
theorem exists_roots_of_rememberRoot {key : Nat} {find : Scoping Root}
    (h : ∃ roots, (find.run store).2 = { store with roots := roots }) :
    ∃ roots, ((rememberRoot key find).run store).2 = { store with roots := roots } := by
  simp only [rememberRoot, StateT.run] at h ⊢
  split
  · exact ⟨store.roots, rfl⟩
  · obtain ⟨roots, hfind⟩ := h
    generalize find store = found at hfind
    obtain ⟨root, after⟩ := found
    obtain rfl : after = _ := hfind
    exact ⟨_, rfl⟩

/-- **Asking for the root** changes nothing but what is remembered of roots. -/
theorem exists_roots_of_rootOf {a : Access} (env : Env a) (store : Store) :
    ∃ roots, ((rootOf env).run store).2 = { store with roots := roots } := by
  induction env with
  | root => exact ⟨store.roots, rfl⟩
  | nested _ _ _ ih => exact exists_roots_of_rememberRoot ih
  | body _ _ _ ih _ => exact exists_roots_of_rememberRoot ih
  | bodyWith _ _ _ _ _ ih _ _ => exact exists_roots_of_rememberRoot ih
  | view _ _ _ ih => exact ih

/-- A write changes nothing but tables and what is remembered of roots. -/
theorem exists_tables_of_write (store : Store) (mode : WriteMode) (scope : Scope) (ns : Namespace)
    (name : String) (value : ns.Bound) :
    ∃ tables roots, ((mode.perform scope ns name value).run store).2 =
      { store with tables := tables, roots := roots } := by
  cases mode with
  | here => exact ⟨_, _, rfl⟩
  | atRoot =>
    obtain ⟨roots, hafter⟩ := exists_roots_of_rootOf scope store
    have hrun : ((WriteMode.atRoot.perform scope ns name value).run store).2 =
        ((Store.rootOf scope).run store).2.declare ((Store.rootOf scope).run store).1.scope ns name
          value := rfl
    rw [hrun, hafter]
    exact ⟨_, _, rfl⟩
  | existing =>
    have hrun : ((WriteMode.existing.perform scope ns name value).run store).2 =
        store.overwritten scope ns name value := rfl
    rw [hrun, overwritten_eq]
    cases store.binder? scope ns name <;> exact ⟨_, _, rfl⟩
  | existingOrHere =>
    have hrun : ((WriteMode.existingOrHere.perform scope ns name value).run store).2 =
        store.assign scope ns name value := rfl
    rw [hrun, assign_eq]
    exact ⟨_, _, rfl⟩

/-- Writing keeps the store coherent. -/
theorem Coherent.write (h : store.Coherent known) {scope : Scope} (hscope : scope.handle ∈ known)
    (mode : WriteMode) (ns : Namespace) (name : String) (value : ns.Bound) :
    ((mode.perform scope ns name value).run store).2.Coherent known := by
  cases mode with
  | here => exact h.of_remembered_eq rfl
  | atRoot => exact (h.rootOf hscope).2.coherent.of_remembered_eq rfl
  | existing =>
    refine h.of_remembered_eq ?_
    show (store.overwritten scope ns name value).remembered = store.remembered
    rw [overwritten_eq]
    cases store.binder? scope ns name <;> rfl
  | existingOrHere =>
    refine h.of_remembered_eq ?_
    show (store.assign scope ns name value).remembered = store.remembered
    rw [assign_eq]
    rfl

/-- Making an environment takes a key and makes the environment known. -/
theorem Coherent.made (h : store.Coherent known) (handle : Handle)
    (hkey : handle.env.key = store.nextKey handle.access)
    (hlinks : ∀ link ∈ handle.env.links, link ∈ known) {after : Store}
    (hafter : after.remembered = (store.withKey handle.access).remembered) :
    after.Coherent (withAnswer known (some handle)) := by
  rw [withAnswer_some]
  exact (h.withKey handle hkey hlinks).of_remembered_eq hafter

/-- Beyond asking for the root, a warning about an assignment changes nothing but ledgers. -/
theorem run_warnAssignment (store : Store) (scope : Scope) (logger : Diagnostic.Logger)
    (name : String) (location : Location) :
    ∃ ledgers, ((warnAssignment scope logger name location).run store).2 =
      { ((Store.rootOf scope).run store).2 with ledgers := ledgers } := by
  simp only [warnAssignment, StateT.run_bind]
  dsimp only [StateT.run_get, pure_bind, bind, pure, Id.run, StateT.run]
  split <;> exact ⟨_, rfl⟩

/-- Beyond asking for the root, a warning about a result changes nothing but ledgers. -/
theorem run_warnFalseResult (store : Store) (scope : Scope) (logger : Diagnostic.Logger)
    (location : Location) :
    ∃ ledgers, ((warnFalseResult scope logger location).run store).2 =
      { ((Store.rootOf scope).run store).2 with ledgers := ledgers } := by
  simp only [warnFalseResult, StateT.run_bind]
  dsimp only [StateT.run_get, pure_bind, bind, pure, Id.run, StateT.run]
  split <;> exact ⟨_, rfl⟩

/-- A warning keeps the store coherent and writes to no table. -/
theorem Coherent.warned (h : store.Coherent known) {scope : Scope} (hscope : scope.handle ∈ known)
    {after : Store} (hwarned : ∃ ledgers, after =
      { ((Store.rootOf scope).run store).2 with ledgers := ledgers }) :
    after.Coherent known ∧ after.tables = store.tables := by
  obtain ⟨ledgers, rfl⟩ := hwarned
  have hreads := (h.rootOf hscope).2
  exact ⟨hreads.coherent.of_remembered_eq rfl, congrArg Prod.fst hreads.written_eq⟩

/-- **Every action** with known environments keeps the store coherent with what is known then. -/
theorem Coherent.perform (h : store.Coherent known) (action : Action)
    (huses : ∀ handle ∈ action.uses, handle ∈ known) :
    (action.perform.run store).2.Coherent (withAnswer known (action.perform.run store).1) := by
  cases action with
  | root snapshot trace =>
    exact h.made (Env.handle (.root store.nextScope snapshot trace)) rfl
      (by simp [Env.links, Env.handle]) rfl
  | nested parent snapshot =>
    exact h.made (Env.handle (.nested store.nextScope (snapshot.getD parent.snapshot) parent)) rfl
      huses rfl
  | rule parent selector =>
    exact h.made (Env.handle (.nested store.nextScope parent.snapshot parent)) rfl huses rfl
  | body declaring caller content =>
    cases content with
    | none => exact h.made (Env.handle (.body store.nextScope declaring caller.env)) rfl huses rfl
    | some block =>
      exact h.made (Env.handle (.bodyWith store.nextScope declaring caller.env block.nodes
        block.environment.env)) rfl huses rfl
  | view inner snapshot =>
    exact h.made (Env.handle (.view store.nextView snapshot inner.env)) rfl huses rfl
  | viewOf handle => exact (h.reads_viewOf (huses handle (List.mem_singleton_self _))).coherent
  | rootOf handle =>
    have hknown : handle ∈ known := huses handle (List.mem_singleton_self _)
    obtain ⟨hroot, hreads⟩ := h.rootOf hknown
    have hmem : ((Store.rootOf handle.env).run store).1.scope.handle ∈ known :=
      hroot ▸ h.mem_of_reaches hknown handle.env.reaches_chainRoot
    exact (withAnswer_some_of_known hmem).symm ▸ hreads.coherent
  | callerOf handle => exact (h.callerOf (huses handle (List.mem_singleton_self _))).2.coherent
  | contentOf handle => exact (h.contentOf (huses handle (List.mem_singleton_self _))).2.2.coherent
  | write mode scope ns name value =>
    exact withAnswer_none.symm ▸ h.write (huses _ (List.mem_singleton_self _)) mode ns name value
  | select scope selector => exact withAnswer_none.symm ▸ h.of_remembered_eq rfl
  | warnAssignment scope logger name location =>
    have hscope : scope.handle ∈ known := huses _ (List.mem_singleton_self _)
    exact withAnswer_none.symm ▸
      (h.warned hscope (run_warnAssignment store scope logger name location)).1
  | warnFalseResult scope logger location =>
    have hscope : scope.handle ∈ known := huses _ (List.mem_singleton_self _)
    exact withAnswer_none.symm ▸
      (h.warned hscope (run_warnFalseResult store scope logger location)).1
  | hold handle =>
    exact (withAnswer_some_of_known (huses handle (List.mem_singleton_self _))).symm ▸ h
  | drop handle => exact withAnswer_none.symm ▸ h

/-- Asking writes nothing. -/
theorem Coherent.written_of_asks (h : store.Coherent known) {action : Action}
    (huses : ∀ handle ∈ action.uses, handle ∈ known) (hasks : action.asks = true) :
    (action.perform.run store).2.written = store.written := by
  cases action with
  | viewOf handle => exact (h.reads_viewOf (huses handle (List.mem_singleton_self _))).written_eq
  | rootOf handle => exact (h.rootOf (huses handle (List.mem_singleton_self _))).2.written_eq
  | callerOf handle => exact (h.callerOf (huses handle (List.mem_singleton_self _))).2.written_eq
  | contentOf handle =>
    exact (h.contentOf (huses handle (List.mem_singleton_self _))).2.2.written_eq
  | _ => cases hasks

end Store

/-! ## What holds throughout a run -/

namespace Run

variable {actions : List Action} {forest : Forest}

/-- **Throughout a run** the store is coherent with the environments that are known. -/
theorem coherent (h : Run actions forest) : forest.store.Coherent forest.known := by
  induction h with
  | start => exact .empty
  | act _ action huses ih => exact ih.perform action huses

/-- Only finitely many environments ever become known. -/
theorem finite_known (h : Run actions forest) : forest.known.Finite := by
  induction h with
  | start => exact Set.finite_empty
  | act _ action _ ih =>
    refine ih.union (Set.Subsingleton.finite ?_)
    intro first hfirst second hsecond
    exact Option.mem_unique hfirst hsecond

/-- What is held is known. -/
theorem known_of_held (h : Run actions forest) : ∀ handle ∈ forest.held, handle ∈ forest.known := by
  induction h with
  | start => simp [Forest.empty]
  | @act actions forest _ action huses ih =>
    intro handle hmem
    rcases List.mem_append.mp hmem with hmem | hmem
    · exact Or.inr (Option.mem_toList.mp hmem)
    · refine Or.inl (ih handle ?_)
      cases action with
      | drop => exact List.mem_of_mem_eraseP hmem
      | _ => exact hmem

/-! ### A sample -/

/-- The options in the sample. -/
def sampleSnapshot : Snapshot := ⟨0, .default⟩

/-- A root. -/
def sampleRoot : Scope := .root 0 sampleSnapshot ⟨0⟩

/-- A scope nested in it. -/
def sampleNested : Scope := .nested 1 sampleSnapshot sampleRoot

/-- The scope of a body that is declared in the root and called from the nested scope, with a
content block of the nested scope. -/
def sampleBody : Scope := .bodyWith 2 sampleRoot sampleNested [] sampleNested

/-- A view of the body. -/
def sampleView : View := .view 0 sampleSnapshot sampleBody

/-- A view of the view. -/
def sampleTower : View := .view 1 sampleSnapshot sampleView

/-- The environments of the sample are made. -/
def sampleActions : List Action :=
  [.view sampleView.handle sampleSnapshot, .view sampleBody.handle sampleSnapshot,
    .body sampleRoot sampleNested.handle (some ⟨[], sampleNested.handle⟩),
    .nested sampleRoot none, .root sampleSnapshot ⟨0⟩]

/-- The environments of the sample are known once they have been made. -/
theorem known_sample : ∀ handle ∈ [sampleRoot.handle, sampleNested.handle, sampleBody.handle,
    sampleView.handle, sampleTower.handle],
    handle ∈ (Forest.ofActions sampleActions).known := by
  intro handle hmem
  simp only [List.mem_cons, List.not_mem_nil, or_false] at hmem
  rcases hmem with rfl | rfl | rfl | rfl | rfl
  · exact .inl (.inl (.inl (.inl (.inr rfl))))
  · exact .inl (.inl (.inl (.inr rfl)))
  · exact .inl (.inl (.inr rfl))
  · exact .inl (.inr rfl)
  · exact .inr rfl

/-- The sample is a run. -/
theorem run_sampleActions : Run sampleActions (.ofActions sampleActions) := by
  refine ((((Run.start.act _ ?_).act _ ?_).act _ ?_).act _ ?_).act _ ?_
  all_goals intro handle hmem
  · cases hmem
  · exact List.mem_singleton.mp hmem ▸ .inr rfl
  · simp only [Action.uses, Option.map_some, Option.toList_some, List.mem_cons, List.not_mem_nil,
      or_false] at hmem
    rcases hmem with rfl | rfl | rfl
    · exact .inl (.inr rfl)
    · exact .inr rfl
    · exact .inr rfl
  · exact List.mem_singleton.mp hmem ▸ .inr rfl
  · exact List.mem_singleton.mp hmem ▸ .inr rfl

end Run

end Stylesheet
