import Stylesheet.Proofs.Writes

/-! # Numbers of scopes

Scopes are numbered in the order in which actions make them, and nothing but the making of a scope
takes a number. So every number that has been taken stands for one known scope
(`Run.exists_known_of_lt`), and an action that makes no scope makes none known. -/

namespace Stylesheet

namespace Store

/-- Asking for the root makes no scope. -/
theorem nextScope_rootOf {a : Access} (env : Env a) (store : Store) :
    ((rootOf env).run store).2.nextScope = store.nextScope := by
  obtain ⟨roots, hafter⟩ := exists_roots_of_rootOf env store
  rw [hafter]

/-- Viewing an environment makes no scope. -/
theorem nextScope_viewOf (handle : Handle) (store : Store) :
    ((viewOf handle).run store).2.nextScope = store.nextScope := by
  obtain @⟨access, env⟩ := handle
  cases access <;> cases env <;> rfl

/-- Viewing a call site makes no scope. -/
theorem nextScope_viewOf? (handle : Option Handle) (store : Store) :
    ((viewOf? handle).run store).2.nextScope = store.nextScope := by
  cases handle with
  | none => rfl
  | some handle => exact nextScope_viewOf handle store

/-- Viewing the environment of a content block makes no scope. -/
theorem nextScope_viewOfBlock? (block : Option (ContentBlock Handle)) (store : Store) :
    ((viewOfBlock? block).run store).2.nextScope = store.nextScope := by
  cases block with
  | none => rfl
  | some block => exact nextScope_viewOf block.environment store

/-- Asking for the captured call site makes no scope. -/
theorem nextScope_callerOf {a : Access} (env : Env a) (store : Store) :
    ((callerOf env).run store).2.nextScope = store.nextScope := by
  induction env with
  | view key _ inner ih =>
    show ((rememberCaller key _).run store).2.nextScope = store.nextScope
    simp only [rememberCaller, StateT.run]
    split
    · rfl
    · -- What is found is viewed before it is remembered.
      exact (nextScope_viewOf? _ _).trans ih
  | _ => rfl

/-- Asking for the captured content block makes no scope. -/
theorem nextScope_contentOf {a : Access} (env : Env a) (store : Store) :
    ((contentOf env).run store).2.nextScope = store.nextScope := by
  induction env with
  | view key _ inner ih =>
    show ((rememberContent key _).run store).2.nextScope = store.nextScope
    simp only [rememberContent, StateT.run]
    split
    · rfl
    · exact (nextScope_viewOfBlock? _ _).trans ih
  | _ => rfl

/-- **Scopes are numbered** in the order in which actions make them. -/
theorem nextScope_perform (action : Action) (store : Store) :
    (action.perform.run store).2.nextScope =
      store.nextScope + if action.makesScope then 1 else 0 := by
  cases action with
  | root | nested | rule => rfl
  | body _ _ content => cases content <;> rfl
  | view | select | hold | drop => rfl
  | viewOf handle => exact nextScope_viewOf handle store
  | rootOf handle => exact nextScope_rootOf handle.env store
  | callerOf handle => exact nextScope_callerOf handle.env store
  | contentOf handle => exact nextScope_contentOf handle.env store
  | write mode scope ns name value =>
    obtain ⟨tables, roots, hafter⟩ := exists_tables_of_write store mode scope ns name value
    have hnextScope := congrArg Store.nextScope hafter
    exact hnextScope
  | warnAssignment scope logger name location =>
    obtain ⟨ledgers, hafter⟩ := run_warnAssignment store scope logger name location
    show ((warnAssignment scope logger name location).run store).2.nextScope = store.nextScope
    rw [hafter]
    exact nextScope_rootOf scope store
  | warnFalseResult scope logger location =>
    obtain ⟨ledgers, hafter⟩ := run_warnFalseResult store scope logger location
    show ((warnFalseResult scope logger location).run store).2.nextScope = store.nextScope
    rw [hafter]
    exact nextScope_rootOf scope store

end Store

namespace Run

variable {actions : List Action} {forest : Forest}

/-- Every number below the next one is that of a known scope. -/
theorem exists_known_of_lt (h : Run actions forest) :
    ∀ key < forest.store.nextScope, ∃ scope : Scope, scope.handle ∈ forest.known ∧
      scope.key = key := by
  induction h with
  | start => exact nofun
  | @act actions forest hrun action huses ih =>
    intro key hlt
    have hnext : key < (action.perform.run forest.store).2.nextScope := hlt
    rw [Store.nextScope_perform] at hnext
    by_cases hold : key < forest.store.nextScope
    · obtain ⟨scope, hknown, hkey⟩ := ih key hold
      exact ⟨scope, .inl hknown, hkey⟩
    · -- The last number is that of the scope that the action has made.
      cases hmakes : action.makesScope with
      | false =>
        rw [hmakes] at hnext
        exact absurd hnext hold
      | true =>
        rw [hmakes] at hnext
        obtain ⟨made, hmade, hkey⟩ := action.made_of_makesScope hmakes forest.store
        exact ⟨made, .inr hmade, hkey.trans (by simp at hnext; omega)⟩

/-- An action that makes no scope makes no scope known. -/
theorem known_of_makesScope_eq_false (h : Run actions forest) {action : Action}
    (huses : ∀ handle ∈ action.uses, handle ∈ forest.known) (hmakes : action.makesScope = false)
    {scope : Scope} (hscope : scope.handle ∈ (forest.after action).known) :
    scope.handle ∈ forest.known := by
  have hcoherent := (h.act action huses).coherent
  have hlt : scope.key < forest.store.nextScope := by
    have hkey : scope.key < (action.perform.run forest.store).2.nextScope :=
      hcoherent.key_lt _ hscope
    rwa [Store.nextScope_perform, hmakes] at hkey
  -- The number of the scope was taken before, and it stands for one scope.
  obtain ⟨old, hold, hkey⟩ := h.exists_known_of_lt _ hlt
  obtain rfl := hcoherent.eq_of_key_eq (.inl hold) hscope hkey
  exact hold

end Run

end Stylesheet
