import Stylesheet.Proofs.Ownership
import Stylesheet.Proofs.Parallel

/-! # Scoping is lexical

Bodies capture their call site and a content block, but names are never looked up there: look-ups,
writes, roots and warnings follow the enclosing scopes alone. So runs that differ only in captures
answer every question alike that is not about captures (`Run.scoping_is_lexical`), and what is
written inside a body stays out of the scopes of its call site, unless the body is declared among
them. -/

namespace Stylesheet

open Diagnostic

/-! ## Writing inside a body -/

/-- A write lands in a scope on the path of the scope that it is made from. -/
theorem WriteMode.target?_mem_path (mode : WriteMode) (store : Store) {scope target : Scope}
    {ns : Namespace} {name : String}
    (h : mode.target? (store.binder? scope ns name) scope = some target) : target ∈ scope.path := by
  have hbinder : ∀ {binder}, store.binder? scope ns name = some binder → binder ∈ scope.path :=
    List.mem_of_find?_eq_some
  cases mode with
  | here =>
    cases h
    exact scope.mem_path
  | atRoot => exact List.mem_of_getLast? h
  | existing => exact hbinder h
  | existingOrHere =>
    cases h
    cases hnearest : store.binder? scope ns name with
    | none => exact scope.mem_path
    | some binder => exact hbinder hnearest

/-- All writes among a number of actions are made **within** a scope: from itself or from a scope
that it encloses. -/
def WritesWithin (outer : Scope) (actions : List Action) : Prop :=
  ∀ mode scope ns name value, .write mode scope ns name value ∈ actions → outer ∈ scope.path

namespace Run

variable {actions later : List Action} {forest final : Forest}

/-- Environments stay known. -/
theorem known_subset (h : Run actions forest) (hfinal : Run (later ++ actions) final) :
    forest.known ⊆ final.known := by
  induction later generalizing final with
  | nil =>
    rw [h.eq_ofActions, hfinal.eq_ofActions]
    rfl
  | cons action later ih =>
    obtain _ | ⟨hrun, -, -⟩ := hfinal
    exact (ih hrun).trans Set.subset_union_left

/-- **Writes within a scope** leave every scope alone that neither encloses it nor is enclosed by
it. -/
theorem own?_of_writesWithin (h : Run actions forest) (hfinal : Run (later ++ actions) final)
    {outer scope : Scope} (houter : WritesWithin outer later)
    (hscope : scope.handle ∈ forest.known) (habove : scope ∉ outer.path)
    (hbelow : outer ∉ scope.path) (ns : Namespace) (text : String) :
    final.store.own? ns text scope = forest.store.own? ns text scope := by
  induction later generalizing final with
  | nil => rw [h.eq_ofActions, hfinal.eq_ofActions, List.nil_append]
  | cons action later ih =>
    obtain _ | ⟨hrun, action, huses⟩ := hfinal
    rename_i before
    have hbefore := ih hrun fun mode source ns name value hmem =>
      houter mode source ns name value (List.mem_cons_of_mem _ hmem)
    rw [← hbefore]
    by_cases hwrite : ∃ mode source wanted name value,
        action = .write mode source wanted name value
    · obtain ⟨mode, source, wanted, name, value, rfl⟩ := hwrite
      have hsource : source.handle ∈ before.known := huses _ (List.mem_singleton_self _)
      have hinside : outer ∈ source.path := houter mode source wanted name value List.mem_cons_self
      have htables : (before.after (.write mode source wanted name value)).store.tables = _ :=
        hrun.coherent.tables_write hsource mode wanted name value
      rw [Store.own?_of_tables_eq htables]
      rcases htarget : mode.target? (before.store.binder? source wanted name) source with _ | target
      · rfl
      · -- The write lands on a path that the scope is not on.
        have hpath := mode.target?_mem_path before.store htarget
        have hkey : target.key ≠ scope.key := by
          intro hkey
          have hknown := hrun.coherent.mem_of_mem_path hsource hpath
          obtain rfl := hrun.coherent.eq_of_key_eq hknown (h.known_subset hrun hscope) hkey
          rcases Env.mem_path_or_mem_path hpath hinside with hmem | hmem
          · exact habove hmem
          · exact hbelow hmem
        rw [Option.elim_some, Store.own?, before.store.tableOf_declare_of_ne fun h => absurd h hkey]
        rfl
    · -- No other action changes a table.
      have htables := hrun.coherent.tables_perform action huses
        fun mode source wanted name value heq => hwrite ⟨mode, source, wanted, name, value, heq⟩
      exact Store.own?_of_tables_eq htables ns text scope

/-- **Writes within the scope of a body** leave every scope alone that the call site is enclosed by,
unless it is one of those that enclose the declaration. -/
theorem own?_of_body (h : Run actions forest) (hfinal : Run (later ++ actions) final)
    {body declaring scope : Scope} {caller : Handle} (hbody : body.handle ∈ forest.known)
    (hparent : body.parent? = some declaring) (hcaller : body.ownCaller? = some caller)
    (hwithin : WritesWithin body later) (hscope : scope ∈ caller.env.path)
    (houtside : scope ∉ declaring.path) (ns : Namespace) (text : String) :
    final.store.own? ns text scope = forest.store.own? ns text scope := by
  have hlink := Scope.mem_links_of_ownCaller? hcaller
  have hknown := h.coherent.mem_of_mem_path
    (h.coherent.mem_of_reaches hbody (.of_link hlink (.refl _))) hscope
  -- The scope is older than the body, so the body is none of the scopes that enclose it.
  have hsize : scope.size < body.size := by
    have hcall : caller.env.size < body.size := Handle.size_lt_of_mem_links body.handle hlink
    have houter : scope.size ≤ caller.env.size := (Env.reaches_of_mem_path hscope).size_le
    omega
  refine h.own?_of_writesWithin hfinal hwithin hknown ?_ ?_ ns text
  · rw [Scope.path_eq, hparent, Option.map_some, Option.getD_some, List.mem_cons]
    rintro (rfl | hmem)
    · exact Nat.lt_irrefl _ hsize
    · exact houtside hmem
  · intro hbelow
    have hle : body.size ≤ scope.size := (Env.reaches_of_mem_path hbelow).size_le
    omega

/-- **Scoping is lexical.** Take any two runs that do the same with scopes, which are matched by
their numbers, but for what bodies capture and for what is done aside.
- Environments whose scopes have one number answer look-ups alike, that is with equal values and with
  callables that differ in the captures of their scopes at most. They tell alike whether a name is
  bound at the root, and they have the same root, with the same options and the same trace.
- Scopes of one number have the same depth and the same options. An assignment to an existing
  binding succeeds in both or in neither, calls for warnings are answered alike, with the same
  messages, and the tables are the same.

And whatever is written within the scope of a body, every scope that the call site is enclosed by
keeps all its bindings, unless it is one of those that enclose the declaration. -/
theorem scoping_is_lexical {actions' : List Action} {forest' : Forest} (h : Run actions forest)
    (h' : Run actions' forest') (hparallel : Parallel actions actions') :
    (∀ handle ∈ forest.known, ∀ handle' ∈ forest'.known,
      handle.env.unwrapped.key = handle'.env.unwrapped.key →
      (∀ (ns : Namespace) (name : String),
        Option.Rel ns.Alike (forest.store.get? handle.env ns name)
            (forest'.store.get? handle'.env ns name) ∧
          forest.store.isBoundAtRoot handle.env ns name =
            forest'.store.isBoundAtRoot handle'.env ns name) ∧
      ((Store.rootOf handle.env).run forest.store).1 =
        ((Store.rootOf handle'.env).run forest'.store).1) ∧
    (∀ scope : Scope, scope.handle ∈ forest.known → ∀ scope' : Scope,
      scope'.handle ∈ forest'.known → scope.key = scope'.key →
      scope.depth = scope'.depth ∧ scope.snapshot = scope'.snapshot ∧
      (∀ (ns : Namespace) (name : String) (value value' : ns.Bound),
        (∃ after, forest.store.overwrite scope ns name value = .ok after) ↔
          ∃ after, forest'.store.overwrite scope' ns name value' = .ok after) ∧
      (∀ (use : Use) (logger : Logger),
        ((use.warn scope logger).run forest.store).1 =
          ((use.warn scope' logger).run forest'.store).1) ∧
      ∀ (ns : Namespace) (text : String),
        Option.Rel ns.Alike ((forest.store.tableOf scope ns).get? text)
          ((forest'.store.tableOf scope' ns).get? text)) ∧
    ∀ body declaring : Scope, ∀ caller : Handle, body.handle ∈ forest.known →
      body.parent? = some declaring → body.ownCaller? = some caller →
      ∀ later final, Run (later ++ actions) final → WritesWithin body later →
        ∀ scope ∈ caller.env.path, scope ∉ declaring.path → ∀ (ns : Namespace) (text : String),
          final.store.own? ns text scope = forest.store.own? ns text scope := by
  obtain ⟨halike, hcalls⟩ := hparallel.alike h h'
  refine ⟨?_, ?_, ?_⟩
  · intro handle hknown handle' hknown' hkey
    have hscope := h.coherent.mem_of_reaches hknown handle.env.reaches_unwrapped
    have hscope' := h'.coherent.mem_of_reaches hknown' handle'.env.reaches_unwrapped
    have hbare : handle.env.bare = handle'.env.bare := by
      simpa using halike.bare_eq _ _ hscope hscope' hkey
    refine ⟨fun ns name => ⟨halike.tables.get? hbare ns name,
      halike.tables.isBoundAtRoot hbare ns name⟩, ?_⟩
    rw [(h.coherent.rootOf hknown).1, (h'.coherent.rootOf hknown').1]
    exact Env.chainRoot_eq_of_bare_eq hbare
  · intro scope hscope scope' hscope' hkey
    have hbare := halike.bare_eq scope scope' hscope hscope' hkey
    have hsnapshot := Env.snapshot_eq_of_bare_eq hbare
    refine ⟨?_, hsnapshot, halike.tables.overwrite_iff hbare, ?_,
      fun ns text => halike.tables scope scope' hkey ns text⟩
    · rw [Scope.depth, (Env.forall₂_path hbare).length_eq, Scope.depth]
    · intro use logger
      rw [h.run_warn hscope, h'.run_warn hscope', use.inChain_eq_of_bare_eq hbare, hcalls,
        hsnapshot]
  · intro body declaring caller hbody hparent hcaller later final hfinal hwithin scope hscope
      houtside ns text
    exact h.own?_of_body hfinal hbody hparent hcaller hwithin hscope houtside ns text

/-- In the sample, a name is bound in the nested scope, which calls the body. -/
def calledFromNested : List Action :=
  .write .here sampleNested .var "width" (.bool true) :: sampleActions

/-- The scope of the body as it would be if the root had called it and passed no content block. -/
def bodyOfRoot : Scope := .body 2 sampleRoot sampleRoot

/-- The same is done, but the root calls the body, passes no content block, and nothing is viewed. -/
def calledFromRoot : List Action :=
  [.write .here sampleNested .var "width" (.bool true), .body sampleRoot sampleRoot.handle none,
    .nested sampleRoot none, .root sampleSnapshot ⟨0⟩]

/-- In the sample, the body sees no more of the name if the nested scope calls it than if the root
does, and when the body assigns the name, the nested scope keeps its own. -/
theorem sampleBody_is_lexical :
    ∃ forest forest' final, Run calledFromNested forest ∧ Run calledFromRoot forest' ∧
      Parallel calledFromNested calledFromRoot ∧
      Option.Rel (Namespace.Alike .var) (forest.store.get? sampleBody .var "width")
        (forest'.store.get? bodyOfRoot .var "width") ∧
      Run ([.write .existingOrHere sampleBody .var "width" .null] ++ calledFromNested) final ∧
      final.store.own? .var "width" sampleNested =
        forest.store.own? .var "width" sampleNested := by
  have hrun : Run calledFromNested (.ofActions calledFromNested) := by
    refine run_sampleActions.act _ ?_
    intro handle hmem
    exact List.mem_singleton.mp hmem ▸ known_sample _ (by simp)
  have hrun' : Run calledFromRoot (.ofActions calledFromRoot) := by
    refine (((Run.start.act _ ?_).act _ ?_).act _ ?_).act _ ?_
    all_goals intro handle hmem
    · cases hmem
    · exact List.mem_singleton.mp hmem ▸ .inr rfl
    · simp only [Action.uses, Option.map_none, Option.toList_none, List.mem_cons,
        List.not_mem_nil, or_false, or_self] at hmem
      exact hmem ▸ .inl (.inr rfl)
    · exact List.mem_singleton.mp hmem ▸ .inl (.inr rfl)
  have hparallel : Parallel calledFromNested calledFromRoot :=
    .both (.first (.first (.both (.both (.both .start (.root _ _)) (.nested rfl none))
      (.body rfl _ _ _ _)) rfl) rfl) (.write .here rfl .var "width" rfl)
  have hbody : sampleBody.handle ∈ (Forest.ofActions calledFromNested).known :=
    .inl (known_sample _ (by simp))
  have hfinal : Run ([.write .existingOrHere sampleBody .var "width" .null] ++ calledFromNested)
      (.ofActions ([.write .existingOrHere sampleBody .var "width" .null] ++
        calledFromNested)) := by
    refine hrun.act _ ?_
    intro handle hmem
    exact List.mem_singleton.mp hmem ▸ hbody
  obtain ⟨hreads, -, hwrites⟩ := scoping_is_lexical hrun hrun' hparallel
  refine ⟨_, _, _, hrun, hrun', hparallel, ?_, hfinal, ?_⟩
  · exact ((hreads sampleBody.handle hbody bodyOfRoot.handle (.inl (.inr rfl)) rfl).1 _ _).1
  · refine hwrites sampleBody sampleRoot sampleNested.handle hbody rfl rfl _ _ hfinal ?_
      sampleNested List.mem_cons_self ?_ .var "width"
    · intro mode scope ns name value hmem
      cases List.mem_singleton.mp hmem
      exact List.mem_cons_self
    · intro hmem
      cases List.mem_singleton.mp hmem

end Run

end Stylesheet
