import Stylesheet.Proofs.Ownership
import Stylesheet.Proofs.Writes

/-! # Where callables are declared

A callable names the scope that declares it but does not keep it alive, and a table may hold the
callable longer than that scope lives. It does not if callables are **declared locally**: each in
the very scope that declares it or further inside. Then whatever a look-up answers has been declared
in a scope that encloses the one asked, and an environment that is held keeps the scopes that enclose
it alive. So a callable that is found can be invoked (`Run.found_callable_lives`). -/

namespace Stylesheet

/-! ## Local declarations -/

/-- What is bound, if it is a callable. -/
def Namespace.callable? : (ns : Namespace) → ns.Bound → Option Callable
  | .var, _ => none
  | .mixin, callable => some callable
  | .function, callable => some callable

/-- The action **declares locally**: if it writes a callable, then it declares it in the scope that
declares the callable, or in one that is enclosed by that. -/
def Action.DeclaresLocally : Action → Prop
  | write mode scope ns _ value =>
    ∀ callable ∈ ns.callable? value, mode = .here ∧ callable.scope ∈ scope.path
  | _ => True

/-- Every landing is that of a write, and what is declared in the very scope lands there. -/
theorem exists_write_of_mem_landings {actions : List Action} {landing : Landing}
    (h : landing ∈ landings actions) :
    ∃ mode source name, .write mode source landing.ns name landing.value ∈ actions ∧
      (mode = .here → landing.scope = source) := by
  induction actions with
  | nil => cases h
  | cons action earlier ih =>
    rcases List.mem_append.mp h with hlanding | hlanding
    · -- The landing is that of the latest action.
      rw [Option.mem_toList] at hlanding
      cases action with
      | write mode source ns name value =>
        obtain ⟨target, htarget, rfl⟩ := Option.map_eq_some_iff.mp hlanding
        refine ⟨mode, source, name, List.mem_cons_self, ?_⟩
        rintro rfl
        cases htarget
        rfl
      | _ => cases hlanding
    · obtain ⟨mode, source, name, hmem, hhere⟩ := ih hlanding
      exact ⟨mode, source, name, List.mem_cons_of_mem _ hmem, hhere⟩

/-- If the declaring scope of a callable is alive, the scope for an invocation is made in it. -/
theorem Evaluation.run_bodyScope {σ : Type} {session : Session σ} {callable : Callable}
    (halive : callable.scope.isAlive session.held = true) (caller : Handle)
    (content : Option (ContentBlock Handle)) :
    let made := (Store.newBody callable.scope caller content).run session.store
    (bodyScope callable caller content).run.run session =
      (.ok (some made.1), { session with store := made.2 }) := by
  have hrun : (ifAlive callable.scope).run.run session = (.ok (some callable.scope), session) := by
    show (Except.ok (if callable.scope.isAlive session.held then some callable.scope else none),
      session) = _
    rw [halive, if_pos rfl]
  rw [bodyScope, ExceptT.run_bind, StateT.run_bind, hrun]
  rfl

/-- The scope of a body is nested in the declaring one. -/
theorem Store.parent?_newBody (declaring : Scope) (caller : Handle)
    (content : Option (ContentBlock Handle)) (store : Store) :
    ((newBody declaring caller content).run store).1.parent? = some declaring := by
  cases content <;> rfl

namespace Run

variable {actions : List Action} {forest : Forest}

/-- What the actions of a run use is known in the end. -/
theorem known_of_uses (h : Run actions forest) {action : Action} (hmem : action ∈ actions) :
    ∀ handle ∈ action.uses, handle ∈ forest.known := by
  induction h with
  | start => cases hmem
  | act _ latest huses ih =>
    intro handle huse
    rcases List.mem_cons.mp hmem with rfl | hmem
    · exact .inl (huses handle huse)
    · exact .inl (ih hmem handle huse)

/-- **If callables are declared locally**, then a scope binds only callables whose declaring scope
encloses it. -/
theorem scope_mem_path_of_own? (h : Run actions forest)
    (hlocal : ∀ action ∈ actions, action.DeclaresLocally) {scope : Scope}
    (hscope : scope.handle ∈ forest.known) {ns : Namespace} {name : Name} {value : ns.Bound}
    (hown : forest.store.own? ns name.text scope = some value) :
    ∀ callable ∈ ns.callable? value, callable.scope ∈ scope.path := by
  intro callable hcallable
  rw [h.own?_eq] at hown
  obtain ⟨landing, hmem, hvalue⟩ := List.exists_of_findSome?_eq_some hown
  obtain ⟨mode, source, raw, hwrite, hhere⟩ := exists_write_of_mem_landings hmem
  obtain ⟨target, ns', name', value'⟩ := landing
  rw [Landing.valueIn?] at hvalue
  split at hvalue
  · next hin =>
    have hkey : target.key = scope.key := hin.2.1
    obtain rfl : ns' = ns := hin.1
    cases hvalue
    obtain ⟨rfl, hpath⟩ := hlocal _ hwrite callable hcallable
    obtain rfl := hhere rfl
    -- The scope that the callable was written to is the scope itself.
    have hknown := h.known_of_uses hwrite _ (List.mem_singleton_self _)
    obtain rfl := h.coherent.eq_of_key_eq hknown hscope hkey
    exact hpath
  · cases hvalue

/-- A look-up answers only callables whose declaring scope encloses the environment. -/
theorem scope_mem_path_of_get? (h : Run actions forest)
    (hlocal : ∀ action ∈ actions, action.DeclaresLocally) {a : Access} {env : Env a}
    (henv : env.handle ∈ forest.known) {ns : Namespace} {name : String} {value : ns.Bound}
    (hget : forest.store.get? env ns name = some value) :
    ∀ callable ∈ ns.callable? value, callable.scope ∈ env.path := by
  intro callable hcallable
  obtain ⟨scope, hmem, hown⟩ := List.exists_of_findSome?_eq_some hget
  change forest.store.own? ns (Name.ofRaw name).text scope = some value at hown
  have hscope := h.coherent.mem_of_mem_path henv hmem
  have hpath := h.scope_mem_path_of_own? hlocal hscope hown callable hcallable
  exact (Env.path_suffix_of_mem hmem).subset hpath

/-- **A callable that is found lives.** Take a run in which callables are only declared locally: each
in the scope that declares it or in one that is enclosed by that. At every moment, however many
environments have been dropped, look-ups of mixins and functions in an environment that is held, or
that something held keeps alive, answer callables whose declaring scope is alive and encloses the
environment. So whoever calls it, and with whatever content block, a scope for its body is made, and
that scope is nested in the very scope that declares the callable. -/
theorem found_callable_lives (h : Run actions forest)
    (hlocal : ∀ action ∈ actions, action.DeclaresLocally) :
    ∀ owner ∈ forest.held, ∀ handle : Handle, owner.Reaches handle → ∀ (name : String)
      (callable : Callable),
      forest.store.get? handle.env .mixin name = some callable ∨
        forest.store.get? handle.env .function name = some callable →
      callable.scope ∈ handle.env.path ∧ callable.scope.isAlive forest.held = true ∧
        ∀ {σ : Type} (session : Session σ), session.held = forest.held →
          ∀ (caller : Handle) (content : Option (ContentBlock Handle)),
            ∃ body after,
              (Evaluation.bodyScope callable caller content).run.run session =
                (.ok (some body), after) ∧
              body.parent? = some callable.scope := by
  intro owner howner handle hreaches name callable hfound
  have hknown := h.coherent.mem_of_reaches (h.known_of_held owner howner) hreaches
  have hpath : callable.scope ∈ handle.env.path := by
    rcases hfound with hget | hget
    · exact h.scope_mem_path_of_get? hlocal hknown hget callable rfl
    · exact h.scope_mem_path_of_get? hlocal hknown hget callable rfl
  -- What is held reaches the environment, and that reaches the scopes of its path.
  have hscope := Env.reaches_of_mem_path hpath
  have halive : callable.scope.isAlive forest.held = true :=
    (Scope.isAlive_iff h.coherent h.known_of_held (h.coherent.mem_of_reaches hknown hscope)).mpr
      ⟨owner, howner, hreaches.trans hscope⟩
  refine ⟨hpath, halive, fun session hheld caller content => ?_⟩
  exact ⟨_, _, Evaluation.run_bodyScope (hheld ▸ halive) caller content,
    Store.parent?_newBody _ _ _ _⟩

/-- A mixin that the nested scope of the sample declares. -/
def themeMixin : Callable :=
  ⟨.mixin, .ofRaw "theme", [], none, 0, [], false, sampleNested⟩

/-- A scope that the declaring scope encloses. -/
def themeUser : Scope := .nested 2 sampleSnapshot sampleNested

/-- The mixin is declared where it belongs, and then all but the innermost scope is dropped. -/
def declaredLocally : List Action :=
  [.drop sampleNested.handle, .drop sampleRoot.handle, .nested sampleNested none,
    .write .here sampleNested .mixin "theme" themeMixin, .nested sampleRoot none,
    .root sampleSnapshot ⟨0⟩]

/-- The mixin is found from the scope that is left, and it can be invoked. -/
theorem themeMixin_lives :
    ∃ forest, Run declaredLocally forest ∧
      (∀ action ∈ declaredLocally, action.DeclaresLocally) ∧
      forest.held = [themeUser.handle] ∧
      forest.store.get? themeUser .mixin "theme" = some themeMixin ∧
      ∀ session : Session Unit, session.held = forest.held →
        ∃ body after,
          (Evaluation.bodyScope themeMixin themeUser.handle none).run.run session =
            (.ok (some body), after) ∧
          body.parent? = some sampleNested := by
  have hrun : Run declaredLocally (.ofActions declaredLocally) := by
    refine (((((Run.start.act _ ?_).act _ ?_).act _ ?_).act _ ?_).act _ ?_).act _ ?_
    all_goals intro handle hmem
    · cases hmem
    all_goals rw [List.mem_singleton.mp hmem]
    · exact .inr rfl
    · exact .inr rfl
    · exact .inl (.inr rfl)
    · exact .inl (.inl (.inl (.inr rfl)))
    · exact .inl (.inl (.inl (.inr rfl)))
  have hlocal : ∀ action ∈ declaredLocally, action.DeclaresLocally := by
    intro action hmem
    simp only [declaredLocally, List.mem_cons, List.not_mem_nil, or_false] at hmem
    rcases hmem with rfl | rfl | rfl | rfl | rfl | rfl
    all_goals try trivial
    rintro callable hcallable
    cases hcallable
    exact ⟨rfl, List.mem_cons_self⟩
  have hget : (Forest.ofActions declaredLocally).store.get? themeUser .mixin "theme" =
      some themeMixin := by
    rfl
  obtain ⟨-, -, hinvoke⟩ := found_callable_lives hrun hlocal themeUser.handle
    List.mem_cons_self themeUser.handle (.refl _) "theme" themeMixin (.inl hget)
  exact ⟨_, hrun, hlocal, rfl, hget, fun session hheld =>
    hinvoke session hheld themeUser.handle none⟩

end Run

end Stylesheet
