import Stylesheet.Proofs.Observers

/-! # Where an assignment lands

Whether a name is bound at the root is asked before an assignment is made, since an assignment that
would change a global variable from a nested scope is warned about. The question, the assignment,
the declaration on the root and the look-up each walk the path in their own way, and they agree in
every pattern of shadowing (`Run.isBoundAtRoot_predicts`). -/

namespace Stylesheet

namespace Store

variable {store : Store} {known : Set Handle} {ns : Namespace} {name : String}

/-- A name is bound at the root if the nearest binder is one. -/
theorem isBoundAtRoot_of_binder? {a : Access} {env : Env a} {target : Scope}
    (h : store.binder? env ns name = some target) :
    store.isBoundAtRoot env ns name = target.isRoot := by
  rw [isBoundAtRoot, h]

/-- The nearest binder of a name that is bound at the root is the root of the chain. -/
theorem binder?_of_isBoundAtRoot {scope : Scope}
    (h : store.isBoundAtRoot scope ns name = true) :
    store.binder? scope ns name = some scope.chainRoot.scope := by
  cases hbinder : store.binder? scope ns name with
  | none =>
    rw [isBoundAtRoot, hbinder] at h
    cases h
  | some target =>
    rw [isBoundAtRoot_of_binder? hbinder] at h
    rw [Scope.eq_chainRoot_of_mem_path (List.mem_of_find?_eq_some hbinder) h]

/-- **A root is exposed** only if no other scope of the path binds the name. -/
theorem own?_eq_none_of_exposes_root {a : Access} {env : Env a} {root : Scope}
    (hroot : root.isRoot = true) (h : store.Exposes env.path ns name root) {scope : Scope}
    (hmem : scope ∈ env.path) (hne : scope ≠ root) :
    store.own? ns (Name.normalize name) scope = none := by
  obtain ⟨nearer, outer, hpath, hnearer⟩ := h
  -- Nothing comes after a root.
  have hlast : outer = [] :=
    (List.cons.inj ((Env.path_of_append hpath).symm.trans (Scope.path_of_isRoot hroot))).2
  rw [hpath, hlast, List.mem_append, List.mem_singleton] at hmem
  exact hnearer scope (hmem.resolve_right hne)

/-- A nearer binder hides the root. -/
theorem not_exposes_root {a : Access} {env : Env a} {target root : Scope}
    (hbinder : store.binder? env ns name = some target) (htarget : target.isRoot = false)
    (hroot : root.isRoot = true) : ¬ store.Exposes env.path ns name root := by
  intro hexposes
  have hnone := own?_eq_none_of_exposes_root hroot hexposes (List.mem_of_find?_eq_some hbinder)
    (Scope.ne_of_isRoot htarget hroot)
  obtain ⟨hbinds, -⟩ := List.find?_eq_some_iff_append.mp hbinder
  have hbound : (store.own? ns (Name.normalize name) target).isSome = true := hbinds
  rw [hnone] at hbound
  cases hbound

/-- A name that is found has a binder, and one that is not has none. -/
theorem get?_eq_none_iff {a : Access} {env : Env a} :
    store.get? env ns name = none ↔ store.binder? env ns name = none := by
  rw [get?, binder?, List.findSome?_eq_none_iff, List.find?_eq_none]
  simp [own?, Table.contains]

/-- What a scope declares, it binds itself. -/
theorem binder?_declare_self (store : Store) (scope : Scope) (ns : Namespace) (name : String)
    (value : ns.Bound) :
    (store.declare scope ns name value).binder? scope ns name = some scope := by
  rw [binder?, Scope.path_eq]
  refine List.find?_cons_of_pos ?_
  exact congrArg Option.isSome (store.own?_declare_self scope name value)

/-- A declaration leaves all tables of other scopes alone. -/
theorem Coherent.bindingsOf_declare_of_ne (h : store.Coherent known) {target scope : Scope}
    (htarget : target.handle ∈ known) (hscope : scope.handle ∈ known) (hne : target ≠ scope)
    (ns : Namespace) (name : String) (value : ns.Bound) :
    (store.declare target ns name value).bindingsOf scope = store.bindingsOf scope := by
  have hkey : target.key ≠ scope.key := fun hkey => hne (h.eq_of_key_eq htarget hscope hkey)
  simp [bindingsOf, declare, setTableOf, Std.ExtTreeMap.getElem?_insert, hkey]

/-- A declaration on the root changes nothing else but what is remembered of roots. -/
theorem Coherent.exists_roots_of_declareAtRoot (h : store.Coherent known) {scope : Scope}
    (hscope : scope.handle ∈ known) (ns : Namespace) (name : String) (value : ns.Bound) :
    ∃ roots, ((declareAtRoot scope ns name value).run store).2 =
      { store.declare scope.chainRoot.scope ns name value with roots := roots } := by
  obtain ⟨roots, hafter⟩ := h.exists_roots_of_write hscope .atRoot ns name value
  rw [WriteMode.target?, scope.getLast?_path, Option.elim_some] at hafter
  exact ⟨roots, hafter⟩

end Store

namespace Run

variable {actions : List Action} {forest : Forest}

/-- **Asking whether a name is bound at the root tells where an assignment lands.** At any moment of
a run, compare what comes of an assignment in a scope with what comes of a declaration on the root.
- If the name is bound at the root, both come to the same but for what has been remembered of roots,
  and every environment has the same root in both. Overwriting an existing binding succeeds, and it
  comes to the same as the assignment.
- If it is not, and the name is bound on the path, the assignment leaves all tables of the root alone
  and the scope reads the new value, while after the declaration it reads the old one.
- If it is not bound at all, then after the assignment the scope finds it bound at the root exactly if
  the scope is the root. -/
theorem isBoundAtRoot_predicts (h : Run actions forest) {scope : Scope}
    (hscope : scope.handle ∈ forest.known) (ns : Namespace) (name : String) (value : ns.Bound) :
    let global := forest.store.isBoundAtRoot scope ns name
    let assigned := (forest.after (.write .existingOrHere scope ns name value)).store
    let declared := (forest.after (.write .atRoot scope ns name value)).store
    (global = true →
      declared = { assigned with roots := declared.roots } ∧
      (∀ handle ∈ forest.known,
        ((Store.rootOf handle.env).run declared).1 = ((Store.rootOf handle.env).run assigned).1) ∧
      forest.store.overwrite scope ns name value = .ok assigned) ∧
    (global = false → ∀ old, forest.store.get? scope ns name = some old →
      (∀ root ∈ scope.path, root.isRoot = true →
        assigned.bindingsOf root = forest.store.bindingsOf root) ∧
      assigned.get? scope ns name = some value ∧ declared.get? scope ns name = some old) ∧
    (global = false → forest.store.get? scope ns name = none →
      (assigned.isBoundAtRoot scope ns name = true ↔ scope.isRoot = true)) := by
  intro global assigned declared
  have hcoherent := h.coherent
  have hassigned : assigned = forest.store.declare
      ((forest.store.binder? scope ns name).getD scope) ns name value :=
    forest.store.assign_eq scope ns name value
  obtain ⟨roots, hroots⟩ := hcoherent.exists_roots_of_declareAtRoot hscope ns name value
  have hdeclared : declared =
      { forest.store.declare scope.chainRoot.scope ns name value with roots := roots } := hroots
  have hknown : ∀ target ∈ scope.path, target.handle ∈ forest.known :=
    fun _ hmem => hcoherent.mem_of_mem_path hscope hmem
  refine ⟨fun hglobal => ?_, fun hglobal old hold => ?_, fun _ hunbound => ?_⟩
  · have hbinder := Store.binder?_of_isBoundAtRoot hglobal
    rw [hbinder, Option.getD_some] at hassigned
    refine ⟨?_, fun handle hhandle => ?_, ?_⟩
    · rw [hdeclared, hassigned]
    · -- Whatever has been remembered, the root is the one that the links lead to.
      have hafter : ∀ mode : WriteMode,
          (forest.after (.write mode scope ns name value)).store.Coherent forest.known :=
        fun mode => hcoherent.write hscope mode ns name value
      have hroot := ((hafter .atRoot).rootOf hhandle).1
      have hroot' := ((hafter .existingOrHere).rootOf hhandle).1
      exact hroot.trans hroot'.symm
    · rw [Store.overwrite_eq, hbinder, hassigned]
  · obtain ⟨target, hbinder⟩ : ∃ target, forest.store.binder? scope ns name = some target := by
      refine Option.ne_none_iff_exists'.mp fun hnone => ?_
      cases hold.symm.trans (Store.get?_eq_none_iff.mpr hnone)
    have htarget : target ∈ scope.path := List.mem_of_find?_eq_some hbinder
    have hnested : target.isRoot = false :=
      (Store.isBoundAtRoot_of_binder? hbinder).symm.trans hglobal
    rw [hbinder, Option.getD_some] at hassigned
    refine ⟨fun root hmem hroot => ?_, ?_, ?_⟩
    · rw [hassigned]
      exact hcoherent.bindingsOf_declare_of_ne (hknown _ htarget) (hknown _ hmem)
        (Scope.ne_of_isRoot hnested hroot) ns name value
    · rw [hassigned]
      exact (hcoherent.get?_declare (hknown _ htarget) hscope ns name value).1
        (Store.exposes_of_binder? hbinder)
    · rw [hdeclared, ← hold]
      exact (hcoherent.get?_declare (hknown _ scope.chainRoot_mem_path) hscope ns name value).2
        (Store.not_exposes_root hbinder hnested rfl)
  · rw [Store.get?_eq_none_iff.mp hunbound, Option.getD_none] at hassigned
    rw [hassigned, Store.isBoundAtRoot_of_binder? (forest.store.binder?_declare_self _ _ _ _)]

/-- The writes of the sample show all three cases. The variable is global for the body, and
overwriting it comes to what the assignment comes to. The nested scope binds it itself, so it reads
the new value after an assignment and the old one after a declaration on the root. And a name that is
bound nowhere becomes a local one there. -/
theorem shadowing_predicts_assignment :
    ∃ forest, Run shadowing forest ∧
      forest.store.overwrite sampleBody .var "main-color" .null =
        .ok (forest.after (.write .existingOrHere sampleBody .var "main-color" .null)).store ∧
      (forest.after (.write .existingOrHere sampleNested .var "main-color" .null)).store.get?
        sampleNested .var "main-color" = some .null ∧
      (forest.after (.write .atRoot sampleNested .var "main-color" .null)).store.get?
        sampleNested .var "main-color" = some (.bool true) ∧
      (forest.after (.write .existingOrHere sampleNested .var "width" .null)).store.isBoundAtRoot
        sampleNested .var "width" ≠ true := by
  have hbody : sampleBody.handle ∈ (Forest.ofActions shadowing).known :=
    known_shadowing _ (by simp)
  have hnested : sampleNested.handle ∈ (Forest.ofActions shadowing).known :=
    known_shadowing _ (by simp)
  obtain ⟨hglobal, -, -⟩ := isBoundAtRoot_predicts run_shadowing hbody .var "main-color" .null
  obtain ⟨-, hbound, -⟩ := isBoundAtRoot_predicts run_shadowing hnested .var "main-color" .null
  obtain ⟨-, -, hunbound⟩ := isBoundAtRoot_predicts run_shadowing hnested .var "width" .null
  obtain ⟨-, hassigned, hdeclared⟩ := hbound rfl (.bool true) rfl
  refine ⟨_, run_shadowing, (hglobal rfl).2.2, hassigned, hdeclared, ?_⟩
  rw [ne_eq, hunbound rfl rfl]
  exact Bool.false_ne_true

end Run

end Stylesheet
