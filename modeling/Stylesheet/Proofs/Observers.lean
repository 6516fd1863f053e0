import Stylesheet.Proofs.Lexical
import Stylesheet.Proofs.SearchOrder

/-! # Who sees a write

A write lands in one scope, but it is read from many: from scopes inside that one, however deep, and
from views of these, unless a nearer scope binds the name itself. So a path **exposes** a scope for
a name if nothing nearer on the path binds it (`Store.Exposes`), and the environments whose paths
expose the scope that is written are just those that read the value afterwards
(`Store.Coherent.get?_declare`). For all others, and for everything else that may be asked, nothing
has changed (`Run.write_is_seen`). -/

namespace Stylesheet

namespace Store

variable {store other : Store} {known : Set Handle}

/-! ## Exposed scopes -/

/-- A path **exposes** one of its scopes for a name if no nearer scope binds the name. -/
def Exposes (store : Store) (path : List Scope) (ns : Namespace) (name : String)
    (target : Scope) : Prop :=
  ∃ nearer outer, path = nearer ++ target :: outer ∧
    ∀ scope ∈ nearer, store.own? ns (Name.normalize name) scope = none

/-- The first scope of a path is exposed, and it exposes the others if it does not bind the name. -/
theorem exposes_cons {scope target : Scope} {rest : List Scope} {ns : Namespace} {name : String} :
    store.Exposes (scope :: rest) ns name target ↔ scope = target ∨
      store.own? ns (Name.normalize name) scope = none ∧ store.Exposes rest ns name target := by
  constructor
  · rintro ⟨nearer, outer, hpath, hnearer⟩
    cases nearer with
    | nil => exact .inl (List.cons.inj hpath).1
    | cons first nearer =>
      obtain ⟨rfl, hrest⟩ := List.cons.inj hpath
      exact .inr ⟨hnearer scope List.mem_cons_self, nearer, outer, hrest,
        fun inner hinner => hnearer inner (List.mem_cons_of_mem _ hinner)⟩
  · rintro (rfl | ⟨hscope, nearer, outer, rfl, hnearer⟩)
    · exact ⟨[], rest, rfl, nofun⟩
    · refine ⟨scope :: nearer, outer, rfl, fun inner hinner => ?_⟩
      rcases List.mem_cons.mp hinner with rfl | hinner
      · exact hscope
      · exact hnearer inner hinner

/-- The nearest binder of a name is exposed. -/
theorem exposes_of_binder? {a : Access} {env : Env a} {ns : Namespace} {name : String}
    {target : Scope} (h : store.binder? env ns name = some target) :
    store.Exposes env.path ns name target := by
  obtain ⟨-, nearer, outer, hpath, hnearer⟩ := List.find?_eq_some_iff_append.mp h
  refine ⟨nearer, outer, hpath, fun scope hscope => ?_⟩
  simpa [Table.contains, own?] using hnearer scope hscope

/-! ## Reading after a declaration -/

/-- What was declared is bound. -/
theorem own?_declare_self (store : Store) (target : Scope) {ns : Namespace} (name : String)
    (value : ns.Bound) :
    (store.declare target ns name value).own? ns (Name.normalize name) target = some value := by
  simp [own?, store.tableOf_declare rfl]

/-- A declaration leaves scopes with other keys alone. -/
theorem own?_declare_of_key_ne (store : Store) {target scope : Scope}
    (hkey : target.key ≠ scope.key) (ns : Namespace) (name : String) (value : ns.Bound)
    (wanted : Namespace) (text : String) :
    (store.declare target ns name value).own? wanted text scope = store.own? wanted text scope := by
  rw [own?, store.tableOf_declare_of_ne fun h => absurd h hkey, own?]

/-- A declaration leaves other names and other namespaces alone. -/
theorem own?_declare_of_ne (store : Store) (target : Scope) {ns wanted : Namespace}
    {name other : String} (hne : ns ≠ wanted ∨ Name.ofRaw name ≠ .ofRaw other) (value : ns.Bound)
    (scope : Scope) :
    (store.declare target ns name value).own? wanted (Name.normalize other) scope =
      store.own? wanted (Name.normalize other) scope := by
  have hcell : ¬ Landing.IsIn ⟨target, ns, .ofRaw name, value⟩ scope wanted (.ofRaw other) := by
    rintro ⟨hns, -, hname⟩
    rcases hne with hne | hne
    · exact hne hns
    · exact hne hname
  have hown := store.own?_declare target name value wanted (.ofRaw other) scope
  rwa [Landing.valueIn?_eq_none.mpr hcell, Option.none_or] at hown

/-- **Along a path**, the first binding after a declaration is what was declared, if the scope is
exposed, and otherwise the one from before. -/
theorem findSome?_own?_declare (store : Store) {target : Scope} {path : List Scope}
    (hkeys : ∀ scope ∈ path, target.key = scope.key → target = scope) (ns : Namespace)
    (name : String) (value : ns.Bound) :
    (store.Exposes path ns name target →
      path.findSome? ((store.declare target ns name value).own? ns (Name.normalize name)) =
        some value) ∧
    (¬ store.Exposes path ns name target →
      path.findSome? ((store.declare target ns name value).own? ns (Name.normalize name)) =
        path.findSome? (store.own? ns (Name.normalize name))) := by
  induction path with
  | nil =>
    refine ⟨?_, fun _ => rfl⟩
    rintro ⟨nearer, outer, hpath, -⟩
    simp at hpath
  | cons scope rest ih =>
    obtain ⟨hexposed, hhidden⟩ := ih fun inner hinner => hkeys inner (List.mem_cons_of_mem _ hinner)
    rw [exposes_cons, findSome?_cons_eq_or, findSome?_cons_eq_or]
    by_cases hscope : scope = target
    · subst hscope
      rw [own?_declare_self]
      exact ⟨fun _ => rfl, fun hnot => absurd (.inl rfl) hnot⟩
    · -- Another scope has another key, and it answers as before.
      have hkey : target.key ≠ scope.key := fun hkey =>
        hscope (hkeys scope List.mem_cons_self hkey).symm
      rw [store.own?_declare_of_key_ne hkey]
      cases hown : store.own? ns (Name.normalize name) scope with
      | none => simpa [hscope] using ⟨hexposed, hhidden⟩
      | some bound => simp [hscope]

/-- **Who reads a declaration**: an environment that exposes the scope for the name does, and any
other reads what it read before. -/
theorem Coherent.get?_declare (h : store.Coherent known) {target : Scope}
    (htarget : target.handle ∈ known) {a : Access} {env : Env a} (henv : env.handle ∈ known)
    (ns : Namespace) (name : String) (value : ns.Bound) :
    (store.Exposes env.path ns name target →
      (store.declare target ns name value).get? env ns name = some value) ∧
    (¬ store.Exposes env.path ns name target →
      (store.declare target ns name value).get? env ns name = store.get? env ns name) := by
  refine store.findSome?_own?_declare (fun scope hscope hkey => ?_) ns name value
  exact h.eq_of_key_eq htarget (h.mem_of_mem_path henv hscope) hkey

/-- What an environment reads is a matter of what the scopes of its path bind. -/
theorem get?_congr {ns : Namespace} {name : String}
    (h : ∀ scope, other.own? ns (Name.normalize name) scope =
      store.own? ns (Name.normalize name) scope) {a : Access} (env : Env a) :
    other.get? env ns name = store.get? env ns name ∧
      other.isBoundAtRoot env ns name = store.isBoundAtRoot env ns name := by
  have hbinder : other.binder? env ns name = store.binder? env ns name := by
    unfold binder?
    congr 1
    funext scope
    exact congrArg Option.isSome (h scope)
  constructor
  · rw [get?, funext h, get?]
  · rw [isBoundAtRoot, hbinder, isBoundAtRoot]

/-- A name may be looked up in any spelling. -/
theorem get?_of_spelling {spelling name : String} (h : Name.ofRaw spelling = .ofRaw name)
    {a : Access} {env : Env a} {ns : Namespace} :
    store.get? env ns spelling = store.get? env ns name := by
  rw [get?, get?, Name.ofRaw_eq_iff.mp h]

/-! ## Captures -/

/-- What is remembered of **captures**, with the key of the next view. -/
def captures (store : Store) :
    Nat × Std.ExtTreeMap Nat (Option View) × Std.ExtTreeMap Nat (Option (ContentBlock View)) :=
  (store.nextView, store.callers, store.contents)

/-- A step **depends on captures** alone: stores that remember the same of captures give the same
answer, and remember the same of captures afterwards. -/
def DependsOnCaptures {α : Type} (step : Scoping α) : Prop :=
  ∀ ⦃store other : Store⦄, store.captures = other.captures →
    (step.run store).1 = (step.run other).1 ∧
      (step.run store).2.captures = (step.run other).2.captures

namespace DependsOnCaptures

/-- A value depends on nothing. -/
theorem pure {α : Type} (value : α) : DependsOnCaptures (Pure.pure value) :=
  fun _ _ hsame => ⟨rfl, hsame⟩

/-- One step after another. -/
theorem bind {α β : Type} {step : Scoping α} {next : α → Scoping β} (h : DependsOnCaptures step)
    (hnext : ∀ value, DependsOnCaptures (next value)) : DependsOnCaptures (step >>= next) := by
  intro store other hsame
  obtain ⟨hanswer, hafter⟩ := h hsame
  show ((next (step.run store).1).run (step.run store).2).1 =
      ((next (step.run other).1).run (step.run other).2).1 ∧
    ((next (step.run store).1).run (step.run store).2).2.captures =
      ((next (step.run other).1).run (step.run other).2).2.captures
  rw [hanswer]
  exact hnext _ hafter

/-- Viewing an environment. -/
theorem viewOf (handle : Handle) : DependsOnCaptures (Store.viewOf handle) := by
  obtain @⟨access, env⟩ := handle
  cases access with
  | readOnly => exact .pure env
  | writable =>
    intro store other hsame
    obtain ⟨hnext, hcaptured⟩ := Prod.mk.inj hsame
    show (Env.view store.nextView _ _ : View) = .view other.nextView _ _ ∧
      (store.nextView + 1, store.callers, store.contents) =
        (other.nextView + 1, other.callers, other.contents)
    rw [hnext, hcaptured]
    exact ⟨rfl, rfl⟩

/-- Viewing a call site. -/
theorem viewOf? (handle : Option Handle) : DependsOnCaptures (Store.viewOf? handle) := by
  cases handle with
  | none => exact .pure none
  | some handle => exact (viewOf handle).bind fun view => .pure (some view)

/-- Viewing the environment of a content block. -/
theorem viewOfBlock? (block : Option (ContentBlock Handle)) :
    DependsOnCaptures (Store.viewOfBlock? block) := by
  cases block with
  | none => exact .pure none
  | some block =>
    exact (viewOf block.environment).bind fun view =>
      .pure (some (ContentBlock.mk block.nodes view))

/-- Remembering a caller. -/
theorem rememberCaller (key : Nat) {find : Scoping (Option Handle)} (h : DependsOnCaptures find) :
    DependsOnCaptures (Store.rememberCaller key find) := by
  intro store other hsame
  have hcallers : store.callers = other.callers := congrArg (·.2.1) hsame
  cases hmemory : store.callers[key]? with
  | some caller =>
    rw [run_rememberCaller_of_some hmemory, run_rememberCaller_of_some (hcallers ▸ hmemory)]
    exact ⟨rfl, hsame⟩
  | none =>
    rw [run_rememberCaller_of_none hmemory, run_rememberCaller_of_none (hcallers ▸ hmemory)]
    obtain ⟨hanswer, hafter⟩ := h.bind viewOf? hsame
    simp only [captures, Prod.mk.injEq] at hafter ⊢
    obtain ⟨hnext, hafter, hcontents⟩ := hafter
    rw [hanswer, hafter]
    exact ⟨rfl, hnext, rfl, hcontents⟩

/-- Remembering a content block. -/
theorem rememberContent (key : Nat) {find : Scoping (Option (ContentBlock Handle))}
    (h : DependsOnCaptures find) : DependsOnCaptures (Store.rememberContent key find) := by
  intro store other hsame
  have hcontents : store.contents = other.contents := congrArg (·.2.2) hsame
  cases hmemory : store.contents[key]? with
  | some content =>
    rw [run_rememberContent_of_some hmemory, run_rememberContent_of_some (hcontents ▸ hmemory)]
    exact ⟨rfl, hsame⟩
  | none =>
    rw [run_rememberContent_of_none hmemory, run_rememberContent_of_none (hcontents ▸ hmemory)]
    obtain ⟨hanswer, hafter⟩ := h.bind viewOfBlock? hsame
    simp only [captures, Prod.mk.injEq] at hafter ⊢
    obtain ⟨hnext, hcallers, hafter⟩ := hafter
    rw [hanswer, hafter]
    exact ⟨rfl, hnext, hcallers, rfl⟩

/-- Asking for the captured call site. -/
theorem callerOf {a : Access} (env : Env a) : DependsOnCaptures (Store.callerOf env) := by
  induction env with
  | view key _ inner ih => exact rememberCaller key (ih.bind fun _ => .pure _)
  | _ => exact .pure _

/-- Asking for the captured content block. -/
theorem contentOf {a : Access} (env : Env a) : DependsOnCaptures (Store.contentOf env) := by
  induction env with
  | view key _ inner ih => exact rememberContent key (ih.bind fun _ => .pure _)
  | _ => exact .pure _

end DependsOnCaptures

end Store

/-! ## A write and its readers -/

namespace Run

variable {actions : List Action} {forest : Forest}

/-- **Who sees a write.** At any moment of a run, let a scope assign to a name, declare it or declare
it on the root, and let `target` be the scope that is written: the nearest binder or else the scope
itself, the scope itself, the root of the chain. Then afterwards,
- an environment reads the value, under any spelling of the name, if the target is on its path and
  nothing nearer on the path binds the name; any other reads what it read before,
- other names, and all names in other namespaces, are read everywhere as before, and they are bound
  at the root just where they were,
- selectors, captured call sites and content blocks, and the traces of chains are everywhere those
  from before,
- all ledgers are those from before,
- of a whole session nothing has changed but the store, so the frames of all traces are as they
  were.

The options and the enclosing scopes of an environment are parts of it; no write can change them. -/
theorem write_is_seen (h : Run actions forest) {source : Scope}
    (hsource : source.handle ∈ forest.known) {ns : Namespace} {name : String} {mode : WriteMode}
    {target : Scope}
    (htarget : (mode, target) ∈
      [(.existingOrHere, (forest.store.binder? source ns name).getD source), (.here, source),
        (.atRoot, source.chainRoot.scope)]) (value : ns.Bound) :
    let after := (forest.after (.write mode source ns name value)).store
    (∀ handle ∈ forest.known, ∀ spelling : String, Name.ofRaw spelling = .ofRaw name →
      (forest.store.Exposes handle.env.path ns name target →
        after.get? handle.env ns spelling = some value) ∧
      (¬ forest.store.Exposes handle.env.path ns name target →
        after.get? handle.env ns spelling = forest.store.get? handle.env ns spelling)) ∧
    (∀ (wanted : Namespace) (other : String), ns ≠ wanted ∨ Name.ofRaw name ≠ .ofRaw other →
      ∀ handle : Handle,
        after.get? handle.env wanted other = forest.store.get? handle.env wanted other ∧
        after.isBoundAtRoot handle.env wanted other =
          forest.store.isBoundAtRoot handle.env wanted other) ∧
    (∀ handle : Handle,
      after.selector? handle.env = forest.store.selector? handle.env ∧
      ((Store.callerOf handle.env).run after).1 =
        ((Store.callerOf handle.env).run forest.store).1 ∧
      ((Store.contentOf handle.env).run after).1 =
        ((Store.contentOf handle.env).run forest.store).1) ∧
    (∀ handle ∈ forest.known,
      ((Store.traceOf handle.env).run after).1 =
        ((Store.traceOf handle.env).run forest.store).1) ∧
    after.ledgers = forest.store.ledgers ∧
    ∀ {σ : Type} (session : Session σ), session.store = forest.store →
      (Evaluation.scoping (mode.perform source ns name value)).run.run session =
        (.ok (), { session with store := after }) := by
  intro after
  have hlands : mode.target? (forest.store.binder? source ns name) source = some target := by
    simp only [List.mem_cons, Prod.mk.injEq, List.not_mem_nil, or_false] at htarget
    rcases htarget with ⟨rfl, rfl⟩ | ⟨rfl, rfl⟩ | ⟨rfl, rfl⟩
    · rfl
    · rfl
    · exact source.getLast?_path
  have hknown : target.handle ∈ forest.known :=
    h.coherent.mem_of_mem_path hsource (mode.target?_mem_path forest.store hlands)
  -- The write is a declaration in the target, but for what is remembered of roots.
  obtain ⟨roots, hafter⟩ := h.coherent.exists_roots_of_write hsource mode ns name value
  rw [hlands, Option.elim_some] at hafter
  have hstore : after = { forest.store.declare target ns name value with roots := roots } := hafter
  refine ⟨fun handle hhandle spelling hspelling => ?_, fun wanted other hne handle => ?_,
    fun handle => ?_, fun handle hhandle => ?_, ?_, ?_⟩
  · rw [Store.get?_of_spelling hspelling, Store.get?_of_spelling hspelling, hstore]
    exact h.coherent.get?_declare hknown hhandle ns name value
  · rw [hstore]
    exact Store.get?_congr (fun scope => forest.store.own?_declare_of_ne target hne value scope)
      handle.env
  · have hcaptures : after.captures = forest.store.captures := hstore ▸ rfl
    refine ⟨?_, (Store.DependsOnCaptures.callerOf handle.env hcaptures).1,
      (Store.DependsOnCaptures.contentOf handle.env hcaptures).1⟩
    have hselectors : after.selectors = forest.store.selectors := hstore ▸ rfl
    rw [Store.selector?_eq_findSome?, Store.selector?_eq_findSome?]
    unfold Store.ownSelector?
    rw [hselectors]
  · have hcoherent : after.Coherent forest.known :=
      h.coherent.write hsource mode ns name value
    show ((Store.rootOf handle.env).run after).1.trace =
      ((Store.rootOf handle.env).run forest.store).1.trace
    rw [(hcoherent.rootOf hhandle).1, (h.coherent.rootOf hhandle).1]
  · exact hstore ▸ rfl
  · intro σ session hsession
    show (Except.ok ((mode.perform source ns name value).run session.store).1,
      { session with store := ((mode.perform source ns name value).run session.store).2 }) = _
    rw [hsession]
    rfl

/-- The body of the sample is declared in the root. So what is assigned in it lands in the root and is
seen through a view of a view of the body, but not from the nested scope, which binds the variable
itself. -/
theorem shadowing_hides_assignment :
    ∃ forest, Run shadowing forest ∧
      let after := (forest.after (.write .existingOrHere sampleBody .var "main-color" .null)).store
      after.get? sampleTower .var "main_color" = some .null ∧
        after.get? sampleNested .var "main_color" = some (.bool true) := by
  refine ⟨_, run_shadowing, ?_⟩
  have hbody : sampleBody.handle ∈ (Forest.ofActions shadowing).known :=
    known_shadowing _ (by simp)
  have hbinder : (Forest.ofActions shadowing).store.binder? sampleBody .var "main-color" =
      some sampleRoot := rfl
  obtain ⟨hsees, -⟩ := @write_is_seen _ _ run_shadowing sampleBody hbody .var "main-color"
    .existingOrHere sampleRoot (by rw [hbinder]; exact .head _) .null
  have hspelling : Name.ofRaw "main_color" = .ofRaw "main-color" := Name.ext (by decide)
  constructor
  · refine (hsees sampleTower.handle (known_shadowing _ (by simp)) _ hspelling).1 ?_
    -- The path leads from the body straight to the root.
    refine ⟨[sampleBody], [], rfl, fun scope hscope => ?_⟩
    rw [List.mem_singleton.mp hscope]
    rfl
  · refine (hsees sampleNested.handle (known_shadowing _ (by simp)) _ hspelling).2 ?_
    intro hexposes
    rcases Store.exposes_cons.mp hexposes with hroot | ⟨hnested, -⟩
    · cases hroot
    · cases hnested

end Run

end Stylesheet
