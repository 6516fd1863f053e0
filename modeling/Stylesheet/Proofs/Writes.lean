import Stylesheet.Proofs.Forest

/-! # The log of writes

A write **lands** in a cell, which is a scope, a namespace and a name. Where it lands depends on its
mode and on the earlier writes, but on nothing that the store holds; so the actions of a run alone
decide the log of landings (`landings`). The tables of the store hold just what the log says last
(`Run.own?_eq`), and look-ups and assignments, each of which is a walk of its own, agree on the
nearest scope in which a write of the name has landed (`Run.binder?_eq`,
`Run.reads_follow_landings`). -/

namespace Stylesheet

/-- A **landing**: a write with the scope that it landed in. -/
structure Landing where
  /-- The scope. -/
  scope : Scope
  /-- The namespace. -/
  ns : Namespace
  /-- The name, in its normalized spelling. -/
  name : Name
  /-- What was written. -/
  value : ns.Bound

namespace Landing

/-- The write landed in the **cell** of a scope, a namespace and a name. -/
def IsIn (landing : Landing) (scope : Scope) (ns : Namespace) (name : Name) : Prop :=
  landing.ns = ns ∧ landing.scope.key = scope.key ∧ landing.name = name

instance (landing : Landing) (scope : Scope) (ns : Namespace) (name : Name) :
    Decidable (landing.IsIn scope ns name) :=
  inferInstanceAs (Decidable (_ ∧ _ ∧ _))

/-- What the landing leaves in a cell, if this is the cell that it is in. -/
def valueIn? (landing : Landing) (ns : Namespace) (name : Name) (scope : Scope) :
    Option ns.Bound :=
  if h : landing.IsIn scope ns name then some (h.1 ▸ landing.value) else none

@[simp] theorem valueIn?_eq_none {landing : Landing} {ns : Namespace} {name : Name}
    {scope : Scope} : landing.valueIn? ns name scope = none ↔ ¬ landing.IsIn scope ns name := by
  simp [valueIn?]

end Landing

/-- The value of the **last** write that landed in a cell. The latest landing stands in front. -/
def lastIn? (log : List Landing) (ns : Namespace) (name : Name) (scope : Scope) :
    Option ns.Bound :=
  log.findSome? (·.valueIn? ns name scope)

/-- The **nearest** scope of a path with a cell in which a write of a name has landed. -/
def nearest? (log : List Landing) (ns : Namespace) (name : Name) (path : List Scope) :
    Option Scope :=
  path.find? fun scope => (lastIn? log ns name scope).isSome

/-- The scope in which a write **lands**, given the nearest one in which a write of the name has
landed before. -/
def WriteMode.target? (nearest : Option Scope) (scope : Scope) : WriteMode → Option Scope
  | here => some scope
  | atRoot => scope.path.getLast?
  | existing => nearest
  | existingOrHere => some (nearest.getD scope)

/-- The landing of an action after the earlier ones, if the action is a write and it lands. -/
def Action.landing? (log : List Landing) : Action → Option Landing
  | write mode scope ns name value =>
    (mode.target? (nearest? log ns (.ofRaw name) scope.path) scope).map fun target =>
      ⟨target, ns, .ofRaw name, value⟩
  | _ => none

/-- The landings of a number of actions. In both lists the latest stands in front. -/
def landings : List Action → List Landing
  | [] => []
  | action :: earlier => (action.landing? (landings earlier)).toList ++ landings earlier

/-- Nothing has landed in a cell that has no last landing. -/
theorem lastIn?_eq_none {log : List Landing} {ns : Namespace} {name : Name} {scope : Scope} :
    lastIn? log ns name scope = none ↔ ∀ landing ∈ log, ¬ landing.IsIn scope ns name := by
  simp [lastIn?]

/-- The last landing in a cell is the latest one, if that is in the cell, or else an earlier one. -/
theorem lastIn?_toList_append (latest : Option Landing) (log : List Landing) (ns : Namespace)
    (name : Name) (scope : Scope) :
    lastIn? (latest.toList ++ log) ns name scope =
      (latest.bind (·.valueIn? ns name scope)).or (lastIn? log ns name scope) := by
  cases latest with
  | none => rfl
  | some landing =>
    cases h : landing.valueIn? ns name scope <;> simp [lastIn?, h]

/-! ## Landings in the store -/

namespace Store

variable {store : Store} {known : Set Handle}

/-- Scopes with one key have one table. -/
theorem tableOf_congr {scope other : Scope} (h : scope.key = other.key) (ns : Namespace) :
    store.tableOf scope ns = store.tableOf other ns := by
  simp [tableOf, bindingsOf, h]

/-- What a scope binds is a matter of the tables. -/
theorem own?_of_tables_eq {after : Store} (h : after.tables = store.tables) (ns : Namespace)
    (text : String) (scope : Scope) : after.own? ns text scope = store.own? ns text scope := by
  simp [own?, tableOf, bindingsOf, h]

/-- At first nothing is bound. -/
theorem own?_empty (ns : Namespace) (text : String) (scope : Scope) :
    Store.empty.own? ns text scope = none := by
  cases ns <;>
    simp [own?, tableOf, bindingsOf, Store.empty, Bindings.empty, Bindings.table, Table.get?]

/-- A declaration binds the name in the table of the scope. -/
theorem tableOf_declare (store : Store) {target scope : Scope} (hkey : target.key = scope.key)
    {ns : Namespace} (raw : String) (value : ns.Bound) :
    (store.declare target ns raw value).tableOf scope ns =
      (store.tableOf scope ns).bind (.ofRaw raw) value := by
  rw [← tableOf_congr hkey, declare, tableOf_setTableOf, tableOf_congr hkey]

/-- A declaration leaves the tables of other namespaces and of other scopes alone. -/
theorem tableOf_declare_of_ne (store : Store) {target scope : Scope} {ns wanted : Namespace}
    (hother : target.key = scope.key → ns ≠ wanted) (raw : String) (value : ns.Bound) :
    (store.declare target ns raw value).tableOf scope wanted = store.tableOf scope wanted := by
  by_cases hkey : target.key = scope.key
  · rw [← tableOf_congr hkey, declare, tableOf_setTableOf_of_ne _ _ (hother hkey),
      tableOf_congr hkey]
  · exact tableOf_setTableOf_of_key_ne _ hkey _ _ _

/-- **A declaration lands in one cell** and leaves all others as they were. -/
theorem own?_declare (store : Store) (target : Scope) {ns : Namespace} (raw : String)
    (value : ns.Bound) (wanted : Namespace) (name : Name) (scope : Scope) :
    (store.declare target ns raw value).own? wanted name.text scope =
      (Landing.valueIn? ⟨target, ns, .ofRaw raw, value⟩ wanted name scope).or
        (store.own? wanted name.text scope) := by
  by_cases hkey : target.key = scope.key
  · by_cases hns : ns = wanted
    · subst hns
      by_cases hname : Name.ofRaw raw = name
      · subst hname
        simp [own?, store.tableOf_declare hkey, Landing.valueIn?, Landing.IsIn, hkey]
      · have htext : Name.normalize raw ≠ name.text := fun h => hname (Name.ext h)
        simp [own?, store.tableOf_declare hkey, Landing.valueIn?, Landing.IsIn, hname, htext]
    · -- The table of another namespace is left alone.
      simp [own?, store.tableOf_declare_of_ne (fun _ => hns), Landing.valueIn?, Landing.IsIn, hns]
  · -- So are the tables of another scope.
    have hother : target.key = scope.key → ns ≠ wanted := fun h => absurd h hkey
    simp [own?, store.tableOf_declare_of_ne hother, Landing.valueIn?, Landing.IsIn, hkey]

/-- **A write** declares the name in the scope in which it lands, if it lands. Beyond that, nothing
changes but what is remembered of roots. -/
theorem Coherent.exists_roots_of_write (h : store.Coherent known) {scope : Scope}
    (hscope : scope.handle ∈ known) (mode : WriteMode) (ns : Namespace) (name : String)
    (value : ns.Bound) :
    ∃ roots, ((mode.perform scope ns name value).run store).2 =
      { (mode.target? (store.binder? scope ns name) scope).elim store
          (store.declare · ns name value) with roots := roots } := by
  cases mode with
  | here => exact ⟨store.roots, rfl⟩
  | atRoot =>
    -- Asking for the root remembers it on the way.
    obtain ⟨roots, hafter⟩ := exists_roots_of_rootOf scope store
    refine ⟨roots, ?_⟩
    have hrun : ((WriteMode.atRoot.perform scope ns name value).run store).2 =
        ((Store.rootOf scope).run store).2.declare ((Store.rootOf scope).run store).1.scope ns name
          value := rfl
    rw [hrun, (h.rootOf hscope).1, hafter, WriteMode.target?, scope.getLast?_path,
      Option.elim_some]
    rfl
  | existing => exact ⟨_, store.overwritten_eq scope ns name value⟩
  | existingOrHere => exact ⟨_, store.assign_eq scope ns name value⟩

/-- The tables after a write are those after the declaration. -/
theorem Coherent.tables_write (h : store.Coherent known) {scope : Scope}
    (hscope : scope.handle ∈ known) (mode : WriteMode) (ns : Namespace) (name : String)
    (value : ns.Bound) :
    ((mode.perform scope ns name value).run store).2.tables =
      ((mode.target? (store.binder? scope ns name) scope).elim store
        (store.declare · ns name value)).tables := by
  obtain ⟨roots, hafter⟩ := h.exists_roots_of_write hscope mode ns name value
  rw [hafter]

/-- After a write, what a scope binds is the value that has landed there, or what it bound before. -/
theorem Coherent.own?_write (h : store.Coherent known) {source : Scope}
    (hsource : source.handle ∈ known) (mode : WriteMode) (ns : Namespace) (raw : String)
    (value : ns.Bound) (wanted : Namespace) (name : Name) (scope : Scope) :
    ((mode.perform source ns raw value).run store).2.own? wanted name.text scope =
      ((mode.target? (store.binder? source ns raw) source).bind fun target =>
          Landing.valueIn? ⟨target, ns, .ofRaw raw, value⟩ wanted name scope).or
        (store.own? wanted name.text scope) := by
  have htables := h.tables_write hsource mode ns raw value
  rw [own?_of_tables_eq htables]
  cases mode.target? (store.binder? source ns raw) source with
  | none => rfl
  | some target => exact own?_declare store target raw value wanted name scope

/-- **No other action** changes a table. -/
theorem Coherent.tables_perform (h : store.Coherent known) (action : Action)
    (huses : ∀ handle ∈ action.uses, handle ∈ known)
    (hwrites : ∀ mode scope ns name value, action ≠ .write mode scope ns name value) :
    (action.perform.run store).2.tables = store.tables := by
  cases action with
  | root | nested | rule | body | view | select | hold | drop => rfl
  | viewOf | rootOf | callerOf | contentOf =>
    exact congrArg Prod.fst (h.written_of_asks huses rfl)
  | write mode scope ns name value => exact absurd rfl (hwrites mode scope ns name value)
  | warnAssignment scope logger name location =>
    have hscope : scope.handle ∈ known := huses _ (List.mem_singleton_self _)
    exact (h.warned hscope (run_warnAssignment store scope logger name location)).2
  | warnFalseResult scope logger location =>
    have hscope : scope.handle ∈ known := huses _ (List.mem_singleton_self _)
    exact (h.warned hscope (run_warnFalseResult store scope logger location)).2

end Store

/-- An action that makes a scope hands it out, with the next key. -/
theorem Action.made_of_makesScope {action : Action} (h : action.makesScope = true)
    (store : Store) : ∃ made : Scope,
      (action.perform.run store).1 = some made.handle ∧ made.key = store.nextScope := by
  cases action with
  | root | nested | rule => exact ⟨_, rfl, rfl⟩
  | body declaring caller content => cases content <;> exact ⟨_, rfl, rfl⟩
  | _ => cases h

/-! ## Landings in the course of a run -/

namespace Run

variable {actions : List Action} {forest : Forest}

/-- If tables hold what the log says, the nearest binder is the nearest scope of the log. -/
theorem binder?_eq_of_own? {store : Store} {log : List Landing}
    (h : ∀ ns (name : Name) scope, store.own? ns name.text scope = lastIn? log ns name scope)
    {a : Access} (env : Env a) (ns : Namespace) (name : String) :
    store.binder? env ns name = nearest? log ns (.ofRaw name) env.path := by
  unfold Store.binder? nearest?
  congr 1
  funext scope
  rw [← h ns (.ofRaw name) scope]
  rfl

/-- **The tables hold the last landings**: after every run a scope binds to a name just the value of
the last write that landed in the cell. -/
theorem own?_eq (h : Run actions forest) (ns : Namespace) (name : Name) (scope : Scope) :
    forest.store.own? ns name.text scope = lastIn? (landings actions) ns name scope := by
  induction h generalizing ns name scope with
  | start => exact Store.own?_empty ns name.text scope
  | @act actions forest hrun action huses ih =>
    have hcoherent := hrun.coherent
    rw [landings, lastIn?_toList_append, ← ih]
    by_cases hwrite : ∃ mode target ns raw value, action = .write mode target ns raw value
    · -- The nearest binder is the nearest scope of the log, so a write lands where the log says.
      obtain ⟨mode, source, ns', raw, value, rfl⟩ := hwrite
      have hsource : source.handle ∈ forest.known := huses _ (List.mem_singleton_self _)
      rw [Action.landing?, Option.bind_map, ← binder?_eq_of_own? ih]
      exact hcoherent.own?_write hsource mode ns' raw value ns name scope
    · -- Any other action neither lands nor changes a table.
      have hlanding : action.landing? (landings actions) = none := by
        cases action with
        | write mode target ns raw value => exact absurd ⟨mode, target, ns, raw, value, rfl⟩ hwrite
        | _ => rfl
      have htables := hcoherent.tables_perform action huses fun mode target ns raw value heq =>
        hwrite ⟨mode, target, ns, raw, value, heq⟩
      rw [hlanding]
      exact Store.own?_of_tables_eq htables ns name.text scope

/-- The nearest binder of a name is the nearest scope in which a write of it has landed. -/
theorem binder?_eq (h : Run actions forest) {a : Access} (env : Env a) (ns : Namespace)
    (name : String) :
    forest.store.binder? env ns name = nearest? (landings actions) ns (.ofRaw name) env.path :=
  binder?_eq_of_own? h.own?_eq env ns name

/-- **Look-ups and assignments follow the log of writes.** Scopes are told apart by their keys, and
a scope that is made is none of the known ones. At every moment of a run,
- a look-up answers the last write that landed in the nearest scope of the path in which a write of
  the name has landed, and nothing exactly if no write of it has landed anywhere on the path,
- a name is bound at the root exactly if this nearest scope exists and is the root,
- an assignment to an existing binding fails exactly if there is no such scope, and it hands back
  the very value that it was given. -/
theorem reads_follow_landings (h : Run actions forest) :
    (∀ scope other : Scope, scope.handle ∈ forest.known → other.handle ∈ forest.known →
      (scope.key = other.key ↔ scope = other)) ∧
    (∀ action : Action, action.makesScope = true → ∃ made : Scope,
      (action.perform.run forest.store).1 = some made.handle ∧
        ∀ scope : Scope, scope.handle ∈ forest.known → scope.key ≠ made.key) ∧
    (∀ (handle : Handle) (ns : Namespace) (name : String),
      let nearest := nearest? (landings actions) ns (.ofRaw name) handle.env.path
      forest.store.get? handle.env ns name =
          nearest.bind (lastIn? (landings actions) ns (.ofRaw name)) ∧
        (forest.store.get? handle.env ns name = none ↔ ∀ scope ∈ handle.env.path,
          ∀ landing ∈ landings actions, ¬ landing.IsIn scope ns (.ofRaw name)) ∧
        (forest.store.isBoundAtRoot handle.env ns name = true ↔
          ∃ scope ∈ nearest, scope.isRoot = true)) ∧
    (∀ (scope : Scope) (ns : Namespace) (name : String) (value back : ns.Bound),
      forest.store.overwrite scope ns name value = .error back ↔
        nearest? (landings actions) ns (.ofRaw name) scope.path = none ∧ back = value) := by
  refine ⟨?_, ?_, ?_, ?_⟩
  · intro scope other hscope hother
    constructor
    · exact h.coherent.eq_of_key_eq hscope hother
    · rintro rfl
      rfl
  · intro action hmakes
    obtain ⟨made, hmade, hkey⟩ := action.made_of_makesScope hmakes forest.store
    refine ⟨made, hmade, ?_⟩
    intro scope hscope
    have hlt : scope.key < forest.store.nextScope := h.coherent.key_lt _ hscope
    omega
  · intro handle ns name nearest
    have hbinder : forest.store.binder? handle.env ns name = nearest := h.binder?_eq _ ns name
    have hown : forest.store.own? ns (Name.normalize name) =
        lastIn? (landings actions) ns (.ofRaw name) := by
      funext scope
      exact h.own?_eq ns (.ofRaw name) scope
    refine ⟨?_, ?_, ?_⟩
    · rw [Store.get?_eq_binder?, hbinder, hown]
    · rw [Store.get?, hown, List.findSome?_eq_none_iff]
      simp only [lastIn?_eq_none]
    · rw [Store.isBoundAtRoot, hbinder]
      cases nearest <;> simp
  · intro scope ns name value back
    rw [Store.overwrite_eq, h.binder?_eq]
    cases nearest? (landings actions) ns (.ofRaw name) scope.path with
    | none => simp [eq_comm]
    | some target => simp

/-- One variable in two spellings is declared in two scopes of the sample and then overwritten in
the nested one, and a name that is not bound is assigned. The latest action stands in front. -/
def shadowing : List Action :=
  [.write .existing sampleNested .var "unbound" .null,
    .write .existingOrHere sampleNested .var "main_color" (.bool true),
    .write .here sampleNested .var "main-color" .null,
    .write .atRoot sampleNested .var "main_color" (.bool false)] ++ sampleActions

/-- The environments of the sample are known when this has been written. -/
theorem known_shadowing : ∀ handle ∈ [sampleRoot.handle, sampleNested.handle, sampleBody.handle,
    sampleView.handle, sampleTower.handle],
    handle ∈ (Forest.ofActions shadowing).known :=
  fun handle hmem => .inl (.inl (.inl (.inl (known_sample handle hmem))))

/-- The writes are a run. -/
theorem run_shadowing : Run shadowing (.ofActions shadowing) := by
  have hnested : sampleNested.handle ∈ (Forest.ofActions sampleActions).known :=
    known_sample _ (by simp)
  refine (((run_sampleActions.act _ ?_).act _ ?_).act _ ?_).act _ ?_
  all_goals intro handle hmem; rw [List.mem_singleton.mp hmem]
  · exact hnested
  · exact .inl hnested
  · exact .inl (.inl hnested)
  · exact .inl (.inl (.inl hnested))

/-- In the sample, each scope answers what was written to it last. -/
theorem shadowing_follows_landings :
    ∃ forest, Run shadowing forest ∧
      forest.store.get? sampleNested .var "main-color" = some (.bool true) ∧
      forest.store.get? sampleRoot .var "main-color" = some (.bool false) ∧
      forest.store.isBoundAtRoot sampleRoot .var "main-color" = true ∧
      forest.store.isBoundAtRoot sampleNested .var "main-color" = false ∧
      forest.store.overwrite sampleRoot .var "unbound" .null = .error .null := by
  obtain ⟨-, -, hreads, hwrites⟩ := reads_follow_landings run_shadowing
  refine ⟨_, run_shadowing, ?_, ?_, ?_, ?_, ?_⟩
  · exact (hreads sampleNested.handle .var "main-color").1
  · exact (hreads sampleRoot.handle .var "main-color").1
  · exact (hreads sampleRoot.handle .var "main-color").2.2.mpr ⟨sampleRoot, rfl, rfl⟩
  · refine Bool.eq_false_iff.mpr fun hbound => ?_
    obtain ⟨scope, hnearest, hroot⟩ := (hreads sampleNested.handle .var "main-color").2.2.mp hbound
    cases hnearest
    cases hroot
  · exact (hwrites sampleRoot .var "unbound" .null .null).mpr ⟨rfl, rfl⟩

end Run

end Stylesheet
