import Mathlib.Data.List.Forall2
import Stylesheet.Proofs.Ledgers
import Stylesheet.Proofs.Numbers

/-! # Runs that differ in captures

Two runs are compared that do the same with scopes but for what bodies capture (`Parallel`). Scopes
are matched by their numbers, in the order in which they are made. At every moment matched scopes
are equal without their captures (`Env.bare`), their tables are the same, and the same warnings have
been called for (`Parallel.alike`): each action that both runs carry out keeps it so, and so does
whatever is done aside in one of them. -/

namespace Stylesheet

open Diagnostic

/-! ## Scopes without captures -/

namespace Env

/-- The scope behind an environment **without captures**: it and the enclosing ones as if no body
had captured anything. -/
def bare : {a : Access} → Env a → Scope
  | _, .root key snapshot trace => .root key snapshot trace
  | _, .nested key snapshot parent => .nested key snapshot parent.bare
  | _, .body key parent _ => .nested key parent.snapshot parent.bare
  | _, .bodyWith key parent _ _ _ => .nested key parent.snapshot parent.bare
  | _, .view _ _ inner => inner.bare

@[simp] theorem key_bare (scope : Scope) : scope.bare.key = scope.key := by
  cases scope <;> rfl

/-- Scopes that are equal without captures have one number. -/
theorem key_eq_of_bare_eq {scope scope' : Scope} (h : scope.bare = scope'.bare) :
    scope.key = scope'.key := by
  rw [← key_bare scope, h, key_bare]

@[simp] theorem snapshot_bare (scope : Scope) : scope.bare.snapshot = scope.snapshot := by
  cases scope <;> rfl

/-- Scopes that are equal without captures have the same options. -/
theorem snapshot_eq_of_bare_eq {scope scope' : Scope} (h : scope.bare = scope'.bare) :
    scope.snapshot = scope'.snapshot := by
  rw [← snapshot_bare scope, h, snapshot_bare]

@[simp] theorem isRoot_bare (scope : Scope) : scope.bare.isRoot = scope.isRoot := by
  cases scope <;> rfl

@[simp] theorem bare_unwrapped {a : Access} (env : Env a) : env.unwrapped.bare = env.bare := by
  induction env with
  | view _ _ inner ih => exact ih
  | _ => rfl

/-- Leaving the captures out keeps the root of the chain. -/
@[simp] theorem chainRoot_bare {a : Access} (env : Env a) :
    env.bare.chainRoot = env.chainRoot := by
  induction env with
  | root => rfl
  | nested _ _ _ ih => exact ih
  | body _ _ _ ih _ => exact ih
  | bodyWith _ _ _ _ _ ih _ _ => exact ih
  | view _ _ _ ih => exact ih

/-- Environments that are equal without captures are in one chain. -/
theorem chainRoot_eq_of_bare_eq {a b : Access} {env : Env a} {other : Env b}
    (h : env.bare = other.bare) : env.chainRoot = other.chainRoot := by
  rw [← chainRoot_bare env, h, chainRoot_bare]

/-- Leaving the captures out keeps the path. -/
theorem path_bare {a : Access} (env : Env a) : env.bare.path = env.path.map bare := by
  induction env with
  | root => rfl
  | nested _ _ _ ih => simp [bare, path, ih]
  | body _ _ _ ih _ => simp [bare, path, ih]
  | bodyWith _ _ _ _ _ ih _ _ => simp [bare, path, ih]
  | view _ _ _ ih => exact ih

/-- Environments that are equal without their captures have the same path, scope by scope. -/
theorem forall₂_path {a b : Access} {env : Env a} {other : Env b} (h : env.bare = other.bare) :
    List.Forall₂ (fun scope scope' : Scope => scope.bare = scope'.bare) env.path other.path := by
  have hpath : env.path.map bare = other.path.map bare := by
    rw [← path_bare, h, path_bare]
  rw [← List.forall₂_eq_eq_eq, List.forall₂_map_left_iff, List.forall₂_map_right_iff] at hpath
  exact hpath

end Env

/-! ## Alike but for captures -/

/-- Two callables are **alike** if they differ in nothing but the captures of the scopes that declare
them, which have one number. -/
def Callable.Alike (callable callable' : Callable) : Prop :=
  { callable with scope := callable'.scope } = callable' ∧
    callable.scope.key = callable'.scope.key

/-- What is bound in two runs is **alike**: values are equal, and callables are alike. -/
def Namespace.Alike : (ns : Namespace) → ns.Bound → ns.Bound → Prop
  | .var => Eq
  | .mixin => Callable.Alike
  | .function => Callable.Alike

/-- Being alike is symmetric. -/
theorem Namespace.Alike.symm {ns : Namespace} {value value' : ns.Bound}
    (h : ns.Alike value value') : ns.Alike value' value := by
  have hcallable : ∀ {callable callable' : Callable}, callable.Alike callable' →
      callable'.Alike callable := by
    rintro callable callable' ⟨hsame, hkey⟩
    rw [← hsame]
    exact ⟨rfl, hkey.symm⟩
  cases ns with
  | var => exact Eq.symm h
  | mixin => exact hcallable h
  | function => exact hcallable h

/-- Two stores have **the same tables**: scopes of one number bind the same spellings, to what is
alike. -/
def Store.SameTables (store store' : Store) : Prop :=
  ∀ (scope scope' : Scope), scope.key = scope'.key → ∀ (ns : Namespace) (text : String),
    Option.Rel ns.Alike (store.own? ns text scope) (store'.own? ns text scope')

/-- Two actions do **the same but for captures**: they make a scope, write or warn, in scopes of one
number and with the same data, while bodies may capture anything and rules may have any selector. -/
inductive Action.Alike : Action → Action → Prop
  /-- Roots are made. -/
  | root (snapshot : Snapshot) (trace : TraceRef) :
    Alike (.root snapshot trace) (.root snapshot trace)
  /-- Scopes are nested. -/
  | nested {parent parent' : Scope} (hparent : parent.key = parent'.key)
    (snapshot : Option Snapshot) : Alike (.nested parent snapshot) (.nested parent' snapshot)
  /-- Scopes of style rules are made. -/
  | rule {parent parent' : Scope} (hparent : parent.key = parent'.key)
    (selector selector' : SelectorList) : Alike (.rule parent selector) (.rule parent' selector')
  /-- Scopes of bodies are made, whatever they capture. -/
  | body {declaring declaring' : Scope} (hdeclaring : declaring.key = declaring'.key)
    (caller caller' : Handle) (content content' : Option (ContentBlock Handle)) :
    Alike (.body declaring caller content) (.body declaring' caller' content')
  /-- Bindings are written. -/
  | write (mode : WriteMode) {scope scope' : Scope} (hscope : scope.key = scope'.key)
    (ns : Namespace) (name : String) {value value' : ns.Bound} (hvalue : ns.Alike value value') :
    Alike (.write mode scope ns name value) (.write mode scope' ns name value')
  /-- Assignments are warned about. -/
  | warnAssignment {scope scope' : Scope} (hscope : scope.key = scope'.key) (logger : Logger)
    (name : String) (location : Location) :
    Alike (.warnAssignment scope logger name location) (.warnAssignment scope' logger name location)
  /-- Results are warned about. -/
  | warnFalseResult {scope scope' : Scope} (hscope : scope.key = scope'.key) (logger : Logger)
    (location : Location) :
    Alike (.warnFalseResult scope logger location) (.warnFalseResult scope' logger location)

/-- An action that is **aside**: it neither makes a scope nor writes a binding nor warns. -/
def Action.isAside : Action → Bool
  | view _ _ | viewOf _ | rootOf _ | callerOf _ | contentOf _ | select _ _ | hold _ | drop _ => true
  | _ => false

/-- Two sequences of actions are **parallel**: one after the other they do the same but for captures,
and in between each may do anything that is aside. The latest actions stand in front. -/
inductive Parallel : List Action → List Action → Prop
  /-- Nothing has happened. -/
  | start : Parallel [] []
  /-- Both do the same but for captures. -/
  | both {actions actions' : List Action} (h : Parallel actions actions') {action action' : Action}
    (halike : action.Alike action') : Parallel (action :: actions) (action' :: actions')
  /-- The first does something aside. -/
  | first {actions actions' : List Action} (h : Parallel actions actions') {action : Action}
    (haside : action.isAside = true) : Parallel (action :: actions) actions'
  /-- The second does something aside. -/
  | second {actions actions' : List Action} (h : Parallel actions actions') {action : Action}
    (haside : action.isAside = true) : Parallel actions (action :: actions')

/-! ## Tables of parallel runs -/

/-- What is found along two lists that match is found at places that match. -/
theorem rel_find? {α β : Type} {R : α → β → Prop} {p : α → Bool} {q : β → Bool} {as : List α}
    {bs : List β} (h : List.Forall₂ R as bs) (hsame : ∀ a b, R a b → p a = q b) :
    Option.Rel R (as.find? p) (bs.find? q) := by
  induction h with
  | nil => exact .none
  | @cons a b as bs hab _ ih =>
    rw [List.find?_cons, List.find?_cons, ← hsame a b hab]
    cases p a with
    | false => exact ih
    | true => exact .some hab

/-- What is first found along two lists that match is alike. -/
theorem rel_findSome? {α β γ δ : Type} {R : α → β → Prop} {S : γ → δ → Prop} {f : α → Option γ}
    {g : β → Option δ} {as : List α} {bs : List β} (h : List.Forall₂ R as bs)
    (hsame : ∀ a b, R a b → Option.Rel S (f a) (g b)) :
    Option.Rel S (as.findSome? f) (bs.findSome? g) := by
  induction h with
  | nil => exact .none
  | @cons a b as bs hab _ ih =>
    rw [List.findSome?_cons, List.findSome?_cons]
    have hrel := hsame a b hab
    generalize f a = found at hrel
    generalize g b = found' at hrel
    cases hrel with
    | none => exact ih
    | some hsame => exact .some hsame

/-- Alike answers are there or not there together. -/
theorem isSome_eq_of_rel {α β : Type} {R : α → β → Prop} {first : Option α} {second : Option β}
    (h : Option.Rel R first second) : first.isSome = second.isSome := by
  cases h <;> rfl

namespace Store.SameTables

variable {store store' : Store}

/-- Look-ups in the same tables answer alike. -/
theorem get? (h : store.SameTables store') {a b : Access} {env : Env a} {env' : Env b}
    (hbare : env.bare = env'.bare) (ns : Namespace) (name : String) :
    Option.Rel ns.Alike (store.get? env ns name) (store'.get? env' ns name) := by
  refine rel_findSome? (Env.forall₂_path hbare) fun scope scope' hsame => ?_
  exact h scope scope' (Env.key_eq_of_bare_eq hsame) ns _

/-- In the same tables the nearest binders of a name match. -/
theorem binder? (h : store.SameTables store') {a b : Access} {env : Env a} {env' : Env b}
    (hbare : env.bare = env'.bare) (ns : Namespace) (name : String) :
    Option.Rel (fun scope scope' : Scope => scope.bare = scope'.bare)
      (store.binder? env ns name) (store'.binder? env' ns name) := by
  refine rel_find? (Env.forall₂_path hbare) fun scope scope' hsame => ?_
  exact isSome_eq_of_rel (h scope scope' (Env.key_eq_of_bare_eq hsame) ns _)

/-- A name is bound at the root in the same tables or in neither. -/
theorem isBoundAtRoot (h : store.SameTables store') {a b : Access} {env : Env a} {env' : Env b}
    (hbare : env.bare = env'.bare) (ns : Namespace) (name : String) :
    store.isBoundAtRoot env ns name = store'.isBoundAtRoot env' ns name := by
  have hbinder := h.binder? hbare ns name
  rw [Store.isBoundAtRoot, Store.isBoundAtRoot]
  generalize store.binder? env ns name = binder at hbinder
  generalize store'.binder? env' ns name = binder' at hbinder
  cases hbinder with
  | none => rfl
  | some hsame => simpa using congrArg Scope.isRoot hsame

/-- An assignment to an existing binding succeeds with the same tables or with neither. -/
theorem overwrite_iff (h : store.SameTables store') {scope scope' : Scope}
    (hbare : scope.bare = scope'.bare) (ns : Namespace) (name : String) (value value' : ns.Bound) :
    (∃ after, store.overwrite scope ns name value = .ok after) ↔
      ∃ after, store'.overwrite scope' ns name value' = .ok after := by
  have hbinder := h.binder? hbare ns name
  rw [overwrite_eq, overwrite_eq]
  generalize store.binder? scope ns name = binder at hbinder
  generalize store'.binder? scope' ns name = binder' at hbinder
  cases hbinder with
  | none => exact ⟨nofun, nofun⟩
  | some => exact ⟨fun _ => ⟨_, rfl⟩, fun _ => ⟨_, rfl⟩⟩

/-- Declaring the same in scopes of one number keeps tables the same. -/
theorem declare (h : store.SameTables store') {target target' : Scope}
    (hkey : target.key = target'.key) {ns : Namespace} (raw : String) {value value' : ns.Bound}
    (hvalue : ns.Alike value value') :
    (store.declare target ns raw value).SameTables (store'.declare target' ns raw value') := by
  intro scope scope' hsame wanted text
  rw [own?, own?]
  by_cases hcell : target.key = scope.key ∧ ns = wanted
  · obtain ⟨htarget, rfl⟩ := hcell
    rw [store.tableOf_declare htarget, store'.tableOf_declare (by omega), Table.get?_bind,
      Table.get?_bind]
    split
    · exact .some hvalue
    · exact h scope scope' hsame ns text
  · -- The table is another one in both.
    have hother : target.key = scope.key → ns ≠ wanted := fun hkey hns => hcell ⟨hkey, hns⟩
    have hother' : target'.key = scope'.key → ns ≠ wanted := fun hkey' => hother (by omega)
    rw [store.tableOf_declare_of_ne hother, store'.tableOf_declare_of_ne hother']
    exact h scope scope' hsame wanted text

/-- Having the same tables is a matter of the tables. -/
theorem of_tables_eq (h : store.SameTables store') {after after' : Store}
    (htables : after.tables = store.tables) (htables' : after'.tables = store'.tables) :
    after.SameTables after' := by
  intro scope scope' hsame ns text
  rw [own?_of_tables_eq htables, own?_of_tables_eq htables']
  exact h scope scope' hsame ns text

/-- **Writing the same** from scopes that are equal without captures keeps tables the same. -/
theorem write (h : store.SameTables store') {known known' : Set Handle}
    (hcoherent : store.Coherent known) (hcoherent' : store'.Coherent known') {scope scope' : Scope}
    (hscope : scope.handle ∈ known) (hscope' : scope'.handle ∈ known')
    (hbare : scope.bare = scope'.bare) (mode : WriteMode) {ns : Namespace} (name : String)
    {value value' : ns.Bound} (hvalue : ns.Alike value value') :
    ((mode.perform scope ns name value).run store).2.SameTables
      ((mode.perform scope' ns name value').run store').2 := by
  have htables := hcoherent.tables_write hscope mode ns name value
  have htables' := hcoherent'.tables_write hscope' mode ns name value'
  refine of_tables_eq ?_ htables htables'
  -- The write lands in scopes that match, or in neither run.
  have htarget : Option.Rel (fun target target' : Scope => target.bare = target'.bare)
      (mode.target? (store.binder? scope ns name) scope)
      (mode.target? (store'.binder? scope' ns name) scope') := by
    have hbinder := h.binder? hbare ns name
    cases mode with
    | here => exact .some hbare
    | atRoot =>
      rw [WriteMode.target?, WriteMode.target?, Scope.getLast?_path, Scope.getLast?_path]
      exact .some (by rw [Env.chainRoot_eq_of_bare_eq hbare])
    | existing => exact hbinder
    | existingOrHere =>
      refine .some ?_
      generalize store.binder? scope ns name = binder at hbinder
      generalize store'.binder? scope' ns name = binder' at hbinder
      cases hbinder with
      | none => exact hbare
      | some hsame => exact hsame
  generalize mode.target? (store.binder? scope ns name) scope = target at htarget
  generalize mode.target? (store'.binder? scope' ns name) scope' = target' at htarget
  cases htarget with
  | none => exact h
  | some hsame => exact h.declare (Env.key_eq_of_bare_eq hsame) name hvalue

end Store.SameTables

/-! ## Parallel runs -/

/-- Two forests are **alike but for captures**: equally many scopes have been made, known scopes of
one number are equal without their captures, and their tables are the same. -/
structure Forest.Alike (forest forest' : Forest) : Prop where
  /-- Equally many scopes have been made. -/
  nextScope_eq : forest.store.nextScope = forest'.store.nextScope
  /-- Known scopes of one number are equal without their captures. -/
  bare_eq : ∀ scope scope' : Scope, scope.handle ∈ forest.known → scope'.handle ∈ forest'.known →
    scope.key = scope'.key → scope.bare = scope'.bare
  /-- Their tables are the same. -/
  tables : forest.store.SameTables forest'.store

namespace Forest.Alike

variable {forest forest' : Forest} {actions actions' : List Action} {action action' : Action}

/-- Being alike is symmetric. -/
theorem symm (h : forest.Alike forest') : forest'.Alike forest := by
  refine ⟨h.nextScope_eq.symm, ?_, ?_⟩
  · intro scope scope' hscope hscope' hkey
    exact (h.bare_eq scope' scope hscope' hscope hkey.symm).symm
  · intro scope scope' hkey ns text
    have hrel := h.tables scope' scope hkey.symm ns text
    generalize forest.store.own? ns text scope' = bound at hrel
    generalize forest'.store.own? ns text scope = bound' at hrel
    cases hrel with
    | none => exact .none
    | some halike => exact .some halike.symm

/-- What is done aside in the first run leaves the forests alike. -/
theorem aside (h : forest.Alike forest') (hrun : Run actions forest)
    (huses : ∀ handle ∈ action.uses, handle ∈ forest.known) (haside : action.isAside = true) :
    (forest.after action).Alike forest' := by
  have hmakes : action.makesScope = false := by
    cases action <;> first | rfl | cases haside
  refine ⟨?_, ?_, ?_⟩
  · show (action.perform.run forest.store).2.nextScope = _
    rw [Store.nextScope_perform, hmakes]
    exact h.nextScope_eq
  · intro scope scope' hscope hscope'
    exact h.bare_eq scope scope' (hrun.known_of_makesScope_eq_false huses hmakes hscope) hscope'
  · have hwrites : ∀ mode scope ns name value, action ≠ .write mode scope ns name value := by
      rintro mode scope ns name value rfl
      cases haside
    exact h.tables.of_tables_eq (hrun.coherent.tables_perform action huses hwrites) rfl

end Forest.Alike

namespace Action.Alike

variable {action action' : Action}

/-- Actions that do the same make a scope both or neither. -/
theorem makesScope_eq (h : action.Alike action') : action.makesScope = action'.makesScope := by
  cases h <;> rfl

/-- **Scopes that are made in the same way** get the next number and are equal without their
captures, if the scopes that they are made in are. -/
theorem made (h : action.Alike action') (hmakes : action.makesScope = true) (store store' : Store)
    (hnext : store.nextScope = store'.nextScope)
    (hbare : ∀ scope scope' : Scope, scope.handle ∈ action.uses → scope'.handle ∈ action'.uses →
      scope.key = scope'.key → scope.bare = scope'.bare) :
    ∃ made made' : Scope, (action.perform.run store).1 = some made.handle ∧
      (action'.perform.run store').1 = some made'.handle ∧
      made.key = store.nextScope ∧ made'.key = store.nextScope ∧ made.bare = made'.bare := by
  have hnested : ∀ {parent parent' : Scope}, parent.bare = parent'.bare →
      ∀ snapshot : Option Snapshot,
        (Env.nested store.nextScope (snapshot.getD parent.snapshot) parent).bare =
          (Env.nested store'.nextScope (snapshot.getD parent'.snapshot) parent').bare := by
    intro parent parent' hparents snapshot
    rw [Env.bare, Env.bare, hnext, Env.snapshot_eq_of_bare_eq hparents, hparents]
  cases h with
  | root snapshot trace => exact ⟨_, _, rfl, rfl, rfl, hnext.symm, by rw [hnext]⟩
  | nested hparent snapshot =>
    have hparents := hbare _ _ (List.mem_singleton_self _) (List.mem_singleton_self _) hparent
    exact ⟨_, _, rfl, rfl, rfl, hnext.symm, hnested hparents snapshot⟩
  | rule hparent selector selector' =>
    have hparents := hbare _ _ (List.mem_singleton_self _) (List.mem_singleton_self _) hparent
    exact ⟨_, _, rfl, rfl, rfl, hnext.symm, hnested hparents none⟩
  | body hdeclaring caller caller' content content' =>
    -- Without its captures a body is nested in the declaring scope, under the same options.
    have hparents := hbare _ _ List.mem_cons_self List.mem_cons_self hdeclaring
    have hscopes := hnested hparents none
    cases content <;> cases content' <;>
      exact ⟨_, _, rfl, rfl, rfl, hnext.symm, hscopes⟩
  | write => cases hmakes
  | warnAssignment => cases hmakes
  | warnFalseResult => cases hmakes

end Action.Alike

namespace Forest.Alike

variable {forest forest' : Forest} {actions actions' : List Action} {action action' : Action}

/-- **Doing the same but for captures** leaves the forests alike. -/
theorem both (h : forest.Alike forest') (hrun : Run actions forest) (hrun' : Run actions' forest')
    (huses : ∀ handle ∈ action.uses, handle ∈ forest.known)
    (huses' : ∀ handle ∈ action'.uses, handle ∈ forest'.known) (halike : action.Alike action') :
    (forest.after action).Alike (forest'.after action') := by
  have hbare : ∀ scope scope' : Scope, scope.handle ∈ action.uses → scope'.handle ∈ action'.uses →
      scope.key = scope'.key → scope.bare = scope'.bare :=
    fun scope scope' hscope hscope' =>
      h.bare_eq scope scope' (huses _ hscope) (huses' _ hscope')
  refine ⟨?_, ?_, ?_⟩
  · show (action.perform.run forest.store).2.nextScope =
      (action'.perform.run forest'.store).2.nextScope
    rw [Store.nextScope_perform, Store.nextScope_perform, h.nextScope_eq, halike.makesScope_eq]
  · intro scope scope' hscope hscope' hkey
    cases hmakes : action.makesScope with
    | false =>
      have hmakes' : action'.makesScope = false := halike.makesScope_eq ▸ hmakes
      exact h.bare_eq scope scope' (hrun.known_of_makesScope_eq_false huses hmakes hscope)
        (hrun'.known_of_makesScope_eq_false huses' hmakes' hscope') hkey
    | true =>
      obtain ⟨made, made', hmade, hmade', hnumber, hnumber', hsame⟩ :=
        halike.made hmakes forest.store forest'.store h.nextScope_eq hbare
      have hold : ∀ {known : Set Handle} {store : Store} {new old : Scope},
          store.Coherent known → old.handle ∈ known → new.key = store.nextScope →
          old.key < new.key := fun hcoherent hknown hnew => hnew ▸ hcoherent.key_lt _ hknown
      -- A new scope has a later number than any that was known.
      rcases hscope with hscope | hscope <;> rcases hscope' with hscope' | hscope'
      · exact h.bare_eq scope scope' hscope hscope' hkey
      · cases hmade'.symm.trans hscope'
        have hlt := hold hrun.coherent hscope hnumber
        omega
      · cases hmade.symm.trans hscope
        have hlt := hold hrun'.coherent hscope' (hnumber'.trans h.nextScope_eq)
        omega
      · cases hmade.symm.trans hscope
        cases hmade'.symm.trans hscope'
        exact hsame
  · -- No other action than a write changes a table.
    have hother : (∀ mode scope ns name value, action ≠ .write mode scope ns name value) →
        (∀ mode scope ns name value, action' ≠ .write mode scope ns name value) →
          (forest.after action).store.SameTables (forest'.after action').store :=
      fun hwrites hwrites' => h.tables.of_tables_eq
        (hrun.coherent.tables_perform action huses hwrites)
        (hrun'.coherent.tables_perform action' huses' hwrites')
    cases halike with
    | @write mode scope scope' hscope ns name value value' hvalue =>
      have hmem := List.mem_singleton_self scope.handle
      have hmem' := List.mem_singleton_self scope'.handle
      exact h.tables.write hrun.coherent hrun'.coherent (huses _ hmem) (huses' _ hmem')
        (hbare scope scope' hmem hmem' hscope) mode name hvalue
    | _ => exact hother (by simp) (by simp)

end Forest.Alike

/-- An action that is aside calls for no warning. -/
theorem Action.call?_of_isAside {action : Action} (h : action.isAside = true) :
    action.call? = none := by
  cases action <;> first | rfl | cases h

/-- A use is called for in the same chain from scopes that are equal without captures. -/
theorem Use.inChain_eq_of_bare_eq (use : Use) {scope scope' : Scope}
    (h : scope.bare = scope'.bare) : use.inChain scope = use.inChain scope' := by
  rw [inChain, Env.chainRoot_eq_of_bare_eq h, inChain]

/-- Actions that do the same call for the same in the same chain, or for nothing. -/
theorem Action.Alike.call_eq {action action' : Action} (h : action.Alike action')
    (hbare : ∀ scope scope' : Scope, scope.handle ∈ action.uses → scope'.handle ∈ action'.uses →
      scope.key = scope'.key → scope.bare = scope'.bare) :
    (action.call?.map fun (scope, _, use) => use.inChain scope) =
      action'.call?.map fun (scope, _, use) => use.inChain scope := by
  cases h with
  | @warnAssignment scope scope' hscope =>
    have hsame := hbare _ _ (List.mem_singleton_self _) (List.mem_singleton_self _) hscope
    exact congrArg some (Use.inChain_eq_of_bare_eq _ hsame)
  | @warnFalseResult scope scope' hscope =>
    have hsame := hbare _ _ (List.mem_singleton_self _) (List.mem_singleton_self _) hscope
    exact congrArg some (Use.inChain_eq_of_bare_eq _ hsame)
  | _ => rfl

/-- **Parallel runs stay alike** but for captures, and they call for the same warnings. -/
theorem Parallel.alike {actions actions' : List Action} (h : Parallel actions actions')
    {forest forest' : Forest} (hrun : Run actions forest) (hrun' : Run actions' forest') :
    forest.Alike forest' ∧ callsIn actions = callsIn actions' := by
  induction h generalizing forest forest' with
  | start =>
    cases hrun
    cases hrun'
    refine ⟨⟨rfl, fun scope scope' hscope => absurd hscope (Set.notMem_empty _), ?_⟩, rfl⟩
    intro scope scope' hkey ns text
    show Option.Rel ns.Alike (Store.empty.own? ns text scope) (Store.empty.own? ns text scope')
    rw [Store.own?_empty, Store.own?_empty]
    exact .none
  | both h halike ih =>
    obtain _ | ⟨hrun, action, huses⟩ := hrun
    obtain _ | ⟨hrun', action', huses'⟩ := hrun'
    obtain ⟨hsame, hcalls⟩ := ih hrun hrun'
    refine ⟨hsame.both hrun hrun' huses huses' halike, ?_⟩
    have hcall := halike.call_eq fun scope scope' hscope hscope' =>
      hsame.bare_eq scope scope' (huses _ hscope) (huses' _ hscope')
    rw [callsIn_cons, callsIn_cons, hcall, hcalls]
  | first h haside ih =>
    obtain _ | ⟨hrun, action, huses⟩ := hrun
    obtain ⟨hsame, hcalls⟩ := ih hrun hrun'
    refine ⟨hsame.aside hrun huses haside, ?_⟩
    rw [callsIn_cons, Action.call?_of_isAside haside]
    exact hcalls
  | second h haside ih =>
    obtain _ | ⟨hrun', action, huses⟩ := hrun'
    obtain ⟨hsame, hcalls⟩ := ih hrun hrun'
    refine ⟨(hsame.symm.aside hrun' huses haside).symm, ?_⟩
    rw [callsIn_cons, Action.call?_of_isAside haside]
    exact hcalls

end Stylesheet
