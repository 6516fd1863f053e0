import Mathlib.Data.List.Find
import Stylesheet.Proofs.Globals
import Stylesheet.Scope.DebugText

/-! # Independent writes

Where a write lands is decided by a search through tables that an earlier write may have changed.
Two writes are **independent** (`Writing.Independent`) if they differ in namespace or name, or if
their scopes are in chains with different roots. Then neither changes what the search of the other
meets (`Writing.Independent.binder?_landed`), and what they declare stands in different cells; so
either order leads to the same tables and to the same answers (`Run.independent_writes_commute`). -/

namespace Stylesheet

/-- A **write** of a binding. -/
structure Writing where
  /-- How it is written. -/
  mode : WriteMode
  /-- The scope that it is written from. -/
  scope : Scope
  /-- The namespace. -/
  ns : Namespace
  /-- The name, in any spelling. -/
  name : String
  /-- What is written. -/
  value : ns.Bound

namespace Writing

/-- The write as an action. -/
def action (writing : Writing) : Action :=
  .write writing.mode writing.scope writing.ns writing.name writing.value

/-- What the write **answers**: one that is for existing bindings only hands the value back if the
name is not bound, and any other succeeds. -/
def answer (writing : Writing) (store : Store) : Except writing.ns.Bound Unit :=
  match writing.mode with
  | .existing =>
    (store.overwrite writing.scope writing.ns writing.name writing.value).map fun _ => ()
  | _ => .ok ()

/-- The nearest binder of the name that is written. -/
def binder? (writing : Writing) (store : Store) : Option Scope :=
  store.binder? writing.scope writing.ns writing.name

/-- The scope in which the write lands, if it does. -/
def target? (writing : Writing) (store : Store) : Option Scope :=
  writing.mode.target? (writing.binder? store) writing.scope

/-- The store in which the write has landed. -/
def landed (writing : Writing) (store : Store) : Store :=
  (writing.target? store).elim store (store.declare · writing.ns writing.name writing.value)

/-- Two writes concern **different names**: they differ in the namespace or in the name. -/
def Apart (first second : Writing) : Prop :=
  first.ns ≠ second.ns ∨ Name.ofRaw first.name ≠ .ofRaw second.name

/-- Two writes are **independent**: they concern different names, or their scopes are in chains with
different roots. -/
def Independent (first second : Writing) : Prop :=
  first.Apart second ∨ first.scope.chainRoot ≠ second.scope.chainRoot

theorem Apart.symm {first second : Writing} (h : first.Apart second) : second.Apart first :=
  h.imp Ne.symm Ne.symm

theorem Independent.symm {first second : Writing} (h : first.Independent second) :
    second.Independent first :=
  h.imp Apart.symm Ne.symm

end Writing

/-! ## Declarations in different cells -/

/-- Entries for different keys may be made in either order. -/
theorem insert_comm_of_ne {κ ν : Type} [Ord κ] [Std.TransOrd κ] [Std.LawfulEqOrd κ]
    (map : Std.ExtTreeMap κ ν) {first second : κ} (h : first ≠ second) (value other : ν) :
    (map.insert first value).insert second other =
      (map.insert second other).insert first value := by
  refine Std.ExtTreeMap.ext_getElem? fun key => ?_
  simp only [Std.ExtTreeMap.getElem?_insert]
  by_cases hsecond : compare second key = .eq
  · have hfirst : compare first key ≠ .eq := fun hfirst =>
      h ((Std.compare_eq_iff_eq.mp hfirst).trans (Std.compare_eq_iff_eq.mp hsecond).symm)
    rw [if_pos hsecond, if_neg hfirst, if_pos hsecond]
  · rw [if_neg hsecond, if_neg hsecond]

/-- Of two entries for one key the later one stays. -/
theorem insert_insert_self {κ ν : Type} [Ord κ] [Std.TransOrd κ] [Std.LawfulEqOrd κ]
    (map : Std.ExtTreeMap κ ν) (key : κ) (value other : ν) :
    (map.insert key value).insert key other = map.insert key other := by
  refine Std.ExtTreeMap.ext_getElem? fun wanted => ?_
  simp only [Std.ExtTreeMap.getElem?_insert]
  split <;> rfl

/-- The bindings of a scope with one more of them. -/
def Bindings.bind (bindings : Bindings) (ns : Namespace) (name : Name) (value : ns.Bound) :
    Bindings :=
  bindings.setTable ns ((bindings.table ns).bind name value)

/-- Binding in different namespaces, or different names, comes to the same in either order. -/
theorem Bindings.bind_comm (bindings : Bindings) {ns other : Namespace} {first second : Name}
    (h : ns ≠ other ∨ first ≠ second) (value : ns.Bound) (value' : other.Bound) :
    (bindings.bind ns first value).bind other second value' =
      (bindings.bind other second value').bind ns first value := by
  by_cases hns : ns = other
  · subst hns
    have htext : first.text ≠ second.text := fun htext =>
      h.resolve_left (fun hne => hne rfl) (Name.ext htext)
    cases ns <;>
      exact congrArg (bindings.setTable _) (insert_comm_of_ne _ htext value value')
  · -- Each binding is made in a table of its own.
    cases ns <;> cases other <;> first | rfl | exact absurd rfl hns

namespace Store

variable {store other : Store} {known : Set Handle}

/-- The bindings of a scope after a declaration. -/
theorem bindingsOf_declare (store : Store) (target scope : Scope) (ns : Namespace) (name : String)
    (value : ns.Bound) :
    (store.declare target ns name value).bindingsOf scope =
      if target.key = scope.key then (store.bindingsOf target).bind ns (.ofRaw name) value
      else store.bindingsOf scope := by
  by_cases hkey : target.key = scope.key
  · rw [if_pos hkey]
    simp [bindingsOf, declare, setTableOf, ← hkey, Bindings.bind, tableOf]
  · rw [if_neg hkey]
    simp [bindingsOf, declare, setTableOf, Std.ExtTreeMap.getElem?_insert, hkey]

/-- Declaring in either order gives the same store, unless it is the same name of one scope. -/
theorem declare_comm (store : Store) {target target' : Scope} {ns ns' : Namespace}
    {name name' : String}
    (h : target.key = target'.key → ns ≠ ns' ∨ Name.ofRaw name ≠ .ofRaw name')
    (value : ns.Bound) (value' : ns'.Bound) :
    (store.declare target ns name value).declare target' ns' name' value' =
      (store.declare target' ns' name' value').declare target ns name value := by
  -- A declaration enters the new bindings of its scope into the tables.
  have htables : ∀ (store : Store) (target : Scope) (ns : Namespace) (name : String)
      (value : ns.Bound), (store.declare target ns name value).tables =
        store.tables.insert target.key
          ((store.bindingsOf target).bind ns (.ofRaw name) value) := fun _ _ _ _ _ => rfl
  suffices hsame : ((store.declare target ns name value).declare target' ns' name' value').tables =
      ((store.declare target' ns' name' value').declare target ns name value).tables from
    congrArg (fun tables => { store with tables := tables }) hsame
  rw [htables, htables, htables, htables, bindingsOf_declare, bindingsOf_declare]
  by_cases hkey : target.key = target'.key
  · -- Both are declared in one scope, and the bindings that come later are the same.
    have hsame : store.bindingsOf target = store.bindingsOf target' := by
      rw [bindingsOf, hkey, bindingsOf]
    rw [if_pos hkey, if_pos hkey.symm, hkey, insert_insert_self, insert_insert_self, hsame,
      Bindings.bind_comm _ (h hkey)]
  · rw [if_neg hkey, if_neg (Ne.symm hkey), insert_comm_of_ne _ hkey]

/-! ## What reads depend on -/

/-- The nearest binder of a name is a matter of what the scopes of the path bind. -/
theorem binder?_congr {a : Access} {env : Env a} {ns : Namespace} {name : String}
    (h : ∀ scope ∈ env.path, other.own? ns (Name.normalize name) scope =
      store.own? ns (Name.normalize name) scope) :
    other.binder? env ns name = store.binder? env ns name :=
  List.find?_congr fun scope hmem => congrArg Option.isSome (h scope hmem)

/-- What debugging output shows of environments is a matter of the tables. -/
theorem debugText_of_tables_eq (h : other.tables = store.tables) {a : Access} (env : Env a) :
    other.debugText env = store.debugText env := by
  have hscope : ∀ scope, other.scopeText scope = store.scopeText scope := by
    intro scope
    have hbindings : other.bindingsOf scope = store.bindingsOf scope := by
      rw [bindingsOf, h, bindingsOf]
    unfold scopeText
    rw [hbindings]
  have hwrapped : ∀ {a : Access} (env : Env a), other.wrappedText env = store.wrappedText env := by
    intro a env
    induction env with
    | view key snapshot inner ih => rw [wrappedText_view, wrappedText_view, ih]
    | _ => rw [wrappedText_scope, wrappedText_scope, hscope]
  cases env with
  | view key snapshot inner => rw [debugText_view, debugText_view, hwrapped]
  | _ => rw [debugText_scope, debugText_scope, hscope]

end Store

/-! ## Writes that do not meet -/

namespace Writing

variable {store other : Store} {known : Set Handle} {first second : Writing}

/-- A write lands on the path of the scope that it is made from. -/
theorem mem_path_of_target? {writing : Writing} {target : Scope}
    (h : writing.target? store = some target) : target ∈ writing.scope.path :=
  writing.mode.target?_mem_path store h

/-- Where a write lands, and what it answers, is a matter of the nearest binder. -/
theorem of_binder?_eq {writing : Writing} (h : writing.binder? other = writing.binder? store) :
    writing.target? other = writing.target? store ∧
      writing.answer other = writing.answer store := by
  refine ⟨congrArg (writing.mode.target? · writing.scope) h, ?_⟩
  rw [binder?, binder?] at h
  unfold answer
  split
  · rw [Store.overwrite_eq, Store.overwrite_eq, h]
    cases store.binder? writing.scope writing.ns writing.name <;> rfl
  · rfl

/-- **Independent writes land in different cells**: if it is in one scope, they concern different
names. -/
theorem Independent.apart_of_key_eq (h : first.Independent second) (hstore : store.Coherent known)
    (hfirst : first.scope.handle ∈ known) (hsecond : second.scope.handle ∈ known)
    {target scope : Scope} (htarget : target ∈ first.scope.path)
    (hscope : scope ∈ second.scope.path) (hkey : target.key = scope.key) : first.Apart second := by
  refine h.resolve_right fun hroots => hroots ?_
  -- A scope on both paths would have both roots.
  obtain rfl := hstore.eq_of_key_eq (hstore.mem_of_mem_path hfirst htarget)
    (hstore.mem_of_mem_path hsecond hscope) hkey
  rw [← Scope.chainRoot_of_mem_path htarget, Scope.chainRoot_of_mem_path hscope]

/-- **An independent write does not disturb a search**: the other write meets the same nearest
binder as before. -/
theorem Independent.binder?_landed (h : first.Independent second) (hstore : store.Coherent known)
    (hfirst : first.scope.handle ∈ known) (hsecond : second.scope.handle ∈ known) :
    second.binder? (first.landed store) = second.binder? store := by
  unfold landed
  cases htarget : first.target? store with
  | none => rfl
  | some target =>
    refine Store.binder?_congr fun scope hscope => ?_
    rw [Option.elim_some]
    by_cases hkey : target.key = scope.key
    · have hapart := h.apart_of_key_eq hstore hfirst hsecond (mem_path_of_target? htarget) hscope
        hkey
      exact store.own?_declare_of_ne target hapart first.value scope
    · exact store.own?_declare_of_key_ne hkey first.ns first.name first.value second.ns _

/-- **Independent writes** land in either order in the same store. -/
theorem Independent.landed_comm (h : first.Independent second) (hstore : store.Coherent known)
    (hfirst : first.scope.handle ∈ known) (hsecond : second.scope.handle ∈ known) :
    second.landed (first.landed store) = first.landed (second.landed store) := by
  have hsecond' := (of_binder?_eq (h.binder?_landed hstore hfirst hsecond)).1
  have hfirst' := (of_binder?_eq (h.symm.binder?_landed hstore hsecond hfirst)).1
  calc second.landed (first.landed store)
      = (second.target? store).elim (first.landed store)
          ((first.landed store).declare · second.ns second.name second.value) := by
        rw [landed, hsecond']
    _ = (first.target? store).elim (second.landed store)
          ((second.landed store).declare · first.ns first.name first.value) := by
        rw [landed, landed]
        cases hlands : first.target? store with
        | none => rfl
        | some target =>
          cases hlands' : second.target? store with
          | none => rfl
          | some target' =>
            refine store.declare_comm (fun hkey => ?_) first.value second.value
            exact h.apart_of_key_eq hstore hfirst hsecond (mem_path_of_target? hlands)
              (mem_path_of_target? hlands') hkey
    _ = first.landed (second.landed store) := by
        rw [← hfirst']
        rfl

/-- Where a write lands does not depend on what is remembered of roots, and it keeps that. -/
theorem landed_with_roots (writing : Writing) (store : Store) (roots : Std.ExtTreeMap Nat Root) :
    writing.landed { store with roots := roots } =
      { writing.landed store with roots := roots } := by
  have htarget : writing.target? { store with roots := roots } = writing.target? store := rfl
  rw [landed, htarget, landed]
  cases writing.target? store <;> rfl

end Writing

namespace Run

variable {actions : List Action} {forest : Forest}

/-- When the action is carried out, the write has landed, and beyond that nothing has changed but
what is remembered of roots. -/
theorem exists_roots_of_writing (h : Run actions forest) {writing : Writing}
    (hscope : writing.scope.handle ∈ forest.known) :
    ∃ roots, (forest.after writing.action).store =
      { writing.landed forest.store with roots := roots } :=
  h.coherent.exists_roots_of_write hscope writing.mode writing.ns writing.name writing.value

/-- A write leaves the environments known that were, and it is an action of a run. -/
theorem act_writing (h : Run actions forest) {writing : Writing}
    (hscope : writing.scope.handle ∈ forest.known) :
    Run (writing.action :: actions) (forest.after writing.action) := by
  refine h.act writing.action fun handle hmem => ?_
  rw [List.mem_singleton.mp hmem]
  exact hscope

/-- When two writes have been carried out, both have landed, one after the other. -/
theorem exists_roots_of_writings (h : Run actions forest) {first second : Writing}
    (hfirst : first.scope.handle ∈ forest.known) (hsecond : second.scope.handle ∈ forest.known) :
    ∃ roots, ((forest.after first.action).after second.action).store =
      { second.landed (first.landed forest.store) with roots := roots } := by
  have hsecond' : second.scope.handle ∈ (forest.after first.action).known := .inl hsecond
  obtain ⟨roots, hafter⟩ := h.exists_roots_of_writing hfirst
  obtain ⟨roots', hafter'⟩ := (h.act_writing hfirst).exists_roots_of_writing hsecond'
  exact ⟨roots', by rw [hafter', hafter, Writing.landed_with_roots]⟩

/-- **Independent writes commute.** At any moment of a run, let two writes be made in either order,
each of any mode and from any scope. If they concern different namespaces or names, or if their
scopes are in chains with different roots, then
- each answers what it answers if it is made first: that it has succeeded, or the very value that it
  was given,
- in the end both orders have led to the same store, but for what has been remembered of roots,
- so all look-ups answer the same, every environment finds the same names bound at the root and is
  shown alike in debugging output, all tables are of the same size, and the roots that chains answer
  are the same. -/
theorem independent_writes_commute (h : Run actions forest) {first second : Writing}
    (hfirst : first.scope.handle ∈ forest.known) (hsecond : second.scope.handle ∈ forest.known)
    (hindependent : first.Independent second) :
    let straight := ((forest.after first.action).after second.action).store
    let swapped := ((forest.after second.action).after first.action).store
    (first.answer (forest.after second.action).store = first.answer forest.store ∧
      second.answer (forest.after first.action).store = second.answer forest.store) ∧
    swapped = { straight with roots := swapped.roots } ∧
    (∀ handle : Handle,
      (∀ (ns : Namespace) (name : String),
        swapped.get? handle.env ns name = straight.get? handle.env ns name ∧
        swapped.isBoundAtRoot handle.env ns name = straight.isBoundAtRoot handle.env ns name) ∧
      swapped.debugText handle.env = straight.debugText handle.env) ∧
    (∀ (scope : Scope) (ns : Namespace),
      (swapped.tableOf scope ns).count = (straight.tableOf scope ns).count) ∧
    ∀ handle ∈ forest.known,
      ((Store.rootOf handle.env).run swapped).1 = ((Store.rootOf handle.env).run straight).1 := by
  intro straight swapped
  have hcoherent := h.coherent
  obtain ⟨roots, hstraight⟩ : ∃ roots, straight = _ := h.exists_roots_of_writings hfirst hsecond
  obtain ⟨roots', hswapped⟩ : ∃ roots, swapped = _ := h.exists_roots_of_writings hsecond hfirst
  have hsame : swapped = { straight with roots := swapped.roots } := by
    rw [hswapped, hstraight, hindependent.landed_comm hcoherent hfirst hsecond]
  have htables : swapped.tables = straight.tables := by rw [hsame]
  refine ⟨⟨?_, ?_⟩, hsame, fun handle => ⟨fun ns name => ?_, ?_⟩, fun scope ns => ?_,
    fun handle hknown => ?_⟩
  · -- What has been remembered of roots plays no part in a search.
    obtain ⟨roots, hafter⟩ := h.exists_roots_of_writing hsecond
    rw [hafter]
    refine (Writing.of_binder?_eq ?_).2
    exact hindependent.symm.binder?_landed hcoherent hsecond hfirst
  · obtain ⟨roots, hafter⟩ := h.exists_roots_of_writing hfirst
    rw [hafter]
    refine (Writing.of_binder?_eq ?_).2
    exact hindependent.binder?_landed hcoherent hfirst hsecond
  · exact Store.get?_congr (fun scope => Store.own?_of_tables_eq htables ns _ scope) handle.env
  · exact Store.debugText_of_tables_eq htables handle.env
  · rw [Store.tableOf, Store.bindingsOf, htables, Store.tableOf, Store.bindingsOf]
  · have hsecond' : second.scope.handle ∈ (forest.after first.action).known := .inl hsecond
    have hfirst' : first.scope.handle ∈ (forest.after second.action).known := .inl hfirst
    have hstraight := ((h.act_writing hfirst).act_writing hsecond').coherent
    have hswapped := ((h.act_writing hsecond).act_writing hfirst').coherent
    rw [(hswapped.rootOf (.inl (.inl hknown))).1, (hstraight.rootOf (.inl (.inl hknown))).1]

/-- A root beside the sample. -/
def otherRoot : Scope := .root 3 sampleSnapshot ⟨1⟩

/-- The variable of the sample is assigned in its nested scope. -/
def nestedWriting : Writing :=
  ⟨.existingOrHere, sampleNested, .var, "main_color", .null⟩

/-- The same variable is assigned in the other chain, which does not bind it. -/
def otherWriting : Writing :=
  ⟨.existing, otherRoot, .var, "main-color", .bool true⟩

/-- In the sample, the name stays unbound in the other chain when it is assigned in the first one,
and the value is handed back all the same. -/
theorem otherWriting_commutes :
    ∃ forest, Run (.root sampleSnapshot ⟨1⟩ :: shadowing) forest ∧
      nestedWriting.Independent otherWriting ∧
      otherWriting.answer forest.store = .error (.bool true) ∧
      otherWriting.answer (forest.after nestedWriting.action).store = .error (.bool true) ∧
      ((forest.after otherWriting.action).after nestedWriting.action).store.get? sampleNested .var
          "main-color" =
        ((forest.after nestedWriting.action).after otherWriting.action).store.get? sampleNested .var
          "main-color" := by
  have hrun : Run (.root sampleSnapshot ⟨1⟩ :: shadowing)
      (.ofActions (.root sampleSnapshot ⟨1⟩ :: shadowing)) := run_shadowing.act _ nofun
  have hnested : nestedWriting.scope.handle ∈
      (Forest.ofActions (.root sampleSnapshot ⟨1⟩ :: shadowing)).known :=
    .inl (known_shadowing _ (by simp [nestedWriting]))
  have hother : otherWriting.scope.handle ∈
      (Forest.ofActions (.root sampleSnapshot ⟨1⟩ :: shadowing)).known := .inr rfl
  have hindependent : nestedWriting.Independent otherWriting := by
    refine .inr fun hroots => ?_
    cases congrArg Root.key hroots
  have hanswer : otherWriting.answer
      (Forest.ofActions (.root sampleSnapshot ⟨1⟩ :: shadowing)).store = .error (.bool true) := rfl
  obtain ⟨⟨-, hsecond⟩, -, hreads, -⟩ :=
    independent_writes_commute hrun hnested hother hindependent
  exact ⟨_, hrun, hindependent, hanswer, hsecond.trans hanswer,
    ((hreads sampleNested.handle).1 .var "main-color").1⟩

end Run

end Stylesheet
