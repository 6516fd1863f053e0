import Stylesheet.Scope.Store

/-! # Chains of scopes

Look-ups walk the path of an environment outward and answer from the nearest scope that binds the
name. Assignments overwrite the nearest existing binding or, if there is none, declare the name in
the assigning scope; declarations write to the scope itself or to the root of its chain. Names are
taken in any spelling and normalized here. -/

namespace Stylesheet.Store

/-! ## Look-up -/

/-- What the very scope binds to a normalized spelling. -/
def own? (store : Store) (ns : Namespace) (text : String) (scope : Scope) : Option ns.Bound :=
  (store.tableOf scope ns).get? text

/-- What the nearest binding of a name holds. -/
def get? {a : Access} (store : Store) (env : Env a) (ns : Namespace) (name : String) :
    Option ns.Bound :=
  env.path.findSome? (store.own? ns (Name.normalize name))

/-- The nearest scope that binds a name. -/
def binder? {a : Access} (store : Store) (env : Env a) (ns : Namespace) (name : String) :
    Option Scope :=
  env.path.find? fun scope => (store.tableOf scope ns).contains (Name.normalize name)

/-- The nearest scope that binds a name is the root. A name that is not bound is not global. -/
def isBoundAtRoot {a : Access} (store : Store) (env : Env a) (ns : Namespace) (name : String) :
    Bool :=
  match store.binder? env ns name with
  | none => false
  | some scope => scope.isRoot

/-- A look-up answers what the nearest binder holds. -/
theorem get?_eq_binder? {a : Access} (store : Store) (env : Env a) (ns : Namespace)
    (name : String) :
    store.get? env ns name =
      (store.binder? env ns name).bind (store.own? ns (Name.normalize name)) := by
  unfold get? binder?
  induction env.path with
  | nil => rfl
  | cons scope rest ih =>
    cases h : (store.tableOf scope ns).get? (Name.normalize name) with
    | none => simp [own?, Table.contains, h, ih]
    | some value => simp [own?, Table.contains, h]

/-- A view answers as the scope behind it does. -/
@[simp] theorem get?_unwrapped {a : Access} (store : Store) (env : Env a) (ns : Namespace)
    (name : String) : store.get? env.unwrapped ns name = store.get? env ns name := by
  rw [get?, get?, Env.path_unwrapped]

/-! ## Roots -/

/-- The root that a nested scope has remembered, or else the one that `find` computes, which is
remembered from now on. -/
def rememberRoot (key : Nat) (find : Scoping Root) : Scoping Root := fun store =>
  match store.roots[key]? with
  | some root => (root, store)
  | none =>
    let (root, after) := find.run store
    (root, { after with roots := after.roots.insert key root })

/-- The **root** of a chain. Every nested scope on the way remembers it. -/
def rootOf : {a : Access} → Env a → Scoping Root
  | _, .root key snapshot trace => return ⟨key, snapshot, trace⟩
  | _, .nested key _ parent => rememberRoot key (rootOf parent)
  | _, .body key parent _ => rememberRoot key (rootOf parent)
  | _, .bodyWith key parent _ _ _ => rememberRoot key (rootOf parent)
  | _, .view _ _ inner => rootOf inner

/-- The trace that a chain shares. -/
def traceOf {a : Access} (env : Env a) : Scoping TraceRef := do
  return (← rootOf env).trace

/-! ## Assignment -/

/-- Overwrites the first existing binding along a path. The value is handed from scope to scope and
back if none of them binds the name. -/
def assignAlong (store : Store) (ns : Namespace) (text : String) :
    List Scope → ns.Bound → Except ns.Bound Store
  | [], value => .error value
  | scope :: outer, value =>
    match (store.tableOf scope ns).replace text value with
    | .ok table => .ok (store.setTableOf scope ns table)
    | .error value => assignAlong store ns text outer value

/-- Overwrites the **nearest existing binding** of a name; hands the value back if there is none. -/
def overwrite (store : Store) (scope : Scope) (ns : Namespace) (name : String) (value : ns.Bound) :
    Except ns.Bound Store :=
  store.assignAlong ns (Name.normalize name) scope.path value

/-- Creates or overwrites a binding in the very scope, shadowing outer ones. -/
def declare (store : Store) (scope : Scope) (ns : Namespace) (name : String) (value : ns.Bound) :
    Store :=
  store.setTableOf scope ns ((store.tableOf scope ns).bind (Name.ofRaw name) value)

/-- Overwrites the nearest existing binding of a name, or declares the name in the very scope if
there is none. -/
def assign (store : Store) (scope : Scope) (ns : Namespace) (name : String) (value : ns.Bound) :
    Store :=
  match store.overwrite scope ns name value with
  | .ok after => after
  | .error value => store.declare scope ns name value

/-- Creates or overwrites a binding on the root of the chain, whatever nearer scopes bind. -/
def declareAtRoot (scope : Scope) (ns : Namespace) (name : String) (value : ns.Bound) :
    Scoping Unit := do
  let root ← rootOf scope
  modify fun store => store.declare root.scope ns name value

/-- An assignment succeeds exactly if the name is bound somewhere on the path, and then it writes
to the nearest binder. -/
theorem overwrite_eq (store : Store) (scope : Scope) (ns : Namespace) (name : String)
    (value : ns.Bound) :
    store.overwrite scope ns name value =
      match store.binder? scope ns name with
      | none => .error value
      | some target => .ok (store.declare target ns name value) := by
  unfold overwrite binder?
  induction scope.path with
  | nil => rfl
  | cons inner outer ih =>
    cases h : (store.tableOf inner ns).contains (Name.normalize name) with
    | false => simp [assignAlong, Table.replace, h, ih]
    | true => simp [assignAlong, Table.replace, h, declare, Table.bind]

end Stylesheet.Store
