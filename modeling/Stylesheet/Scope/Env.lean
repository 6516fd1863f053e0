import Stylesheet.Import.Options
import Stylesheet.Selector

/-! # Environments

An **environment** is a scope or a read-only view of one. Its links are fixed when it is made: the
enclosing scope, the captures of a call, the environment behind a view. Whatever changes later, such
as bindings and selectors, is kept in a store under the environment's key. Links lead to older
environments only, so every walk along them is a recursion on the environment itself.

The type says what a holder may do: `Env .writable` is a scope, `Env .readOnly` a view, and only
scopes have operations that write. -/

namespace Stylesheet

/-- The identity of a trace that several holders share. -/
structure TraceRef where
  /-- The key. -/
  key : Nat
  deriving DecidableEq

/-- What the holder of an environment may do with it. -/
inductive Access where
  /-- Read and write. -/
  | writable
  /-- Read only. -/
  | readOnly
  deriving DecidableEq

/-- An **environment**, with the links that it was made with. -/
inductive Env : Access → Type where
  /-- A scope without an enclosing one; it owns the trace of its chain. -/
  | root (key : Nat) (snapshot : Snapshot) (trace : TraceRef) : Env .writable
  /-- A scope nested in another. -/
  | nested (key : Nat) (snapshot : Snapshot) (parent : Env .writable) : Env .writable
  /-- The scope of a body, nested in the declaring scope, with the captured call site. -/
  | body (key : Nat) (parent : Env .writable) {a : Access} (caller : Env a) : Env .writable
  /-- The scope of a body that was also passed a content block. -/
  | bodyWith (key : Nat) (parent : Env .writable) {a : Access} (caller : Env a)
      (nodes : List Node) {b : Access} (content : Env b) : Env .writable
  /-- A view of an environment. -/
  | view (key : Nat) (snapshot : Snapshot) {a : Access} (inner : Env a) : Env .readOnly

/-- A **scope**: an environment that can be written to. -/
abbrev Scope := Env .writable

/-- A **view**: an environment that can only be read. -/
abbrev View := Env .readOnly

/-- A scope or a view. -/
structure Handle where
  /-- Which of the two it is. -/
  {access : Access}
  /-- The environment. -/
  env : Env access

/-- Pieces of a sheet with the environment they belong to. -/
structure ContentBlock (ε : Type) where
  /-- The pieces. -/
  nodes : List Node
  /-- The environment the block closes over. -/
  environment : ε

/-- The same pieces with another environment. -/
def ContentBlock.map {ε δ : Type} (f : ε → δ) (block : ContentBlock ε) : ContentBlock δ :=
  ⟨block.nodes, f block.environment⟩

namespace Env

/-- The key of an environment. Scopes and views are numbered separately. -/
def key : {a : Access} → Env a → Nat
  | _, .root key _ _ => key
  | _, .nested key _ _ => key
  | _, .body key _ _ => key
  | _, .bodyWith key _ _ _ _ => key
  | _, .view key _ _ => key

/-- The options in effect; a body runs under those of its declaring scope. -/
def snapshot : {a : Access} → Env a → Snapshot
  | _, .root _ snapshot _ => snapshot
  | _, .nested _ snapshot _ => snapshot
  | _, .body _ parent _ => parent.snapshot
  | _, .bodyWith _ parent _ _ _ => parent.snapshot
  | _, .view _ snapshot _ => snapshot

/-- The **path** of an environment: the scope, then each enclosing one up to the root. A view has
the path of what it wraps. -/
def path : {a : Access} → Env a → List Scope
  | _, .root key snapshot trace => [.root key snapshot trace]
  | _, .nested key snapshot parent => .nested key snapshot parent :: parent.path
  | _, .body key parent caller => .body key parent caller :: parent.path
  | _, .bodyWith key parent caller nodes content =>
    .bodyWith key parent caller nodes content :: parent.path
  | _, .view _ _ inner => inner.path

/-- The scope behind any number of views. -/
def unwrapped : {a : Access} → Env a → Scope
  | _, .root key snapshot trace => .root key snapshot trace
  | _, .nested key snapshot parent => .nested key snapshot parent
  | _, .body key parent caller => .body key parent caller
  | _, .bodyWith key parent caller nodes content => .bodyWith key parent caller nodes content
  | _, .view _ _ inner => inner.unwrapped

/-- The environment as a handle. -/
def handle {a : Access} (env : Env a) : Handle := ⟨env⟩

/-- A view has the path of the scope behind it. -/
theorem path_unwrapped {a : Access} (env : Env a) : env.unwrapped.path = env.path := by
  induction env with
  | view _ _ inner ih => exact ih
  | _ => rfl

end Env

/-- The **root** of a chain of scopes. -/
structure Root where
  /-- The key of the scope. -/
  key : Nat
  /-- The options in effect. -/
  snapshot : Snapshot
  /-- The trace that the chain shares. -/
  trace : TraceRef

/-- The root as a scope. -/
def Root.scope (root : Root) : Scope :=
  .root root.key root.snapshot root.trace

/-- The root of the chain of an environment. -/
def Env.chainRoot : {a : Access} → Env a → Root
  | _, .root key snapshot trace => ⟨key, snapshot, trace⟩
  | _, .nested _ _ parent => parent.chainRoot
  | _, .body _ parent _ => parent.chainRoot
  | _, .bodyWith _ parent _ _ _ => parent.chainRoot
  | _, .view _ _ inner => inner.chainRoot

/-- Two handles refer to the **same** scope or to the same view. -/
def Handle.same (x y : Handle) : Bool :=
  x.access = y.access && x.env.key == y.env.key

namespace Scope

/-- The enclosing scope. -/
def parent? : Scope → Option Scope
  | .root _ _ _ => none
  | .nested _ _ parent => some parent
  | .body _ parent _ => some parent
  | .bodyWith _ parent _ _ _ => some parent

/-- The scope has no enclosing one. -/
def isRoot (scope : Scope) : Bool :=
  scope.parent?.isNone

/-- The number of enclosing scopes. -/
def depth (scope : Scope) : Nat :=
  scope.path.length - 1

/-- The call site that this very scope has captured. -/
def ownCaller? : Scope → Option Handle
  | .body _ _ caller => some caller.handle
  | .bodyWith _ _ caller _ _ => some caller.handle
  | _ => none

/-- The content block that this very scope has captured. -/
def ownContent? : Scope → Option (ContentBlock Handle)
  | .bodyWith _ _ _ nodes content => some ⟨nodes, content.handle⟩
  | _ => none

/-- The call site of the nearest body on the path. -/
def caller? (scope : Scope) : Option Handle :=
  scope.path.findSome? ownCaller?

/-- The content block of the nearest body on the path that has one. -/
def content? (scope : Scope) : Option (ContentBlock Handle) :=
  scope.path.findSome? ownContent?

/-- The root of a chain is the last scope of the path. -/
theorem getLast?_path (scope : Scope) : scope.path.getLast? = some scope.chainRoot.scope := by
  suffices ∀ {a : Access} (env : Env a), env.path.getLast? = some env.chainRoot.scope from
    this scope
  intro a env
  induction env with
  | root _ _ _ => rfl
  | view _ _ _ ih => exact ih
  | nested _ _ _ ih => simp [Env.path, Env.chainRoot, List.getLast?_cons, ih]
  | body _ _ _ ih _ => simp [Env.path, Env.chainRoot, List.getLast?_cons, ih]
  | bodyWith _ _ _ _ _ ih _ _ => simp [Env.path, Env.chainRoot, List.getLast?_cons, ih]

/-- The path of a scope is the scope itself and the path of the enclosing one. -/
theorem path_eq (scope : Scope) :
    scope.path = scope :: (scope.parent?.map Env.path).getD [] := by
  cases scope <;> rfl

end Scope

namespace View

/-- What a view wraps. -/
def inner : View → Handle
  | .view _ _ inner => inner.handle

end View

end Stylesheet
