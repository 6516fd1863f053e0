import Std.Data.ExtTreeSet.Lemmas
import Stylesheet.Scope.Env

/-! # Lifetimes

A scope is **alive** while something holds it: a held scope, view or content block, or an
environment that is itself alive and has the scope as its enclosing scope, call site, content
environment or wrapped environment. Callables hold nothing. -/

namespace Stylesheet

/-- The keys of the scopes and views that have been reached so far. -/
structure Reached where
  /-- The scopes. -/
  scopes : Std.ExtTreeSet Nat
  /-- The views. -/
  views : Std.ExtTreeSet Nat

namespace Reached

/-- Nothing has been reached. -/
def empty : Reached := ⟨∅, ∅⟩

/-- A scope and what `links` reaches from its links, unless the scope has been reached already. -/
def addScope (reached : Reached) (key : Nat) (links : Reached → Reached) : Reached :=
  if reached.scopes.contains key then reached
  else
    let beyond := links reached
    { beyond with scopes := beyond.scopes.insert key }

/-- A view and what `links` reaches from its link, unless the view has been reached already. -/
def addView (reached : Reached) (key : Nat) (links : Reached → Reached) : Reached :=
  if reached.views.contains key then reached
  else
    let beyond := links reached
    { beyond with views := beyond.views.insert key }

/-- An environment and all that its links lead to. Environments that share their links are visited
once. -/
def addEnv : {a : Access} → Env a → Reached → Reached
  | _, .root key _ _, reached => reached.addScope key id
  | _, .nested key _ parent, reached => reached.addScope key (addEnv parent)
  | _, .body key parent caller, reached =>
    reached.addScope key fun r => addEnv caller (addEnv parent r)
  | _, .bodyWith key parent caller _ content, reached =>
    reached.addScope key fun r => addEnv content (addEnv caller (addEnv parent r))
  | _, .view key _ inner, reached => reached.addView key (addEnv inner)

/-- All that a number of handles reach. -/
def ofHandles (held : List Handle) : Reached :=
  held.foldl (fun reached handle => addEnv handle.env reached) empty

end Reached

/-- The scope is **alive** as long as these handles are held. -/
def Scope.isAlive (held : List Handle) (scope : Scope) : Bool :=
  (Reached.ofHandles held).scopes.contains scope.key

end Stylesheet
