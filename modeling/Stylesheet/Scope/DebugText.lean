import Stylesheet.Scope.Store

/-! # Environments in debugging output

The text by which debugging output shows an environment: what the very scope binds, or what a view
wraps. -/

namespace Stylesheet.Store

/-- A scope as debugging output shows it. -/
def scopeText (store : Store) (scope : Scope) : String :=
  let bindings := store.bindingsOf scope
  "Environment \x7b depth: " ++ toString scope.depth ++
    ", variables: [" ++ ", ".intercalate (bindings.vars.names.map Text.quoted) ++ "]" ++
    ", mixins: " ++ toString bindings.mixins.count ++
    ", functions: " ++ toString bindings.functions.count ++
    ", has_caller: " ++ toString scope.ownCaller?.isSome ++
    ", has_content: " ++ toString scope.ownContent?.isSome ++ ", .. \x7d"

/-- What a view wraps, as debugging output shows it. -/
def wrappedText (store : Store) : {a : Access} → Env a → String
  | .writable, scope => "Owned(" ++ store.scopeText scope ++ ")"
  | .readOnly, .view _ _ inner => "Viewed(ReadOnlyEnvironment(" ++ store.wrappedText inner ++ "))"

/-- An environment **as debugging output shows it**. -/
def debugText (store : Store) : {a : Access} → Env a → String
  | .writable, scope => store.scopeText scope
  | .readOnly, .view _ _ inner => "ReadOnlyEnvironment(" ++ store.wrappedText inner ++ ")"

/-- What a view of a scope wraps is the scope, in full. -/
theorem wrappedText_scope (store : Store) (scope : Scope) :
    store.wrappedText scope = "Owned(" ++ store.scopeText scope ++ ")" := by
  cases scope <;> rfl

/-- What a view of a view wraps is that view. -/
theorem wrappedText_view (store : Store) (key : Nat) (snapshot : Snapshot) {a : Access}
    (inner : Env a) :
    store.wrappedText (.view key snapshot inner) =
      "Viewed(ReadOnlyEnvironment(" ++ store.wrappedText inner ++ "))" := rfl

/-- A scope shows itself. -/
theorem debugText_scope (store : Store) (scope : Scope) :
    store.debugText scope = store.scopeText scope := by
  cases scope <;> rfl

/-- A view shows what it wraps. -/
theorem debugText_view (store : Store) (key : Nat) (snapshot : Snapshot) {a : Access}
    (inner : Env a) :
    store.debugText (.view key snapshot inner) =
      "ReadOnlyEnvironment(" ++ store.wrappedText inner ++ ")" := rfl

end Stylesheet.Store

/-- A weak handle as debugging output shows it, which tells whether its scope is alive. -/
def Stylesheet.Scope.weakText (alive : Bool) : String :=
  if alive then "WeakEnvironment(live)" else "WeakEnvironment(dropped)"
