import Stylesheet.Scope.Store

/-! # Selectors of scopes

The scope of a style rule holds the rule's resolved selector. A scope without one takes the selector
in effect at its call site, if it is a body, or else that of the enclosing scope. -/

namespace Stylesheet.Store

/-- The **selector in effect**: that of the very scope, else the one at its captured call site, else
the one of the enclosing scope. -/
def selector? (store : Store) : {a : Access} → Env a → Option SelectorList
  | _, .root key _ _ => store.selectors[key]?
  | _, .nested key _ parent => store.selectors[key]?.or (selector? store parent)
  | _, .body key parent caller =>
    store.selectors[key]?.or ((selector? store caller).or (selector? store parent))
  | _, .bodyWith key parent caller _ _ =>
    store.selectors[key]?.or ((selector? store caller).or (selector? store parent))
  | _, .view _ _ inner => selector? store inner

/-- Sets the selector of a scope. -/
def setSelectorOf (store : Store) (scope : Scope) (selector : SelectorList) : Store :=
  { store with selectors := store.selectors.insert scope.key selector }

/-- The selector of a rule that is written in an environment, nested into the one in effect. -/
def ruleSelector {a : Access} (store : Store) (env : Env a) (selector : SelectorList) :
    SelectorList :=
  match store.selector? env with
  | none => selector
  | some enclosing => enclosing.nest selector

/-- A new scope for a **style rule** that is written in a scope. -/
def newRule (scope : Scope) (selector : SelectorList) : Scoping Scope := do
  let resolved := (← get).ruleSelector scope selector
  let rule ← newNested scope none
  modify fun store => store.setSelectorOf rule resolved
  return rule

/-- A view has the selector of the scope behind it. -/
@[simp] theorem selector?_unwrapped (store : Store) {a : Access} (env : Env a) :
    store.selector? env.unwrapped = store.selector? env := by
  induction env with
  | view _ _ inner ih => exact ih
  | _ => rfl

/-- The selector that was set is the selector in effect. -/
@[simp] theorem selector?_setSelector (store : Store) (scope : Scope) (selector : SelectorList) :
    (store.setSelectorOf scope selector).selector? scope = some selector := by
  cases scope <;> simp [setSelectorOf, selector?, Env.key]

end Stylesheet.Store
