import Stylesheet.Name
import Stylesheet.Scope.Env

/-! # Callables

A **callable** describes a mixin or a function: its parameters, its body and the scope that declares
it. Bindings hold callables, and the declaring scope usually holds the binding; so a callable does
not keep that scope alive, and whoever invokes it has to find the scope alive first. -/

namespace Stylesheet

/-- The two kinds of callables. -/
inductive Callable.Kind where
  /-- A mixin. -/
  | mixin
  /-- A function. -/
  | function
  deriving DecidableEq

/-- A mixin or function. -/
structure Callable where
  /-- Whether this is a mixin or a function. -/
  kind : Callable.Kind
  /-- Its name. -/
  name : Name
  /-- The names of its parameters. -/
  params : List Name
  /-- The name bound to any further arguments. -/
  rest : Option Name
  /-- The identity of the body. -/
  bodyKey : Nat
  /-- The body. -/
  body : List Node
  /-- The body accepts a content block. -/
  takesContent : Bool
  /-- The scope that declares the callable, which the callable does not keep alive. -/
  scope : Scope

namespace Callable

/-- The word for a kind. -/
def Kind.name : Kind → String
  | mixin => "mixin"
  | function => "function"

/-- A kind as debugging output shows it. -/
def Kind.debugText : Kind → String
  | mixin => "Mixin"
  | function => "Function"

/-- Two callables are **the same declaration** if they share a body, and kind and name agree. -/
def same (a b : Callable) : Bool :=
  a.kind = b.kind && a.name = b.name && a.bodyKey == b.bodyKey

/-- A callable as debugging output shows it. -/
def debugText (callable : Callable) : String :=
  let rest :=
    match callable.rest with
    | none => "None"
    | some name => "Some(" ++ name.debugText ++ ")"
  "Callable \x7b kind: " ++ callable.kind.debugText ++
    ", name: " ++ callable.name.debugText ++
    ", params: [" ++ ", ".intercalate (callable.params.map Name.debugText) ++ "]" ++
    ", rest: " ++ rest ++
    ", has_content: " ++ toString callable.takesContent ++ ", .. \x7d"

/-- The error that the declaring scope of a callable no longer exists. -/
def endedMessage (callable : Callable) : String :=
  "The scope declaring " ++ callable.kind.name ++ " " ++ callable.name.text ++
    " has already ended."

end Callable

end Stylesheet
