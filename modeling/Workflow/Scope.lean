import Workflow.Config
import Workflow.Path.Parser
import Workflow.Path.Select
import Workflow.Random

/-!
# Scopes

A scope is what an expression can read: the current input, the context object, the variables, and
a result or an error while one of those is being shaped. Paths are evaluated against a scope.
Nothing found is not the same as `null`. Whatever else is evaluated against a scope may draw from a
random source, and what it drew stays drawn when it fails.
-/

namespace Workflow

/-- Variables by name, in key order. -/
abbrev Variables := List (String × Json)

/-- The values that expressions can read. -/
structure Scope where
  input : Json
  context : Json
  bindings : Variables
  result : Option Json := none
  errorOutput : Option Json := none
  config : Config := {}
deriving Inhabited

namespace Path

/-- The document that a path starts from; an unset variable has none. -/
def Root.value? (root : Root) (scope : Scope) : Option Json :=
  match root with
  | .input => some scope.input
  | .context => some scope.context
  | .variable name => Json.lookup name scope.bindings

/-- The value of a path in a scope, if it finds anything. -/
def value? (path : Path) (scope : Scope) : Except Overrun (Option Json) :=
  match path.root.value? scope with
  | some document => valueOf path.selectors document
  | none => .ok none

/-- Reads a path and evaluates it. -/
def evaluate (text : String) (scope : Scope) : Except Error (Option Json) := do
  let path ← parse text
  (path.value? scope).mapError .overrun

/-- Writes a value into a document where a reference path points. -/
def place (text : String) (document value : Json) : Except Error Json := do
  let path ← parse text
  match path.reference? with
  | none => throw (.notReference text)
  | some steps =>
    match placeAt steps document value with
    | .ok placed => return placed
    | .error obstacle => throw (.blocked text obstacle)

end Path

/-- A computation that draws from the random source and may fail. -/
abbrev Evaluation (ε α : Type) := ExceptT ε (StateM Random.Source) α

namespace Evaluation

variable {ε δ α : Type}

/-- A result that draws nothing. -/
def ofExcept (result : Except ε α) : Evaluation ε α := ExceptT.mk (pure result)

/-- A result that draws nothing, with its errors seen as errors of another kind. -/
def lifted (wrap : ε → δ) (result : Except ε α) : Evaluation δ α :=
  ofExcept (result.mapError wrap)

end Evaluation

end Workflow
