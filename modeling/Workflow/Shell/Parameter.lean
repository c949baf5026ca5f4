import Workflow.Decimal.Literal
import Workflow.Shell.Pattern
import Workflow.Shell.Session

/-!
# Parameters

The values of parameters, and what is left of them when a pattern is taken off.
-/

namespace Workflow.Shell

/-- The value of a parameter. -/
def Session.parameter? (session : Session) (name : String) : Option String :=
  match name with
  | "?" => some (Decimal.natText session.status)
  | "#" => some (Decimal.natText session.arguments.length)
  | "$" => some (Decimal.natText session.identity)
  | "0" => some session.name
  | "@" => some (" ".intercalate session.arguments)
  | "*" => some (" ".intercalate session.arguments)
  | "!" => some ""
  | "-" => some ""
  | _ =>
    match name.toNat? with
    | some place => session.arguments[place - 1]?
    | none => session.valueOf? name

/-- The symbols of a pattern whose characters are not quoted. -/
def patternSymbols (text : String) : List Symbol :=
  symbols (text.length + 1) (text.toList.map fun c => (c, false))

/-- Drops a beginning that a pattern stands for. -/
def dropMatch (longest : Bool) (pattern : List Symbol) (text : List Char) : List Char :=
  let counts := List.range (text.length + 1)
  let counts := if longest then counts.reverse else counts
  match counts.find? fun count => isMatch pattern (text.take count) with
  | some count => text.drop count
  | none => text

/-- Drops an ending that a pattern stands for. -/
def dropMatchEnd (longest : Bool) (pattern : List Symbol) (text : List Char) : List Char :=
  let counts := List.range (text.length + 1)
  let counts := if longest then counts else counts.reverse
  match counts.find? fun count => isMatch pattern (text.drop count) with
  | some count => text.take count
  | none => text

end Workflow.Shell
