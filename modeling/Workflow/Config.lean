/-!
# Settings

The two expression dialects and the limits that bound every run.
-/

namespace Workflow

/-- The language in which states write their expressions. -/
inductive Dialect where
  /-- Paths and intrinsic calls. -/
  | path
  /-- Expressions between `{%` and `%}`. -/
  | functional
deriving DecidableEq, Inhabited

namespace Dialect

/-- The name a definition gives a dialect. -/
def name : Dialect → String
  | .path => "JSONPath"
  | .functional => "JSONata"

/-- The dialect of a name; the functional one has two names. -/
def ofName? : String → Option Dialect
  | "JSONPath" => some .path
  | "JSONata" => some .functional
  | "JEXL" => some .functional
  | _ => none

end Dialect

/-- Settings shared by every run. -/
structure Config where
  /-- The dialect of machines and states that declare none. -/
  dialect : Dialect := .path
  /-- How many states one run may enter, nested graphs included. -/
  maxTransitions : Nat := 25000
  /-- How deep choice rules may be nested. -/
  maxChoiceDepth : Nat := 64
  /-- How many elements an array range may have. -/
  maxArrayRange : Nat := 1000
  /-- Whether a Map that is going to fail aborts its running wave. -/
  cancelWave : Bool := false
  /-- The time limit in seconds of a Task that declares none. -/
  taskTimeout : Option Nat := none
deriving DecidableEq, Inhabited

end Workflow
