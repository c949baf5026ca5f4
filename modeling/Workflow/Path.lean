import Workflow.Json
import Workflow.Decimal.Literal
import Workflow.Text.Quoted

/-!
# Paths

A path starts at the current input, at the context object or at a variable, and goes on with
selectors: members, indices, wildcards, slices, unions, filters and recursive descent. A reference
path addresses exactly one place below the input, by member names and indices that do not count
from the end; only reference paths can be written to.

Errors are kept as causes. `Path.Error.message` is their only wording.
-/

namespace Workflow

namespace Path

/-- What the leading `$` of a path refers to. -/
inductive Root where
  /-- The current input, written `$`. -/
  | input
  /-- The context object, written `$$`. -/
  | context
  /-- A variable, written `$name`. -/
  | variable (name : String)
deriving DecidableEq, Inhabited

inductive Comparison where
  | eq | ne | lt | le | gt | ge
deriving DecidableEq, Inhabited

/-- Ways to join two filters. -/
inductive Connective where
  | and | or
deriving DecidableEq, Inhabited

mutual

inductive Selector where
  /-- The member of an object with a name. -/
  | child (name : String)
  /-- The item of an array at a position, counted from the end when negative. -/
  | index (position : Int)
  /-- Every item or member value. -/
  | wildcard
  /-- The items of an array between two bounds, in steps. -/
  | slice (start stop step : Option Int)
  /-- What several selectors match, one after the other. -/
  | union (members : List Selector)
  /-- The items and member values that meet a condition. -/
  | filter (condition : Filter)
  /-- A selector applied at every depth. -/
  | descend (inner : Selector)

/-- A condition on the value called `@`. -/
inductive Filter where
  /-- Something is found below `@`. -/
  | present (path : List Selector)
  | compare (left : Operand) (comparison : Comparison) (right : Operand)
  | join (left : Filter) (connective : Connective) (right : Filter)
  | not (inner : Filter)

/-- A side of a comparison. -/
inductive Operand where
  /-- The first value found below `@`. -/
  | current (path : List Selector)
  | literal (value : Json)

end

instance : Inhabited Selector := ⟨.wildcard⟩

instance : Inhabited Filter := ⟨.present []⟩

instance : Inhabited Operand := ⟨.literal .null⟩

/-- A step of a reference path. -/
inductive Step where
  | name (name : String)
  | position (position : Nat)
deriving DecidableEq, Inhabited

/-- The step that a selector is in a reference path. -/
def Selector.step? : Selector → Option Step
  | .child name => some (.name name)
  | .index position => if 0 ≤ position then some (.position position.toNat) else none
  | _ => none

/-- The steps of a selector list that could end a reference path. -/
def steps? : List Selector → Option (List Step)
  | [] => some []
  | selector :: rest =>
    match selector.step?, steps? rest with
    | some step, some steps => some (step :: steps)
    | _, _ => none

end Path

/-- A path: where it starts and the selectors it goes on with. -/
structure Path where
  root : Path.Root
  selectors : List Path.Selector
deriving Inhabited

namespace Path

/-- The steps of a reference path; other paths have none. -/
def reference? (path : Path) : Option (List Step) :=
  match path.root with
  | .input => steps? path.selectors
  | _ => none

/-! ## Errors -/

/-- Why a text is not a path. -/
inductive Flaw where
  | trailing
  | noDollar
  | expected (c : Char)
  | noName
  | sliceInUnion
  | noMember
  | badInteger (digits : String)
  | openString
  | openEscape
  | loneLiteral
  | noOperand
  | badNumber (text : String)
deriving DecidableEq, Inhabited

def Flaw.message : Flaw → String
  | .trailing => "unexpected trailing characters"
  | .noDollar => "path must start with '$'"
  | .expected c => s!"expected '{c}'"
  | .noName => "expected a member name"
  | .sliceInUnion => "slices cannot appear in a union"
  | .noMember => "expected an index, name or slice"
  | .badInteger digits => s!"invalid integer '{digits}'"
  | .openString => "unterminated string"
  | .openEscape => "unterminated escape"
  | .loneLiteral => "a literal cannot stand alone in a filter"
  | .noOperand => "expected '@' or a literal"
  | .badNumber text => s!"invalid number '{text}'"

/-- Why a value cannot be placed where a reference path points. -/
inductive Obstacle where
  /-- The array at an index step is too short. -/
  | outOfBounds (position : Nat) (length : Nat)
  /-- A step meets a value of the wrong kind. -/
  | wrongKind (step : Step) (kind : String)
deriving DecidableEq, Inhabited

/-- A step of a slice that leaves the signed 64-bit integers. -/
structure Overrun where
  /-- The place that the slice stands at. -/
  place : Nat
  step : Int
deriving DecidableEq, Inhabited

def Overrun.message (overrun : Overrun) : String :=
  "a slice at place " ++ Decimal.natText overrun.place ++ " cannot step by " ++
    Decimal.integerText overrun.step

/-- A step as messages show it. -/
def Step.shown : Step → String
  | .name key => "Child(" ++ Text.quotedName key ++ ")"
  | .position place => "Index(" ++ Decimal.natText place ++ ")"

def Obstacle.message : Obstacle → String
  | .outOfBounds place length =>
    "index " ++ Decimal.natText place ++ " is out of bounds (" ++ Decimal.natText length ++ ")"
  | .wrongKind step kind => "cannot apply " ++ step.shown ++ " to " ++ kind

/-- What can go wrong with a path. -/
inductive Error where
  /-- The text is not a path; the offset counts characters of the trimmed text. -/
  | malformed (text : String) (flaw : Flaw) (offset : Nat)
  /-- A template field that asks for a path or a call holds no text. -/
  | notText (field : String)
  | notReference (text : String)
  | blocked (text : String) (obstacle : Obstacle)
  /-- Whatever evaluates the path comes to a halt. -/
  | overrun (cause : Overrun)
deriving DecidableEq, Inhabited

def Error.message : Error → String
  | .malformed text flaw offset =>
    "invalid path '" ++ text ++ "': " ++ flaw.message ++ " at offset " ++ Decimal.natText offset
  | .notText field =>
    "invalid path '" ++ field ++ "': a '.$' field must hold a path or intrinsic string"
  | .notReference text => "'" ++ text ++ "' is not a reference path"
  | .blocked text obstacle => "cannot apply '" ++ text ++ "': " ++ obstacle.message
  | .overrun cause => cause.message

end Path

end Workflow
