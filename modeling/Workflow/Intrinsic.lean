import Workflow.Path

/-!
# Intrinsic calls

A call such as `States.Format('{}!', $.name)`: a function name and arguments, each a literal, a
path or another call. This file holds the calls and the ways in which reading or evaluating one
can fail, with their wording.
-/

namespace Workflow.Intrinsic

mutual

/-- A call of a function of the library. -/
inductive Call where
  | mk (name : String) (arguments : List Argument)

inductive Argument where
  | literal (value : Json)
  | call (inner : Call)
  /-- A path, kept as text until it is evaluated. -/
  | path (text : String)

end

instance : Inhabited Call := ⟨.mk "" []⟩

instance : Inhabited Argument := ⟨.literal .null⟩

/-- Why a text is not a call. -/
inductive Flaw where
  | trailing
  | noStart
  | noName
  | noParenthesis
  | noSeparator
  | badArgument
  | openString
  | openEscape
  | badNumber
deriving DecidableEq, Inhabited

def Flaw.message : Flaw → String
  | .trailing => "unexpected trailing characters"
  | .noStart => "intrinsic calls start with 'States.'"
  | .noName => "missing function name"
  | .noParenthesis => "expected '('"
  | .noSeparator => "expected ',' or ')'"
  | .badArgument => "unrecognized argument"
  | .openString => "unterminated string"
  | .openEscape => "unterminated escape"
  | .badNumber => "invalid number"

/-- How many arguments a function takes. -/
inductive Arity where
  | exactly (count : Nat)
  | between (least most : Nat)
  | atLeast (count : Nat)
deriving DecidableEq, Inhabited

/-- Whether an arity admits a number of arguments. -/
def Arity.admits : Arity → Nat → Bool
  | .exactly count, given => given == count
  | .between least most, given => least ≤ given && given ≤ most
  | .atLeast count, given => count ≤ given

/-- An arity as messages show it. -/
def Arity.shown : Arity → String
  | .exactly count => Decimal.natText count
  | .between least most => Decimal.natText least ++ " to " ++ Decimal.natText most
  | .atLeast count => "at least " ++ Decimal.natText count

/-- What a function can object to. -/
inductive Complaint where
  | notArray (position : Nat)
  | notString (position : Nat)
  | notInteger (position : Nat)
  | notBoolean (position : Nat)
  | outOfBounds (index : Int) (length : Nat)
  | chunkSize
  | zeroStep
  | longRange (limit : Nat)
  | badBase64
  | badUtf8
  | badAlgorithm (name : String)
  | fewArguments
  | manyArguments
  | notObjects
  | badJson
  | overflow
  | notFinite
  | notNumbers
  | emptyRange
deriving DecidableEq, Inhabited

/-- The wording of an objection. -/
def Complaint.message : Complaint → String
  | .notArray position => "argument " ++ Decimal.natText position ++ " must be an array"
  | .notString position => "argument " ++ Decimal.natText position ++ " must be a string"
  | .notInteger position => "argument " ++ Decimal.natText position ++ " must be an integer"
  | .notBoolean position => "argument " ++ Decimal.natText position ++ " must be a boolean"
  | .outOfBounds index length =>
    "index " ++ Decimal.integerText index ++ " is out of bounds (" ++ Decimal.natText length ++ ")"
  | .chunkSize => "chunk size must be positive"
  | .zeroStep => "step must not be zero"
  | .longRange limit => "range exceeds " ++ Decimal.natText limit ++ " elements"
  | .badBase64 => "invalid base64"
  | .badUtf8 => "decoded data is not valid UTF-8"
  | .badAlgorithm name => "unsupported algorithm '" ++ name ++ "'"
  | .fewArguments => "more placeholders than arguments"
  | .manyArguments => "more arguments than placeholders"
  | .notObjects => "both inputs must be objects"
  | .badJson => "invalid JSON"
  | .overflow => "integer overflow"
  | .notFinite => "result is not a finite number"
  | .notNumbers => "both arguments must be numbers"
  | .emptyRange => "start must be less than end"

/-- What can go wrong with a call. -/
inductive Error where
  /-- The text is not a call; the offset counts characters of the trimmed text. -/
  | malformed (text : String) (flaw : Flaw) (offset : Nat)
  | unknownFunction (name : String)
  | arity (function : String) (expected : Arity) (given : Nat)
  | refused (function : String) (complaint : Complaint)
  /-- A path argument found nothing. -/
  | missing (path : String)
  | path (error : Path.Error)
deriving DecidableEq, Inhabited

def Error.message : Error → String
  | .malformed text flaw offset =>
    "invalid intrinsic '" ++ text ++ "': " ++ flaw.message ++ " at offset " ++
      Decimal.natText offset
  | .unknownFunction name => "unknown intrinsic function 'States." ++ name ++ "'"
  | .arity function expected given =>
    "States." ++ function ++ " expects " ++ expected.shown ++ ", got " ++ Decimal.natText given ++
      " argument(s)"
  | .refused function complaint => "States." ++ function ++ ": " ++ complaint.message
  | .missing text => "path argument '" ++ text ++ "' matched nothing"
  | .path cause => cause.message

end Workflow.Intrinsic
