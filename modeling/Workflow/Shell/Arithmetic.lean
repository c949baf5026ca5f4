import Workflow.Shell.Format
import Workflow.Shell.Token

/-!
# Arithmetic of shell scripts

Expressions over integers and variables. Comparisons give one or zero.
-/

namespace Workflow.Shell.Arithmetic

/-- The operators from the loosest to the tightest. -/
def levels : List (List String) :=
  [["||"], ["&&"], ["|"], ["^"], ["&"], ["==", "!="], ["<=", ">=", "<", ">"], ["<<", ">>"],
   ["+", "-"], ["*", "/", "%"]]

/-- All operators, longer ones before their beginnings. -/
def operators : List String :=
  ["||", "&&", "==", "!=", "<=", ">=", "<<", ">>", "|", "^", "&", "<", ">", "+", "-", "*", "/", "%",
   "(", ")", "!", "~", "?", ":"]

/-- Why an expression has no value. -/
inductive Error where
  | notNumber (text : String)
  | divisionByZero
  | malformed
deriving DecidableEq, Inhabited

def Error.message (expression : String) : Error → String
  | .notNumber text => "Illegal number: " ++ text
  | .divisionByZero => "arithmetic expression: division by zero: \"" ++ expression ++ "\""
  | .malformed => "arithmetic expression: expecting primary: \"" ++ expression ++ "\""

inductive Token where
  | operator (text : String)
  | number (value : Int)
  | name (name : String)
deriving DecidableEq, Inhabited

def tokens? : (fuel : Nat) → List Char → Option (List Token)
  | 0, _ => none
  | _ + 1, [] => some []
  | fuel + 1, c :: rest =>
    let text := c :: rest
    if c.isWhitespace then tokens? fuel rest
    else if c.isDigit then
      let word := text.takeWhile Char.isAlphanum
      let (value, whole) := integerOf (String.ofList word)
      if whole then (tokens? fuel (text.drop word.length)).map (.number value :: ·) else none
    else if isNameStart c then
      let word := text.takeWhile isNameChar
      (tokens? fuel (text.drop word.length)).map (.name (String.ofList word) :: ·)
    else
      match operators.find? fun operator => operator.toList.isPrefixOf text with
      | some operator =>
        (tokens? fuel (text.drop operator.length)).map (.operator operator :: ·)
      | none => none

/-- The number of a truth value. -/
def truth (value : Bool) : Int := if value then 1 else 0

/-- Joins two numbers. -/
def join (operator : String) (left right : Int) : Except Error Int :=
  match operator with
  | "||" => .ok (truth (left != 0 || right != 0))
  | "&&" => .ok (truth (left != 0 && right != 0))
  | "|" => .ok (Int.ofNat (left.toNat ||| right.toNat))
  | "^" => .ok (Int.ofNat (left.toNat ^^^ right.toNat))
  | "&" => .ok (Int.ofNat (left.toNat &&& right.toNat))
  | "==" => .ok (truth (left == right))
  | "!=" => .ok (truth (left != right))
  | "<=" => .ok (truth (left ≤ right))
  | ">=" => .ok (truth (right ≤ left))
  | "<" => .ok (truth (left < right))
  | ">" => .ok (truth (right < left))
  | "<<" => .ok (left * (1 <<< (right % 64).toNat : Nat))
  | ">>" => .ok (left / (1 <<< (right % 64).toNat : Nat))
  | "+" => .ok (left + right)
  | "-" => .ok (left - right)
  | "*" => .ok (left * right)
  | "/" => if right = 0 then .error .divisionByZero else .ok (left.tdiv right)
  | "%" => if right = 0 then .error .divisionByZero else .ok (left.tmod right)
  | _ => .error .malformed

mutual

/-- The value of an expression with operators of some levels. -/
def binary (value : String → Except Error Int) (fuel : Nat) (levels : List (List String))
    (tokens : List Token) : Except Error (Int × List Token) :=
  match fuel with
  | 0 => .error .malformed
  | fuel + 1 =>
    match levels with
    | [] => unary value fuel tokens
    | operators :: tighter => do
      let (left, rest) ← binary value fuel tighter tokens
      binaryFrom value fuel operators tighter left rest

/-- Goes on behind the left side of operators of one level. -/
def binaryFrom (value : String → Except Error Int) (fuel : Nat) (operators : List String)
    (tighter : List (List String)) (left : Int) (tokens : List Token) :
    Except Error (Int × List Token) :=
  match fuel with
  | 0 => .error .malformed
  | fuel + 1 =>
    match tokens with
    | .operator operator :: rest =>
      if operators.contains operator then do
        let (right, rest) ← binary value fuel tighter rest
        binaryFrom value fuel operators tighter (← join operator left right) rest
      else .ok (left, tokens)
    | _ => .ok (left, tokens)

/-- The value of a signed number, a variable or an expression between brackets. -/
def unary (value : String → Except Error Int) (fuel : Nat) (tokens : List Token) :
    Except Error (Int × List Token) :=
  match fuel with
  | 0 => .error .malformed
  | fuel + 1 =>
    match tokens with
    | .number number :: rest => .ok (number, rest)
    | .name name :: rest => do return (← value name, rest)
    | .operator "-" :: rest => do
      let (number, rest) ← unary value fuel rest
      return (-number, rest)
    | .operator "+" :: rest => unary value fuel rest
    | .operator "!" :: rest => do
      let (number, rest) ← unary value fuel rest
      return (truth (number == 0), rest)
    | .operator "~" :: rest => do
      let (number, rest) ← unary value fuel rest
      return (-number - 1, rest)
    | .operator "(" :: rest => do
      match ← choice value fuel rest with
      | (number, .operator ")" :: rest) => return (number, rest)
      | _ => throw .malformed
    | _ => .error .malformed

/-- The value of an expression that may choose between two others. -/
def choice (value : String → Except Error Int) (fuel : Nat) (tokens : List Token) :
    Except Error (Int × List Token) :=
  match fuel with
  | 0 => .error .malformed
  | fuel + 1 => do
    match ← binary value fuel levels tokens with
    | (test, .operator "?" :: rest) =>
      match ← choice value fuel rest with
      | (first, .operator ":" :: rest) =>
        let (second, rest) ← choice value fuel rest
        return (if test != 0 then first else second, rest)
      | _ => throw .malformed
    | other => return other

end

/-- The value of an expression over variables. -/
def evaluate (value : String → Except Error Int) (expression : String) : Except Error Int := do
  match tokens? (expression.length + 1) expression.toList with
  | none => throw .malformed
  | some [] => return 0
  | some tokens =>
    match ← choice value (16 * tokens.length + 16) tokens with
    | (number, []) => return number
    | _ => throw .malformed

end Workflow.Shell.Arithmetic
