import Workflow.Files
import Workflow.Shell.Format

/-!
# Conditions of shell scripts

What `test` and `[` say of texts, numbers and files.
-/

namespace Workflow.Shell.Condition

/-- Why a condition cannot be tested. -/
inductive Error where
  | notNumber (text : String)
  /-- Words are left behind one that ends the condition. -/
  | unexpected (text : String)
  | unfinished
deriving DecidableEq, Inhabited

def Error.message : Error → String
  | .notNumber text => "Illegal number: " ++ text
  | .unexpected text => text ++ ": unexpected operator"
  | .unfinished => "argument expected"

def number (text : String) : Except Error Int :=
  let chars := (text.toList.dropWhile Char.isWhitespace).reverse.dropWhile Char.isWhitespace
  match Decimal.signedDigits? chars.reverse with
  | some value => .ok value
  | none => .error (.notNumber text)

/-- What a word between two others says of them. -/
def binary? (operator : String) : Option (String → String → Except Error Bool) :=
  let compare (test : Int → Int → Bool) : Option (String → String → Except Error Bool) :=
    some fun left right => do return test (← number left) (← number right)
  match operator with
  | "=" => some fun left right => .ok (left == right)
  | "==" => some fun left right => .ok (left == right)
  | "!=" => some fun left right => .ok (left != right)
  | "<" => some fun left right => .ok (decide (left < right))
  | ">" => some fun left right => .ok (decide (right < left))
  | "-eq" => compare fun left right => left == right
  | "-ne" => compare fun left right => left != right
  | "-lt" => compare fun left right => left < right
  | "-le" => compare fun left right => left ≤ right
  | "-gt" => compare fun left right => right < left
  | "-ge" => compare fun left right => right ≤ left
  | _ => none

/-- What a word in front of another says of it. -/
def unary? (files : Files) (operator : String) : Option (String → Bool) :=
  let about (test : Entry → Bool) (device : Bool) : Option (String → Bool) :=
    some fun path =>
      match files.find path with
      | .entry _ entry => test entry
      | .void => device
      | _ => false
  match operator with
  | "-n" => some fun text => !text.isEmpty
  | "-z" => some fun text => text.isEmpty
  | "-e" => about (fun _ => true) true
  | "-r" => about (fun _ => true) true
  | "-w" => about (fun _ => true) true
  | "-f" => about (fun entry => entry != .directory) false
  | "-d" => about (fun entry => entry == .directory) false
  | "-x" => about (fun entry => entry == .directory) false
  | "-s" => about (fun entry => entry != .file []) false
  | "-c" => about (fun _ => false) true
  | "-h" => some fun _ => false
  | "-L" => some fun _ => false
  | "-t" => some fun _ => false
  | _ => none

mutual

/-- Conditions of which one must hold. -/
def either (files : Files) (fuel : Nat) (words : List String) :
    Except Error (Bool × List String) :=
  match fuel with
  | 0 => .error .unfinished
  | fuel + 1 => do
    let (first, rest) ← both files fuel words
    match rest with
    | "-o" :: rest =>
      let (second, rest) ← either files fuel rest
      return (first || second, rest)
    | rest => return (first, rest)

/-- Conditions all of which must hold. -/
def both (files : Files) (fuel : Nat) (words : List String) : Except Error (Bool × List String) :=
  match fuel with
  | 0 => .error .unfinished
  | fuel + 1 => do
    let (first, rest) ← single files fuel words
    match rest with
    | "-a" :: rest =>
      let (second, rest) ← both files fuel rest
      return (first && second, rest)
    | rest => return (first, rest)

/-- A condition by itself. -/
def single (files : Files) (fuel : Nat) (words : List String) :
    Except Error (Bool × List String) :=
  match fuel with
  | 0 => .error .unfinished
  | fuel + 1 =>
    match words with
    | [] => .error .unfinished
    | left :: operator :: right :: rest =>
      match binary? operator with
      | some test => do return (← test left right, rest)
      | none => prefixed files fuel left (operator :: right :: rest)
    | first :: rest => prefixed files fuel first rest

/-- A condition that begins with a word that may be an operator. -/
def prefixed (files : Files) (fuel : Nat) (first : String) (rest : List String) :
    Except Error (Bool × List String) :=
  match fuel with
  | 0 => .error .unfinished
  | fuel + 1 =>
    match first, unary? files first, rest with
    | "!", _, _ :: _ => do
      let (value, rest) ← single files fuel rest
      return (!value, rest)
    | "(", _, _ :: _ => do
      match ← either files fuel rest with
      | (value, ")" :: rest) => return (value, rest)
      | _ => throw .unfinished
    | _, some test, operand :: rest => return (test operand, rest)
    | _, _, _ => return (!first.isEmpty, rest)

end

/-- Tests the condition of some words. -/
def evaluate (files : Files) (words : List String) : Except Error Bool :=
  if words.isEmpty then .ok false
  else do
    let (value, rest) ← either files (4 * words.length + 4) words
    if rest.isEmpty then return value
    else throw (.unexpected (words.getD (words.length - rest.length - 1) ""))

end Workflow.Shell.Condition
