import Workflow.Intrinsic
import Workflow.Text.Blank

/-!
# Reading intrinsic calls

`Intrinsic.parse` reads the trimmed text of a call. A string stands between single quotes; a
backslash takes the next character as it is, except that an escaped brace keeps its backslash, so
that `States.Format` can tell it from a placeholder. A path argument ends at the first comma or
closing parenthesis outside its own quotes and brackets.

Every call of the functions that call each other consumes a character within three calls, so
`Intrinsic.budget` is never used up.
-/

namespace Workflow.Intrinsic

/-- A flaw and the number of characters that were left when it was met. -/
structure Fault where
  flaw : Flaw
  left : Nat
deriving DecidableEq, Inhabited

/-- Stops with a flaw in front of the given rest. -/
def stop {α : Type} (flaw : Flaw) (rest : List Char) : Except Fault α :=
  .error ⟨flaw, rest.length⟩

/-- The text behind the `States.` that opens a call. -/
def afterStart? : List Char → Option (List Char)
  | 'S' :: 't' :: 'a' :: 't' :: 'e' :: 's' :: '.' :: rest => some rest
  | _ => none

/-- Whether a character may stand in a function name. -/
def inName (c : Char) : Bool :=
  ('a' ≤ c && c ≤ 'z') || ('A' ≤ c && c ≤ 'Z') || ('0' ≤ c && c ≤ '9')

/-- A character behind a backslash, as it is kept. -/
def unescaped (c : Char) : List Char :=
  if c = '\x7b' ∨ c = '\x7d' then ['\\', c] else [c]

/-- Reads a string behind its opening quote. -/
def readString : List Char → Except Fault (List Char × List Char)
  | [] => stop .openString []
  | ['\\'] => stop .openEscape ['\\']
  | '\\' :: c :: rest =>
    match readString rest with
    | .ok (chars, tail) => .ok (unescaped c ++ chars, tail)
    | .error fault => .error fault
  | c :: rest =>
    if c = '\x27' then .ok ([], rest)
    else
      match readString rest with
      | .ok (chars, tail) => .ok (c :: chars, tail)
      | .error fault => .error fault

/-- The characters of a path argument and what follows them; `quote` is the open quote and `depth`
the number of open brackets. -/
def splitPath (quote : Option Char) (depth : Nat) : List Char → List Char × List Char
  | [] => ([], [])
  | c :: rest =>
    let next (quote : Option Char) (depth : Nat) :=
      let (taken, tail) := splitPath quote depth rest
      (c :: taken, tail)
    match quote with
    | some open' => if c = open' then next none depth else next quote depth
    | none =>
      if c = '\x27' ∨ c = '"' then next (some c) depth
      else if c = '[' ∨ c = '(' then next none (depth + 1)
      else if c = ']' then next none (depth - 1)
      else if c = ')' then if depth = 0 then ([], c :: rest) else next none (depth - 1)
      else if c = ',' ∧ depth = 0 then ([], c :: rest)
      else next none depth

/-- Characters of a number, after its sign. -/
def inNumber (c : Char) : Bool :=
  Decimal.isDigit c || c == '.' || c == 'e' || c == 'E' || c == '+'

/-- The number that a literal stands for: a signed integer if it fits, else a finite float. -/
def numberOf? (text : List Char) : Option Number :=
  match Decimal.signed? text with
  | some value => some (.int value)
  | none => (Decimal.float? text).bind Number.ofFloat?

/-- Reads the number that starts here. -/
def readNumber (text : List Char) : Except Fault (Number × List Char) :=
  let sign := match text with
    | '-' :: _ => ['-']
    | _ => []
  let unsigned := text.drop sign.length
  let rest := unsigned.dropWhile inNumber
  match numberOf? (sign ++ unsigned.takeWhile inNumber) with
  | some value => .ok (value, rest)
  | none => stop .badNumber rest

/-- Reads an argument that is no call. -/
def readPlain (text : List Char) : Except Fault (Argument × List Char) :=
  match text with
  | '\x27' :: rest => do
    let (chars, rest) ← readString rest
    return (.literal (.string (String.ofList chars)), rest)
  | '$' :: _ =>
    let (taken, rest) := splitPath none 0 text
    .ok (.path (String.ofList (Text.trimEnd taken)), rest)
  | 't' :: 'r' :: 'u' :: 'e' :: rest => .ok (.literal (.bool true), rest)
  | 'f' :: 'a' :: 'l' :: 's' :: 'e' :: rest => .ok (.literal (.bool false), rest)
  | 'n' :: 'u' :: 'l' :: 'l' :: rest => .ok (.literal .null, rest)
  | c :: _ =>
    if c == '-' || Decimal.isDigit c then do
      let (value, rest) ← readNumber text
      return (.literal (.number value), rest)
    else stop .badArgument text
  | [] => stop .badArgument []

mutual

/-- Reads a call behind its `States.`. -/
def readCall (fuel : Nat) (text : List Char) : Except Fault (Call × List Char) :=
  match fuel with
  | 0 => stop .noName text
  | fuel + 1 =>
    let name := text.takeWhile inName
    let rest := text.dropWhile inName
    if name.isEmpty then stop .noName text
    else
      match Text.trimStart rest with
      | '(' :: rest =>
        match Text.trimStart rest with
        | ')' :: rest => .ok (.mk (String.ofList name) [], rest)
        | rest => do
          let (arguments, rest) ← readArguments fuel rest
          return (.mk (String.ofList name) arguments, rest)
      | rest => stop .noParenthesis rest

/-- Reads arguments up to the closing parenthesis. -/
def readArguments (fuel : Nat) (text : List Char) : Except Fault (List Argument × List Char) :=
  match fuel with
  | 0 => stop .badArgument text
  | fuel + 1 => do
    let (argument, rest) ← readArgument fuel (Text.trimStart text)
    match Text.trimStart rest with
    | ',' :: rest => do
      let (arguments, rest) ← readArguments fuel rest
      return (argument :: arguments, rest)
    | ')' :: rest => return ([argument], rest)
    | rest => stop .noSeparator rest

def readArgument (fuel : Nat) (text : List Char) : Except Fault (Argument × List Char) :=
  match fuel with
  | 0 => stop .badArgument text
  | fuel + 1 =>
    match afterStart? text with
    | some rest => do
      let (inner, rest) ← readCall fuel rest
      return (.call inner, rest)
    | none => readPlain text

end

/-- A number of calls that reading a text of the given length does not reach. -/
def budget (length : Nat) : Nat := 4 * length + 4

/-- Reads a call that fills a text, apart from blanks at its end. -/
def read (text : List Char) : Except Fault Call :=
  match afterStart? text with
  | none => stop .noStart text
  | some rest => do
    let (call, rest) ← readCall (budget text.length) rest
    match Text.trimStart rest with
    | [] => return call
    | rest => stop .trailing rest

/-- Reads the call that a text holds. -/
def parse (text : String) : Except Error Call :=
  let chars := Text.trim text.toList
  match read chars with
  | .ok call => .ok call
  | .error fault => .error (.malformed text fault.flaw (chars.length - fault.left))

/-- Whether a text looks like a call. -/
def looksLike (text : String) : Bool := (afterStart? (Text.trimStart text.toList)).isSome

end Workflow.Intrinsic
