import Workflow.Decimal.Literal
import Workflow.Text.Blank

/-!
# Tokens of formulas

A formula is first cut into tokens, each as long as possible. Numbers have no sign and no exponent;
a point in front of a digit begins a number. In a string the only escape is a backslash in front
of the quote that the string began with.
-/

namespace Workflow.Formula

inductive Token where
  | number (value : Float)
  | string (value : String)
  /-- A name or one of the words `true`, `false`, `null` and `in`. -/
  | word (name : String)
  | sign (text : String)
deriving DecidableEq, Inhabited

/-- Whether a character can start a name. -/
def startsWord (c : Char) : Bool :=
  ('a' ≤ c && c ≤ 'z') || ('A' ≤ c && c ≤ 'Z') || c == '_'

/-- Whether a character can go on a name. -/
def inWord (c : Char) : Bool := startsWord c || Decimal.isDigit c

/-- The rest of a string behind its opening quote. -/
def readText? (quote : Char) : List Char → Option (List Char × List Char)
  | [] => none
  | '\\' :: c :: rest =>
    if c = quote then (readText? quote rest).map fun (chars, tail) => (c :: chars, tail) else none
  | c :: rest =>
    if c = quote then some ([], rest)
    else if c = '\\' then none
    else (readText? quote rest).map fun (chars, tail) => (c :: chars, tail)

/-- The number whose literal is a run of digits and a fraction. -/
def numberToken (literal : List Char) : Token := .number ((Decimal.float? literal).getD 0.0)

/-- Signs of two characters. -/
def longSigns : List String := ["//", "==", "!=", ">=", "<=", "&&", "||"]

/-- Signs of one character. -/
def shortSigns : List Char :=
  ['+', '-', '*', '/', '%', '^', '>', '<', '(', ')', '[', ']', '\x7b', '\x7d', ',', '.', ':', '?',
   '|']

/-- Reads the token at the front of a text that does not start with a blank. -/
def readToken? : List Char → Option (Token × List Char)
  | [] => none
  | c :: rest =>
    if Decimal.isDigit c then
      let whole := (c :: rest).takeWhile Decimal.isDigit
      match (c :: rest).dropWhile Decimal.isDigit with
      | '.' :: d :: tail =>
        if Decimal.isDigit d then
          let fraction := (d :: tail).takeWhile Decimal.isDigit
          some (numberToken (whole ++ '.' :: fraction), (d :: tail).dropWhile Decimal.isDigit)
        else some (numberToken whole, '.' :: d :: tail)
      | tail => some (numberToken whole, tail)
    else if startsWord c then
      some (.word (String.ofList ((c :: rest).takeWhile inWord)), (c :: rest).dropWhile inWord)
    else if c = '"' ∨ c = '\x27' then
      (readText? c rest).map fun (chars, tail) => (.string (String.ofList chars), tail)
    else
      match rest with
      | [] => if shortSigns.contains c then some (.sign (String.ofList [c]), []) else none
      | d :: tail =>
        if c = '.' ∧ Decimal.isDigit d then
          let fraction := (d :: tail).takeWhile Decimal.isDigit
          some (numberToken ('.' :: fraction), (d :: tail).dropWhile Decimal.isDigit)
        else if longSigns.contains (String.ofList [c, d]) then
          some (.sign (String.ofList [c, d]), tail)
        else if shortSigns.contains c then some (.sign (String.ofList [c]), rest)
        else none

/-- Cuts a text into tokens; every token takes at least one character of the budget. -/
def tokenize? : (fuel : Nat) → List Char → Option (List Token)
  | 0, _ => some []
  | fuel + 1, text =>
    match Text.trimStart text with
    | [] => some []
    | start =>
      match readToken? start with
      | none => none
      | some (token, rest) => (tokenize? fuel rest).map (token :: ·)

end Workflow.Formula
