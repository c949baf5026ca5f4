import Workflow.Formula
import Workflow.Formula.Token

/-!
# Reading formulas

The operators bind, from the loosest to the tightest: the two connectives on one level, the
comparisons with `in`, sum and difference, product and quotients, remainder and power, the
conditional, transforms, and access to items and members. All are left-associative. The two
outcomes of a conditional are formulas of the transform level, so anything looser stands in
parentheses there.

The functions carry a budget of calls; each token is reached within a dozen of them, so
`Formula.budget` is never used up.
-/

namespace Workflow.Formula

/-- The operator of a sign or word on the level of the connectives. -/
def connective? : Token → Option Operator
  | .sign "&&" => some .and
  | .sign "||" => some .or
  | _ => none

/-- The operator of a sign or word on the level of the comparisons. -/
def comparison? : Token → Option Operator
  | .sign "==" => some .equal
  | .sign "!=" => some .notEqual
  | .sign ">=" => some .greaterEqual
  | .sign "<=" => some .lessEqual
  | .sign ">" => some .greater
  | .sign "<" => some .less
  | .word "in" => some .isIn
  | _ => none

/-- The operator of a sign on the level of sums. -/
def additive? : Token → Option Operator
  | .sign "+" => some .add
  | .sign "-" => some .subtract
  | _ => none

/-- The operator of a sign on the level of products. -/
def multiplicative? : Token → Option Operator
  | .sign "*" => some .multiply
  | .sign "//" => some .floorDivide
  | .sign "/" => some .divide
  | _ => none

/-- The operator of a sign on the level of powers. -/
def power? : Token → Option Operator
  | .sign "%" => some .modulus
  | .sign "^" => some .exponent
  | _ => none

/-- The operators of each level, the loosest first. -/
def levels : List (Token → Option Operator) :=
  [connective?, comparison?, additive?, multiplicative?, power?]

/-- Words that are no names. -/
def reserved : List String := ["true", "false", "null", "in"]

def nameOf? : Token → Option String
  | .word text => if reserved.contains text then none else some text
  | _ => none

/-- The key of an object member that a token is. -/
def keyOf? : Token → Option String
  | .string key => some key
  | token => nameOf? token

/-- Reads past a sign. -/
def sign? (text : String) : List Token → Option (List Token)
  | .sign found :: rest => if found = text then some rest else none
  | _ => none

mutual

/-- Reads a formula that begins on one of the given levels. -/
def readLevel? (fuel : Nat) (levels : List (Token → Option Operator)) (tokens : List Token) :
    Option (Formula × List Token) :=
  match fuel with
  | 0 => none
  | fuel + 1 =>
    match levels with
    | [] => do
      let (test, rest) ← readTransform? fuel tokens
      readConditional? fuel test rest
    | operator? :: tighter => do
      let (left, rest) ← readLevel? fuel tighter tokens
      readOperators? fuel operator? tighter left rest

/-- Joins further operands of a level to the left one. -/
def readOperators? (fuel : Nat) (operator? : Token → Option Operator)
    (tighter : List (Token → Option Operator)) (left : Formula) (tokens : List Token) :
    Option (Formula × List Token) :=
  match fuel with
  | 0 => none
  | fuel + 1 =>
    match tokens with
    | token :: rest =>
      match operator? token with
      | some operator => do
        let (right, rest) ← readLevel? fuel tighter rest
        readOperators? fuel operator? tighter (.binary operator left right) rest
      | none => some (left, token :: rest)
    | [] => some (left, [])

/-- Reads the outcomes of conditionals whose test is given. -/
def readConditional? (fuel : Nat) (test : Formula) (tokens : List Token) :
    Option (Formula × List Token) :=
  match fuel with
  | 0 => none
  | fuel + 1 =>
    match sign? "?" tokens with
    | none => some (test, tokens)
    | some rest => do
      let (yes, rest) ← readTransform? fuel rest
      let rest ← sign? ":" rest
      let (no, rest) ← readTransform? fuel rest
      readConditional? fuel (.conditional test yes no) rest

/-- Reads a formula with the transforms behind it. -/
def readTransform? (fuel : Nat) (tokens : List Token) : Option (Formula × List Token) :=
  match fuel with
  | 0 => none
  | fuel + 1 => do
    let (subject, rest) ← readAccess? fuel tokens
    readTransforms? fuel subject rest

/-- Reads the transforms behind a subject. -/
def readTransforms? (fuel : Nat) (subject : Formula) (tokens : List Token) :
    Option (Formula × List Token) :=
  match fuel with
  | 0 => none
  | fuel + 1 =>
    match sign? "|" tokens with
    | none => some (subject, tokens)
    | some rest =>
      match rest with
      | token :: rest => do
        let function ← nameOf? token
        match sign? "(" rest with
        | some rest => do
          let (arguments, rest) ← readItems? fuel ")" rest
          readTransforms? fuel (.transform subject function arguments) rest
        | none => readTransforms? fuel (.transform subject function []) rest
      | [] => none

/-- Reads a primary formula with the accesses behind it. -/
def readAccess? (fuel : Nat) (tokens : List Token) : Option (Formula × List Token) :=
  match fuel with
  | 0 => none
  | fuel + 1 => do
    let (subject, rest) ← readPrimary? fuel tokens
    readAccesses? fuel subject rest

/-- Reads the accesses to items and members behind a subject. -/
def readAccesses? (fuel : Nat) (subject : Formula) (tokens : List Token) :
    Option (Formula × List Token) :=
  match fuel with
  | 0 => none
  | fuel + 1 =>
    match tokens with
    | .sign "." :: token :: rest => do
      let key ← nameOf? token
      readAccesses? fuel (.member subject key) rest
    | .sign "[" :: .sign "." :: token :: comparison :: rest => do
      let key ← nameOf? token
      let operator ← comparison? comparison
      let (right, rest) ← readPrimary? fuel rest
      let rest ← sign? "]" rest
      readAccesses? fuel (.filter subject key operator right) rest
    | .sign "[" :: rest => do
      let (position, rest) ← readLevel? fuel levels rest
      let rest ← sign? "]" rest
      readAccesses? fuel (.index subject position) rest
    | _ => some (subject, tokens)

/-- Reads a literal, a name, an array, an object or a formula in parentheses. -/
def readPrimary? (fuel : Nat) (tokens : List Token) : Option (Formula × List Token) :=
  match fuel with
  | 0 => none
  | fuel + 1 =>
    match tokens with
    | .number value :: rest => some (.number value, rest)
    | .string value :: rest => some (.string value, rest)
    | .word "true" :: rest => some (.bool true, rest)
    | .word "false" :: rest => some (.bool false, rest)
    | .word "null" :: rest => some (.null, rest)
    | .word "in" :: _ => none
    | .word text :: rest => some (.name text, rest)
    | .sign "(" :: rest => do
      let (inner, rest) ← readLevel? fuel levels rest
      let rest ← sign? ")" rest
      return (inner, rest)
    | .sign "[" :: rest => do
      let (items, rest) ← readItems? fuel "]" rest
      return (.array items, rest)
    | .sign "\x7b" :: rest => do
      let (members, rest) ← readMembers? fuel rest
      return (.object members, rest)
    | _ => none

/-- Reads formulas between commas up to a closing sign; a comma may stand behind the last. -/
def readItems? (fuel : Nat) (close : String) (tokens : List Token) :
    Option (List Formula × List Token) :=
  match fuel with
  | 0 => none
  | fuel + 1 =>
    match sign? close tokens with
    | some rest => some ([], rest)
    | none => do
      let (item, rest) ← readLevel? fuel levels tokens
      match sign? "," rest with
      | some rest => do
        let (items, rest) ← readItems? fuel close rest
        return (item :: items, rest)
      | none => do
        let rest ← sign? close rest
        return ([item], rest)

/-- Reads members between commas up to the closing brace; a comma may stand behind the last. -/
def readMembers? (fuel : Nat) (tokens : List Token) :
    Option (List (String × Formula) × List Token) :=
  match fuel with
  | 0 => none
  | fuel + 1 =>
    match sign? "\x7d" tokens with
    | some rest => some ([], rest)
    | none =>
      match tokens with
      | token :: rest => do
        let key ← keyOf? token
        let rest ← sign? ":" rest
        let (value, rest) ← readLevel? fuel levels rest
        match sign? "," rest with
        | some rest => do
          let (members, rest) ← readMembers? fuel rest
          return ((key, value) :: members, rest)
        | none => do
          let rest ← sign? "\x7d" rest
          return ([(key, value)], rest)
      | [] => none

end

/-- A number of calls that reading the given number of tokens does not reach. -/
def budget (count : Nat) : Nat := 16 * count + 16

/-- Reads the formula that a text holds. -/
def parse (text : String) : Except Error Formula :=
  let chars := text.toList
  match tokenize? (chars.length + 1) chars with
  | none => .error .parsing
  | some tokens =>
    match readLevel? (budget tokens.length) levels tokens with
    | some (formula, []) => .ok formula
    | _ => .error .parsing

end Workflow.Formula
