import Workflow.Path
import Workflow.Text.Blank
import Workflow.Text.Letter

/-!
# Reading paths

`Path.parse` reads the trimmed text of a path. A failed reading remembers how many characters were
left when it stopped, from which the offset of the error follows. Blanks may stand inside brackets
and filters but end an unquoted member name where they are spaces or tabs.

The functions that call each other carry a budget of calls. Every round of calls consumes at
least one character within nine calls, so `Path.budget` is never used up.
-/

namespace Workflow.Path

/-- A flaw and the number of characters that were left when it was met. -/
structure Fault where
  flaw : Flaw
  left : Nat
deriving DecidableEq, Inhabited

/-- Stops with a flaw in front of the given rest. -/
def stop {α : Type} (flaw : Flaw) (rest : List Char) : Except Fault α :=
  .error ⟨flaw, rest.length⟩

/-- Characters that end an unquoted member name. -/
def endsName (c : Char) : Bool :=
  ['.', '[', ']', '(', ')', ' ', '\t', '=', '!', '<', '>', '&', '|', ','].contains c

/-- Reads past a character. -/
def expect (c : Char) : List Char → Except Fault (List Char)
  | [] => stop (.expected c) []
  | d :: rest => if d = c then .ok rest else stop (.expected c) (d :: rest)

/-- The text behind a given beginning. -/
def past? : List Char → List Char → Option (List Char)
  | [], text => some text
  | _ :: _, [] => none
  | c :: start, d :: text => if c = d then past? start text else none

/-- Reads an unquoted member name. -/
def readName (text : List Char) : Except Fault (String × List Char) :=
  let name := text.takeWhile fun c => !endsName c
  if name.isEmpty then stop .noName text
  else .ok (String.ofList name, text.dropWhile fun c => !endsName c)

/-- Reads a string behind its opening quote; a backslash stands before any escaped character. -/
def readQuoted (quote : Char) : List Char → Except Fault (List Char × List Char)
  | [] => stop .openString []
  | ['\\'] => stop .openEscape ['\\']
  | '\\' :: c :: rest =>
    match readQuoted quote rest with
    | .ok (chars, tail) => .ok (c :: chars, tail)
    | .error fault => .error fault
  | c :: rest =>
    if c = quote then .ok ([], rest)
    else
      match readQuoted quote rest with
      | .ok (chars, tail) => .ok (c :: chars, tail)
      | .error fault => .error fault

/-- Reads an integer if one stands here: an optional minus sign and digits. -/
def readInteger? (text : List Char) : Except Fault (Option Int × List Char) :=
  let sign := match text with
    | '-' :: _ => ['-']
    | _ => []
  let unsigned := text.drop sign.length
  let digits := sign ++ unsigned.takeWhile Decimal.isDigit
  let rest := unsigned.dropWhile Decimal.isDigit
  if digits.isEmpty then .ok (none, rest)
  else
    match Decimal.signed? digits with
    | some value => .ok (some value, rest)
    | none => stop (.badInteger (String.ofList digits)) rest

/-- Characters of a number in a filter, after its first one. -/
def inNumber (c : Char) : Bool :=
  Decimal.isDigit c || c == '.' || c == 'e' || c == 'E' || c == '+' || c == '-'

/-- The number that a literal stands for: a signed integer if it fits, else a finite float. -/
def numberOf? (text : List Char) : Option Number :=
  match Decimal.signed? text with
  | some value => some (.int value)
  | none => (Decimal.float? text).bind Number.ofFloat?

/-- Reads the number that starts here. -/
def readNumber (text : List Char) : Except Fault (Number × List Char) :=
  let literal := text.takeWhile inNumber
  let rest := text.dropWhile inNumber
  match numberOf? literal with
  | some value => .ok (value, rest)
  | none => stop (.badNumber (String.ofList literal)) rest

/-- Reads one member of a bracket: a quoted name, an index or a slice. -/
def readMember (text : List Char) : Except Fault (Selector × List Char) :=
  match text with
  | '\x27' :: rest => do
    let (name, rest) ← readQuoted '\x27' rest
    return (.child (String.ofList name), rest)
  | '"' :: rest => do
    let (name, rest) ← readQuoted '"' rest
    return (.child (String.ofList name), rest)
  | _ => do
    let (start, rest) ← readInteger? text
    match Text.trimStart rest with
    | ':' :: rest =>
      let (stop, rest) ← readInteger? (Text.trimStart rest)
      match Text.trimStart rest with
      | ':' :: rest =>
        let (step, rest) ← readInteger? (Text.trimStart rest)
        return (.slice start stop step, rest)
      | rest => return (.slice start stop none, rest)
    | rest =>
      match start with
      | some position => return (.index position, rest)
      | none => stop .noMember rest

/-- Whether a selector is a slice. -/
def Selector.isSlice : Selector → Bool
  | .slice _ _ _ => true
  | _ => false

/-- Reads the members of a bracket behind the first one, up to where no comma follows. -/
def readMembers (fuel : Nat) (text : List Char) : Except Fault (List Selector × List Char) :=
  match fuel with
  | 0 => .ok ([], text)
  | fuel + 1 =>
    match Text.trimStart text with
    | ',' :: rest => do
      let (member, rest) ← readMember (Text.trimStart rest)
      let (members, rest) ← readMembers fuel rest
      return (member :: members, rest)
    | rest => .ok ([], rest)

/-- Reads the sign of a comparison, if one stands here. -/
def readComparison? : List Char → Option (Comparison × List Char)
  | '=' :: '=' :: rest => some (.eq, rest)
  | '!' :: '=' :: rest => some (.ne, rest)
  | '<' :: '=' :: rest => some (.le, rest)
  | '>' :: '=' :: rest => some (.ge, rest)
  | '<' :: rest => some (.lt, rest)
  | '>' :: rest => some (.gt, rest)
  | _ => none

/-- Reads a literal of a filter. -/
def readLiteral (text : List Char) : Except Fault (Json × List Char) :=
  match text with
  | '\x27' :: rest => do
    let (chars, rest) ← readQuoted '\x27' rest
    return (.string (String.ofList chars), rest)
  | '"' :: rest => do
    let (chars, rest) ← readQuoted '"' rest
    return (.string (String.ofList chars), rest)
  | 't' :: 'r' :: 'u' :: 'e' :: rest => .ok (.bool true, rest)
  | 'f' :: 'a' :: 'l' :: 's' :: 'e' :: rest => .ok (.bool false, rest)
  | 'n' :: 'u' :: 'l' :: 'l' :: rest => .ok (.null, rest)
  | c :: _ =>
    if c == '-' || Decimal.isDigit c then do
      let (value, rest) ← readNumber text
      return (.number value, rest)
    else stop .noOperand text
  | [] => stop .noOperand []

mutual

/-- Reads selectors up to where none follows. -/
def readSelectors (fuel : Nat) (text : List Char) : Except Fault (List Selector × List Char) :=
  match fuel with
  | 0 => .ok ([], text)
  | fuel + 1 =>
    match text with
    | '.' :: '.' :: rest => do
      let (inner, rest) ← readDescended fuel rest
      let (selectors, rest) ← readSelectors fuel rest
      return (.descend inner :: selectors, rest)
    | '.' :: '*' :: rest => do
      let (selectors, rest) ← readSelectors fuel rest
      return (.wildcard :: selectors, rest)
    | '.' :: rest => do
      let (name, rest) ← readName rest
      let (selectors, rest) ← readSelectors fuel rest
      return (.child name :: selectors, rest)
    | '[' :: rest => do
      let (selector, rest) ← readBracket fuel rest
      let (selectors, rest) ← readSelectors fuel rest
      return (selector :: selectors, rest)
    | _ => .ok ([], text)

/-- Reads the selector behind two points. -/
def readDescended (fuel : Nat) (text : List Char) : Except Fault (Selector × List Char) :=
  match fuel with
  | 0 => stop .noName text
  | fuel + 1 =>
    match text with
    | '*' :: rest => .ok (.wildcard, rest)
    | '[' :: rest => readBracket fuel rest
    | _ => do
      let (name, rest) ← readName text
      return (.child name, rest)

/-- Reads a bracket behind its opening sign. -/
def readBracket (fuel : Nat) (text : List Char) : Except Fault (Selector × List Char) :=
  match fuel with
  | 0 => stop .noMember text
  | fuel + 1 =>
    match Text.trimStart text with
    | '*' :: rest => do
      let rest ← expect ']' (Text.trimStart rest)
      return (.wildcard, rest)
    | '?' :: rest => do
      let rest ← expect '(' (Text.trimStart rest)
      let (condition, rest) ← readOr fuel rest
      let rest ← expect ')' (Text.trimStart rest)
      let rest ← expect ']' (Text.trimStart rest)
      return (.filter condition, rest)
    | start => do
      let (first, rest) ← readMember start
      let (others, rest) ← readMembers start.length rest
      let rest ← expect ']' rest
      match others with
      | [] => return (first, rest)
      | _ =>
        if (first :: others).any Selector.isSlice then stop .sliceInUnion rest
        else return (.union (first :: others), rest)

/-- Reads filters joined by `||`. -/
def readOr (fuel : Nat) (text : List Char) : Except Fault (Filter × List Char) :=
  match fuel with
  | 0 => stop .noOperand text
  | fuel + 1 => do
    let (left, rest) ← readAnd fuel text
    readOrRest fuel left rest

/-- Joins further filters behind `||` to the left one. -/
def readOrRest (fuel : Nat) (left : Filter) (text : List Char) :
    Except Fault (Filter × List Char) :=
  match fuel with
  | 0 => .ok (left, text)
  | fuel + 1 =>
    match Text.trimStart text with
    | '|' :: '|' :: rest => do
      let (right, rest) ← readAnd fuel rest
      readOrRest fuel (.join left .or right) rest
    | rest => .ok (left, rest)

/-- Reads filters joined by `&&`. -/
def readAnd (fuel : Nat) (text : List Char) : Except Fault (Filter × List Char) :=
  match fuel with
  | 0 => stop .noOperand text
  | fuel + 1 => do
    let (left, rest) ← readUnary fuel text
    readAndRest fuel left rest

/-- Joins further filters behind `&&` to the left one. -/
def readAndRest (fuel : Nat) (left : Filter) (text : List Char) :
    Except Fault (Filter × List Char) :=
  match fuel with
  | 0 => .ok (left, text)
  | fuel + 1 =>
    match Text.trimStart text with
    | '&' :: '&' :: rest => do
      let (right, rest) ← readUnary fuel rest
      readAndRest fuel (.join left .and right) rest
    | rest => .ok (left, rest)

/-- Reads a negated filter, a filter in parentheses, a comparison or a test for presence. -/
def readUnary (fuel : Nat) (text : List Char) : Except Fault (Filter × List Char) :=
  match fuel with
  | 0 => stop .noOperand text
  | fuel + 1 =>
    match Text.trimStart text with
    | '!' :: '=' :: rest => readCompared fuel ('!' :: '=' :: rest)
    | '!' :: rest => do
      let (inner, rest) ← readUnary fuel rest
      return (.not inner, rest)
    | '(' :: rest => do
      let (inner, rest) ← readOr fuel rest
      let rest ← expect ')' (Text.trimStart rest)
      return (inner, rest)
    | start => readCompared fuel start

/-- Reads an operand and, behind a comparison sign, a second one. -/
def readCompared (fuel : Nat) (text : List Char) : Except Fault (Filter × List Char) :=
  match fuel with
  | 0 => stop .noOperand text
  | fuel + 1 => do
    let (left, rest) ← readOperand fuel text
    let rest := Text.trimStart rest
    match readComparison? rest with
    | some (comparison, rest) =>
      let (right, rest) ← readOperand fuel (Text.trimStart rest)
      return (.compare left comparison right, rest)
    | none =>
      match left with
      | .current path => return (.present path, rest)
      | .literal _ => stop .loneLiteral rest

/-- Reads a side of a comparison. -/
def readOperand (fuel : Nat) (text : List Char) : Except Fault (Operand × List Char) :=
  match fuel with
  | 0 => stop .noOperand text
  | fuel + 1 =>
    match Text.trimStart text with
    | '@' :: rest => do
      let (path, rest) ← readSelectors fuel rest
      return (.current path, rest)
    | start => do
      let (value, rest) ← readLiteral start
      return (.literal value, rest)

end

/-- A number of calls that reading a text of the given length does not reach. -/
def budget (length : Nat) : Nat := 10 * length + 10

/-- Whether a character can start the name of a variable. -/
def startsVariable (c : Char) : Bool := Text.isLetter c || c == '_'

/-- Whether a character can go on the name of a variable. -/
def inVariable (c : Char) : Bool := Text.isLetterOrNumeral c || c == '_'

/-- Reads what the leading `$` refers to. -/
def readRoot : List Char → Except Fault (Root × List Char)
  | '$' :: '$' :: rest => .ok (.context, rest)
  | '$' :: c :: rest =>
    if startsVariable c then
      .ok (.variable (String.ofList ((c :: rest).takeWhile inVariable)),
        (c :: rest).dropWhile inVariable)
    else .ok (.input, c :: rest)
  | ['$'] => .ok (.input, [])
  | text => stop .noDollar text

/-- Reads a path that fills a text, apart from blanks at its end. -/
def read (text : List Char) : Except Fault Path := do
  let (root, rest) ← readRoot text
  let (selectors, rest) ← readSelectors (budget text.length) rest
  match Text.trimStart rest with
  | [] => return ⟨root, selectors⟩
  | rest => stop .trailing rest

/-- Reads the path that a text holds. -/
def parse (text : String) : Except Error Path :=
  let chars := Text.trim text.toList
  match read chars with
  | .ok path => .ok path
  | .error fault => .error (.malformed text fault.flaw (chars.length - fault.left))

/-- Whether a text looks like a path. -/
def looksLike (text : String) : Bool := (Text.trimStart text.toList).head? == some '$'

end Workflow.Path
