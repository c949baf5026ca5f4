import Workflow.Shell.Script

/-!
# Tokens of shell scripts

A script is cut into words, operators and redirections. What stands between the brackets of an
expansion is kept as text; it is read when the script runs.
-/

namespace Workflow.Shell

/-- A token of a script. A line break is an operator. -/
inductive Token where
  | word (word : Word)
  | operator (text : String)
  | redirect (descriptor : Nat) (redirect : Redirect)
  /-- The text that stands in the script for a descriptor to read. -/
  | supply (descriptor : Nat) (text : Word)
deriving DecidableEq, Inhabited

/-! ## Characters -/

/-- Whether a character may begin a name. -/
def isNameStart (c : Char) : Bool := c.isAlpha || c == '_'

/-- Whether a character may go on with a name. -/
def isNameChar (c : Char) : Bool := c.isAlphanum || c == '_'

/-- Whether a text is a name. -/
def isName (text : List Char) : Bool := text.head?.any isNameStart && text.all isNameChar

/-- Whether a character is a parameter by itself. -/
def isSpecial (c : Char) : Bool := "?#$!@*-".toList.contains c

/-- Whether a character ends a word that has no quotes around it. -/
def endsWord (c : Char) : Bool := " \t\n;&|()<>".toList.contains c

/-- What stands before the bracket that closes one opened before, and what stands behind it. The
flag says between which quotes the text is. -/
def enclosed (opening closing : Char) (depth : Nat) (quote : Option Char) (read : List Char) :
    List Char → Option (List Char × List Char)
  | [] => none
  | '\\' :: c :: rest =>
    if quote == some '\x27' then
      if c == '\x27' then enclosed opening closing depth none (c :: '\\' :: read) rest
      else enclosed opening closing depth quote (c :: '\\' :: read) rest
    else enclosed opening closing depth quote (c :: '\\' :: read) rest
  | c :: rest =>
    match quote with
    | some mark =>
      enclosed opening closing depth (if c == mark then none else quote) (c :: read) rest
    | none =>
      if c == '\x27' || c == '"' then enclosed opening closing depth (some c) (c :: read) rest
      else if c == opening then enclosed opening closing (depth + 1) none (c :: read) rest
      else if c == closing then
        match depth with
        | 0 => some (read.reverse, rest)
        | depth + 1 => enclosed opening closing depth none (c :: read) rest
      else enclosed opening closing depth none (c :: read) rest

/-- What stands before a back quote, with escapes replaced, and what stands behind it. -/
def backQuoted (read : List Char) : List Char → Option (List Char × List Char)
  | [] => none
  | '\x60' :: rest => some (read.reverse, rest)
  | '\\' :: c :: rest =>
    if c == '\x60' || c == '\\' || c == '$' then backQuoted (c :: read) rest
    else backQuoted (c :: '\\' :: read) rest
  | c :: rest => backQuoted (c :: read) rest

/-! ## Expansions -/

/-- What is done to a parameter whose name was read. -/
def modified? (name : String) : List Char → Option Piece
  | [] => some (.parameter name)
  | ':' :: c :: rest => do
    let modifier ← missing? c
    some (.modified name true modifier (String.ofList rest))
  | '#' :: '#' :: rest => some (.modified name false (.dropStart true) (String.ofList rest))
  | '#' :: rest => some (.modified name false (.dropStart false) (String.ofList rest))
  | '%' :: '%' :: rest => some (.modified name false (.dropEnd true) (String.ofList rest))
  | '%' :: rest => some (.modified name false (.dropEnd false) (String.ofList rest))
  | c :: rest => do
    let modifier ← missing? c
    some (.modified name false modifier (String.ofList rest))
where
  /-- What is done when a parameter is missing, or when it is not. -/
  missing? : Char → Option Modifier
    | '-' => some .orElse
    | '=' => some .assign
    | '+' => some .instead
    | '?' => some .require
    | _ => none

/-- The parameter at the front of a text. -/
def parameterName (text : List Char) : List Char :=
  match text with
  | [] => []
  | c :: _ =>
    if isNameStart c then text.takeWhile isNameChar
    else if c.isDigit then text.takeWhile Char.isDigit
    else if isSpecial c then [c]
    else []

/-- What stands between the braces of an expansion. -/
def braced? (text : List Char) : Option Piece :=
  let named (text : List Char) : Option Piece :=
    let name := parameterName text
    if name.isEmpty then none else modified? (String.ofList name) (text.drop name.length)
  match text with
  | ['#'] => some (.parameter "#")
  | '#' :: rest =>
    let name := parameterName rest
    if name.length = rest.length then some (.length (String.ofList name)) else named text
  | _ => named text

/-- The expansion behind a dollar sign; the sign stands for itself where none follows. -/
def expansion? (text : List Char) : Option (Piece × List Char) :=
  match text with
  | '(' :: rest => do
    let (inner, rest) ← enclosed '(' ')' 0 none [] rest
    match inner, inner.getLast? with
    | '(' :: inner, some ')' => some (.arithmetic (String.ofList inner.dropLast), rest)
    | _, _ => some (.output (String.ofList inner), rest)
  | '\x7b' :: rest => do
    let (inner, rest) ← enclosed '\x7b' '\x7d' 0 none [] rest
    return (← braced? inner, rest)
  | c :: _ =>
    let name := if c.isDigit then [c] else parameterName text
    if name.isEmpty then some (.text "$", text)
    else some (.parameter (String.ofList name), text.drop name.length)
  | [] => some (.text "$", [])

/-! ## Words -/

/-- Adds text behind parts in reverse. -/
def addText (isQuoted : Bool) (text : String) : List Part → List Part
  | ⟨quoted, .text old⟩ :: parts =>
    if quoted == isQuoted then ⟨quoted, .text (old ++ text)⟩ :: parts
    else ⟨isQuoted, .text text⟩ :: ⟨quoted, .text old⟩ :: parts
  | parts => ⟨isQuoted, .text text⟩ :: parts

/-- Reads the parts of a text between double quotes, behind those in reverse. The closing quote is
looked for where one is needed. -/
def quotedFrom (closes : Bool) (parts : List Part) :
    (fuel : Nat) → List Char → Option (List Part × List Char)
  | 0, _ => none
  | _ + 1, [] => if closes then none else some (parts, [])
  | fuel + 1, '"' :: rest =>
    if closes then some (parts, rest)
    else quotedFrom closes (addText true "\"" parts) fuel rest
  | fuel + 1, '\\' :: '\n' :: rest => quotedFrom closes parts fuel rest
  | fuel + 1, '\\' :: c :: rest =>
    let kept := if "$`\"\\".toList.contains c then [c] else ['\\', c]
    quotedFrom closes (addText true (String.ofList kept) parts) fuel rest
  | fuel + 1, '$' :: rest => do
    let (piece, rest) ← expansion? rest
    quotedFrom closes (⟨true, piece⟩ :: parts) fuel rest
  | fuel + 1, '\x60' :: rest => do
    let (script, rest) ← backQuoted [] rest
    quotedFrom closes (⟨true, .output (String.ofList script)⟩ :: parts) fuel rest
  | fuel + 1, c :: rest => quotedFrom closes (addText true (String.singleton c) parts) fuel rest

/-- Reads a word, behind parts in reverse, up to a character that ends it outside of quotes. -/
def wordFrom (ends : Char → Bool) (parts : List Part) :
    (fuel : Nat) → List Char → Option (Word × List Char)
  | 0, _ => none
  | _ + 1, [] => some (parts.reverse, [])
  | fuel + 1, '\x27' :: rest =>
    let inner := rest.takeWhile fun c => c != '\x27'
    match rest.drop inner.length with
    | [] => none
    | _ :: rest => wordFrom ends (addText true (String.ofList inner) parts) fuel rest
  | fuel + 1, '"' :: rest => do
    let (parts, rest) ← quotedFrom true (addText true "" parts) fuel rest
    wordFrom ends parts fuel rest
  | fuel + 1, '\\' :: '\n' :: rest => wordFrom ends parts fuel rest
  | fuel + 1, '\\' :: c :: rest => wordFrom ends (addText true (String.singleton c) parts) fuel rest
  | fuel + 1, '$' :: rest => do
    let (piece, rest) ← expansion? rest
    wordFrom ends (⟨false, piece⟩ :: parts) fuel rest
  | fuel + 1, '\x60' :: rest => do
    let (script, rest) ← backQuoted [] rest
    wordFrom ends (⟨false, .output (String.ofList script)⟩ :: parts) fuel rest
  | fuel + 1, c :: rest =>
    if ends c then some (parts.reverse, c :: rest)
    else wordFrom ends (addText false (String.singleton c) parts) fuel rest

/-- The text of a word without expansions. -/
def plainText (word : Word) : String :=
  String.join <| word.map fun part =>
    match part.piece with
    | .text value => value
    | _ => ""

/-- The text of a word that has neither quotes nor expansions. -/
def bareText? : Word → Option String
  | [⟨false, .text value⟩] => some value
  | _ => none

/-! ## Scripts -/

/-- Splits a text at its first line break. -/
def splitLine (text : List Char) : List Char × Option (List Char) :=
  let line := text.takeWhile fun c => c != '\n'
  match text.drop line.length with
  | [] => (line, none)
  | _ :: rest => (line, some rest)

/-- The lines before one that is a delimiter, and the text behind it. -/
def supplied (delimiter : List Char) (read : List Char) :
    (fuel : Nat) → List Char → List Char × List Char
  | 0, _ => (read, [])
  | fuel + 1, text =>
    match splitLine text with
    | (line, none) => if line = delimiter then (read, []) else (read ++ line, [])
    | (line, some rest) =>
      if line = delimiter then (read, rest)
      else supplied delimiter (read ++ line ++ ['\n']) fuel rest

/-- Reads the text that stands below the line for a descriptor, and takes it out of the script. -/
def supply? (descriptor : Nat) (text : List Char) : Option (Token × List Char) := do
  let (delimiter, rest) ← wordFrom endsWord [] (text.length + 1) (text.dropWhile fun c => c == ' ')
  let (line, below) := splitLine rest
  let (body, rest) := supplied (plainText delimiter).toList [] (text.length + 1) (below.getD [])
  let parts ←
    if delimiter.any (·.isQuoted) then some [⟨true, .text (String.ofList body)⟩]
    else (quotedFrom false [] (body.length + 1) body).map fun (parts, _) => parts.reverse
  return (.supply descriptor parts, line ++ '\n' :: rest)

/-- A redirection at the front of a text, with its own descriptor if that is given. -/
def redirection? (descriptor : Option Nat) : List Char → Option (Token × List Char)
  | '>' :: '>' :: rest => some (.redirect (descriptor.getD 1) .append, rest)
  | '>' :: '&' :: rest => some (.redirect (descriptor.getD 1) .duplicate, rest)
  | '>' :: '|' :: rest => some (.redirect (descriptor.getD 1) .write, rest)
  | '>' :: rest => some (.redirect (descriptor.getD 1) .write, rest)
  | '<' :: '<' :: rest => supply? (descriptor.getD 0) rest
  | '<' :: '&' :: rest => some (.redirect (descriptor.getD 0) .duplicate, rest)
  | '<' :: rest => some (.redirect (descriptor.getD 0) .read, rest)
  | _ => none

/-- An operator at the front of a text. -/
def operator? : List Char → Option (String × List Char)
  | '&' :: '&' :: rest => some ("&&", rest)
  | '|' :: '|' :: rest => some ("||", rest)
  | ';' :: ';' :: rest => some (";;", rest)
  | c :: rest => if "\n;&|()".toList.contains c then some (String.singleton c, rest) else none
  | [] => none

/-- The tokens of a script, behind those in reverse. -/
def tokensFrom (read : List Token) : (fuel : Nat) → List Char → Option (List Token)
  | 0, _ => none
  | _ + 1, [] => some read.reverse
  | fuel + 1, ' ' :: rest => tokensFrom read fuel rest
  | fuel + 1, '\t' :: rest => tokensFrom read fuel rest
  | fuel + 1, '\\' :: '\n' :: rest => tokensFrom read fuel rest
  | fuel + 1, '#' :: rest => tokensFrom read fuel (rest.dropWhile fun c => c != '\n')
  | fuel + 1, text =>
    let digits := text.takeWhile Char.isDigit
    let descriptor := if digits.isEmpty then none else (String.ofList digits).toNat?
    match redirection? descriptor (text.drop digits.length), operator? text with
    | some (token, rest), _ => tokensFrom (token :: read) fuel rest
    | none, some (name, rest) => tokensFrom (.operator name :: read) fuel rest
    | none, none => do
      let (word, rest) ← wordFrom endsWord [] (text.length + 1) text
      tokensFrom (.word word :: read) fuel rest

def tokens? (script : String) : Option (List Token) :=
  tokensFrom [] (2 * script.length + 2) script.toList

end Workflow.Shell
