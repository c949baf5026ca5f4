import Workflow.Toml.Literal
import Workflow.Toml.Table

/-!
# Reading settings files

`Toml.parse?` reads a TOML file as a document. A file is a list of lines: members, headers of tables
and headers of arrays of tables. Arrays may go over several lines, tables between braces may not.
Dates and times are not read.
-/

namespace Workflow.Toml

/-- How deep values may be nested. -/
def maxDepth : Nat := 80

/-! ## Keys -/

/-- Whether a character may stand in a key without quotes. -/
def isBareChar (c : Char) : Bool := c.isAlphanum || c == '_' || c == '-'

/-- A key without dots. -/
def simpleKey? (text : List Char) : Option (String × List Char) :=
  match text with
  | '"' :: _ => string? true text
  | '\x27' :: _ => string? true text
  | _ =>
    let bare := text.takeWhile isBareChar
    if bare.isEmpty then none else some (String.ofList bare, text.drop bare.length)

/-- A key with its path. -/
def key? : (fuel : Nat) → List Char → Option ((List String × String) × List Char)
  | 0, _ => none
  | fuel + 1, text => do
    let (first, rest) ← simpleKey? (skipBlanks text)
    match skipBlanks rest with
    | '.' :: rest =>
      let ((path, key), rest) ← key? fuel rest
      return ((first :: path, key), rest)
    | rest => return (([], first), rest)

/-! ## Lines -/

/-- Drops a comment, which must end with its line. -/
def skipComment? (text : List Char) : Option (List Char) :=
  match text with
  | '#' :: rest =>
    match rest.dropWhile isPlain with
    | [] => some []
    | '\n' :: rest => some ('\n' :: rest)
    | '\r' :: '\n' :: rest => some ('\n' :: rest)
    | _ => none
  | _ => some text

/-- Drops what may stand behind a line, and its line break. -/
def endLine? (text : List Char) : Option (List Char) := do
  match ← skipComment? (skipBlanks text) with
  | [] => return []
  | '\n' :: rest => return rest
  | '\r' :: '\n' :: rest => return rest
  | _ => none

/-- Drops blanks, comments and line breaks. -/
def skipLines? : (fuel : Nat) → List Char → Option (List Char)
  | 0, _ => none
  | fuel + 1, text =>
    match skipBlanks text with
    | '\n' :: rest => skipLines? fuel rest
    | '\r' :: '\n' :: rest => skipLines? fuel rest
    | '#' :: rest => (skipComment? ('#' :: rest)).bind (skipLines? fuel)
    | rest => some rest

/-! ## Values -/

mutual

/-- Reads a value; `depth` bounds the nesting. -/
def value? (fuel depth : Nat) (text : List Char) : Option (Json × List Char) :=
  match fuel with
  | 0 => none
  | fuel + 1 =>
    match text with
    | '[' :: rest =>
      if depth = 0 then none
      else (items? fuel (depth - 1) [] rest).map fun (items, rest) => (.array items, rest)
    | '\x7b' :: rest =>
      if depth = 0 then none
      else
        match skipBlanks rest with
        | '\x7d' :: rest => some (.object [], rest)
        | rest =>
          (inline? fuel (depth - 1) [] rest).map fun (members, rest) =>
            (Json.ofMembers (membersJson members), rest)
    | '"' :: _ => (string? false text).map fun (value, rest) => (.string value, rest)
    | '\x27' :: _ => (string? false text).map fun (value, rest) => (.string value, rest)
    | _ =>
      let word := text.takeWhile isWordChar
      (word? word).map fun value => (value, text.drop word.length)

/-- Reads the items of an array behind those that were read before, in reverse. -/
def items? (fuel depth : Nat) (read : List Json) (text : List Char) :
    Option (List Json × List Char) :=
  match fuel with
  | 0 => none
  | fuel + 1 =>
    match skipLines? (text.length + 1) text with
    | none => none
    | some (']' :: rest) => some (read.reverse, rest)
    | some text =>
      match value? fuel depth text with
      | none => none
      | some (item, rest) =>
        match skipLines? (rest.length + 1) rest with
        | some (',' :: rest) => items? fuel depth (item :: read) rest
        | some (']' :: rest) => some ((item :: read).reverse, rest)
        | _ => none

/-- Reads the members of a table between braces, behind those that were read before. -/
def inline? (fuel depth : Nat) (read : Members) (text : List Char) : Option (Members × List Char) :=
  match fuel with
  | 0 => none
  | fuel + 1 =>
    match member? fuel depth text with
    | none => none
    | some ((path, key), value, rest) =>
      match Members.assign path key value read, skipBlanks rest with
      | some read, ',' :: rest => inline? fuel depth read rest
      | some read, '\x7d' :: rest => some (read, rest)
      | _, _ => none

/-- Reads a key and its value. -/
def member? (fuel depth : Nat) (text : List Char) :
    Option ((List String × String) × Json × List Char) :=
  match fuel with
  | 0 => none
  | fuel + 1 =>
    match key? (text.length + 1) text with
    | some (key, '=' :: rest) =>
      (value? fuel depth (skipBlanks rest)).map fun (value, rest) => (key, value, rest)
    | _ => none

end

/-! ## Documents -/

/-- Reads a header up to its closing bracket. -/
def header? (text : List Char) : Option ((List String × String) × List Char) :=
  match key? (text.length + 1) text with
  | some (key, ']' :: rest) => some (key, rest)
  | _ => none

/-- Reads the lines of a file. Members belong to the table of the last header. -/
def lines? : (fuel : Nat) → (header : List String) → Members → List Char → Option Members
  | 0, _, _, _ => none
  | fuel + 1, header, members, text => do
    match ← skipLines? (text.length + 1) text with
    | [] => return members
    | '[' :: '[' :: rest =>
      match ← header? rest with
      | ((path, key), ']' :: rest) =>
        lines? fuel (path ++ [key]) (← members.extend path key) (← endLine? rest)
      | _ => none
    | '[' :: rest =>
      let ((path, key), rest) ← header? rest
      lines? fuel (path ++ [key]) (← members.declare path key) (← endLine? rest)
    | text =>
      let ((path, key), value, rest) ← member? (2 * text.length + 2) maxDepth text
      lines? fuel header (← members.assignIn header path key value) (← endLine? rest)

/-- Reads a file as a document. -/
def parse? (text : String) : Option Json :=
  let chars := match text.toList with
    | '\ufeff' :: rest => rest
    | chars => chars
  (lines? (chars.length + 1) [] [] chars).map fun members => Json.ofMembers (membersJson members)

end Workflow.Toml
