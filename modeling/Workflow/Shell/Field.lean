import Workflow.Files
import Workflow.Shell.Pattern

/-!
# Fields

An expanded word is cut into fields at the blanks that were not quoted. A field that is a pattern
stands for the names that fit it. Lines that are read are cut into values in the same way.
-/

namespace Workflow.Shell

/-- Characters, each of them with a flag that says whether it was quoted. -/
abbrev Marked := List (Char × Bool)

/-- Marks the characters of a text. -/
def marked (isQuoted : Bool) (text : String) : Marked := text.toList.map fun c => (c, isQuoted)

/-- A piece of an expanded word. -/
inductive Bit where
  /-- Text that is kept as it is. -/
  | kept (text : Marked)
  /-- Text that is split at blanks. -/
  | split (text : String)
  /-- A field ends here. -/
  | border
deriving DecidableEq, Inhabited

/-- The blanks between fields. -/
def isFieldBlank (c : Char) : Bool := c == ' ' || c == '\t' || c == '\n'

/-- Fields in reverse, and the one that is not ended yet. -/
structure Fields where
  ended : List Marked := []
  current : Option Marked := none

namespace Fields

/-- Adds text to the current field. -/
def add (fields : Fields) (text : Marked) : Fields :=
  { fields with current := some (fields.current.getD [] ++ text) }

/-- Ends the current field, if there is one. -/
def close (fields : Fields) : Fields :=
  match fields.current with
  | some field => { ended := field :: fields.ended }
  | none => fields

/-- Adds the words of a text. -/
def addWords (fields : Fields) : (fuel : Nat) → List Char → Fields
  | 0, _ => fields
  | _, [] => fields
  | fuel + 1, c :: rest =>
    if isFieldBlank c then addWords fields.close fuel rest
    else
      let word := (c :: rest).takeWhile fun c => !isFieldBlank c
      addWords (fields.add (word.map fun c => (c, false))) fuel ((c :: rest).drop word.length)

/-- Adds a piece. -/
def bit (fields : Fields) : Bit → Fields
  | .kept text => fields.add text
  | .border => fields.close
  | .split text => fields.addWords (text.length + 1) text.toList

def all (fields : Fields) : List Marked := fields.close.ended.reverse

end Fields

/-- Whether a field is a pattern. -/
def isPattern (field : Marked) : Bool :=
  field.any fun (c, isQuoted) => !isQuoted && (c == '*' || c == '?' || c == '[')

/-- The texts of a field: the names in the working directory that it is a pattern of, or else its
own text. -/
def fieldTexts (files : Files) (field : Marked) : List String :=
  let own := String.ofList (field.map Prod.fst)
  if isPattern field then
    let pattern := symbols (field.length + 1) field
    let names := files.entries.filterMap fun (place, _) =>
      match place with
      | [name] =>
        let isShown := !name.startsWith "." || own.startsWith "."
        if isShown && isMatch pattern name.toList then some name else none
      | _ => none
    if names.isEmpty then [own] else names.mergeSort fun left right => left ≤ right
  else [own]

/-- Splits a line into values for names; the last one takes the rest. Blanks at both ends go. -/
def splitFor : List String → List Char → List (String × String)
  | [], _ => []
  | [name], text =>
    let text := text.dropWhile isFieldBlank
    [(name, String.ofList (text.reverse.dropWhile isFieldBlank).reverse)]
  | name :: names, text =>
    let text := text.dropWhile isFieldBlank
    let value := text.takeWhile fun c => !isFieldBlank c
    (name, String.ofList value) :: splitFor names (text.drop value.length)

/-- A line with its backslashes taken out, each of which keeps the next character. -/
def withoutBackslashes : List Char → List Char
  | '\\' :: c :: rest => c :: withoutBackslashes rest
  | ['\\'] => []
  | c :: rest => c :: withoutBackslashes rest
  | [] => []

end Workflow.Shell
