import Workflow.Json
import Workflow.Decimal.Shortest

/-!
# Writing JSON

`Json.compact` is the text without any blanks, the one used inside strings and messages;
`Json.pretty` spreads containers over lines with two spaces per level. In strings only the quote,
the backslash and control characters are escaped. Members are written in the order they have.
-/

namespace Workflow

namespace Number

def compact : Number → List Char
  | .int value => Decimal.integer value
  | .float value => Decimal.floatChars value

end Number

namespace Json

/-- A hexadecimal digit in lower case. -/
def hexDigit (value : Nat) : Char :=
  if value < 10 then Char.ofNat ('0'.toNat + value) else Char.ofNat ('a'.toNat + (value - 10))

/-- A character as it stands between the quotes of a string. -/
def escaped (c : Char) : List Char :=
  if c = '"' then ['\\', '"']
  else if c = '\\' then ['\\', '\\']
  else if c = '\n' then ['\\', 'n']
  else if c = '\r' then ['\\', 'r']
  else if c = '\t' then ['\\', 't']
  else if c.toNat = 8 then ['\\', 'b']
  else if c.toNat = 12 then ['\\', 'f']
  else if c.toNat < 32 then ['\\', 'u', '0', '0', hexDigit (c.toNat / 16), hexDigit (c.toNat % 16)]
  else [c]

/-- The escaped characters of a string, without quotes. -/
def escapedChars : List Char → List Char
  | [] => []
  | c :: rest => escaped c ++ escapedChars rest

/-- A string between quotes. -/
def quoted (text : String) : List Char := '"' :: (escapedChars text.toList ++ ['"'])

/-- The text of a truth value. -/
def boolChars (value : Bool) : List Char :=
  if value then ['t', 'r', 'u', 'e'] else ['f', 'a', 'l', 's', 'e']

mutual

/-- The text of a document without blanks. -/
def compact : Json → List Char
  | .null => ['n', 'u', 'l', 'l']
  | .bool value => boolChars value
  | .number value => value.compact
  | .string value => quoted value
  | .array [] => ['[', ']']
  | .array (item :: rest) => '[' :: (compact item ++ compactItems rest)
  | .object [] => ['\x7b', '\x7d']
  | .object ((key, value) :: rest) =>
    '\x7b' :: (quoted key ++ (':' :: (compact value ++ compactMembers rest)))

/-- The items after the first, each behind a comma, and the closing bracket. -/
def compactItems : List Json → List Char
  | [] => [']']
  | item :: rest => ',' :: (compact item ++ compactItems rest)

/-- The members after the first, each behind a comma, and the closing brace. -/
def compactMembers : List (String × Json) → List Char
  | [] => ['\x7d']
  | (key, value) :: rest =>
    ',' :: (quoted key ++ (':' :: (compact value ++ compactMembers rest)))

end

/-- The text of a document without blanks, as a string. -/
def text (document : Json) : String := String.ofList document.compact

/-- A line break followed by the indentation of a level. -/
def newline (level : Nat) : List Char := '\n' :: List.replicate (2 * level) ' '

mutual

/-- The text of a document over several lines, at a level of indentation. -/
def prettyAt (level : Nat) : Json → List Char
  | .array [] => ['[', ']']
  | .array (item :: rest) =>
    '[' :: (newline (level + 1) ++ prettyAt (level + 1) item ++ prettyItems level rest)
  | .object [] => ['\x7b', '\x7d']
  | .object ((key, value) :: rest) =>
    '\x7b' :: (newline (level + 1) ++ quoted key ++ [':', ' '] ++ prettyAt (level + 1) value ++
      prettyMembers level rest)
  | .null => compact .null
  | .bool value => compact (.bool value)
  | .number value => compact (.number value)
  | .string value => compact (.string value)

/-- The items after the first, each on its own line, and the closing bracket. -/
def prettyItems (level : Nat) : List Json → List Char
  | [] => newline level ++ [']']
  | item :: rest =>
    ',' :: (newline (level + 1) ++ prettyAt (level + 1) item ++ prettyItems level rest)

/-- The members after the first, each on its own line, and the closing brace. -/
def prettyMembers (level : Nat) : List (String × Json) → List Char
  | [] => newline level ++ ['\x7d']
  | (key, value) :: rest =>
    ',' :: (newline (level + 1) ++ quoted key ++ [':', ' '] ++ prettyAt (level + 1) value ++
      prettyMembers level rest)

end

/-- The text of a document over several lines. -/
def pretty (document : Json) : String := String.ofList (prettyAt 0 document)

end Json

end Workflow
