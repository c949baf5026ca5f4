import Workflow.Decimal.Literal
import Workflow.Json.Reader

/-!
# Literals of settings files

The strings, numbers and words of TOML. There are four kinds of strings: between single or double
quotes, on one line or on several. Only those between double quotes have escapes. Integers are
signed with 64 bits; digits may be separated by single underscores.
-/

namespace Workflow.Toml

/-- Blanks within a line. -/
def isBlank (c : Char) : Bool := c == ' ' || c == '\t'

/-- Drops the blanks at the front. -/
def skipBlanks (text : List Char) : List Char := text.dropWhile isBlank

/-- Whether a character may stand in comments and strings as it is. -/
def isPlain (c : Char) : Bool := c == '\t' || (' ' ≤ c && c != '\x7f')

/-! ## Strings -/

/-- The character that a one-letter escape stands for. -/
def escape? : Char → Option Char
  | 'b' => some '\x08'
  | 't' => some '\t'
  | 'n' => some '\n'
  | 'f' => some '\x0c'
  | 'r' => some '\r'
  | '"' => some '"'
  | '\\' => some '\\'
  | _ => none

/-- The character with a number that is written in hexadecimal digits. -/
def scalar? (digits : List Char) : Option Char := do
  let values ← digits.mapM Json.hexValue?
  let point := values.foldl (fun number value => number * 16 + value) 0
  if point.isValidChar then some (Char.ofNat point) else none

/-- The rest of a string between double quotes, behind what was read before in reverse. -/
def basicFrom (read : List Char) : List Char → Option (String × List Char)
  | [] => none
  | '"' :: rest => some (String.ofList read.reverse, rest)
  | '\\' :: 'u' :: a :: b :: c :: d :: rest =>
    match scalar? [a, b, c, d] with
    | some char => basicFrom (char :: read) rest
    | none => none
  | '\\' :: 'U' :: a :: b :: c :: d :: e :: f :: g :: h :: rest =>
    match scalar? [a, b, c, d, e, f, g, h] with
    | some char => basicFrom (char :: read) rest
    | none => none
  | '\\' :: c :: rest =>
    match escape? c with
    | some char => basicFrom (char :: read) rest
    | none => none
  | c :: rest => if isPlain c && c != '\\' then basicFrom (c :: read) rest else none

/-- The rest of a string between single quotes. -/
def literal? (text : List Char) : Option (String × List Char) :=
  let inner := text.takeWhile fun c => isPlain c && c != '\x27'
  match text.drop inner.length with
  | '\x27' :: rest => some (String.ofList inner, rest)
  | _ => none

/-- Drops the line break at the front, if there is one. -/
def dropBreak : List Char → List Char
  | '\n' :: rest => rest
  | '\r' :: '\n' :: rest => rest
  | text => text

/-- Whether only blanks are left of the line. -/
def endsLine (text : List Char) : Bool :=
  match skipBlanks text with
  | '\n' :: _ => true
  | '\r' :: '\n' :: _ => true
  | _ => false

/-- The rest of a string of several lines between double quotes. After a backslash at the end of a
line, blanks and line breaks are passed over. -/
def basicLinesFrom (skips : Bool) (read : List Char) : List Char → Option (String × List Char)
  | [] => none
  | '"' :: '"' :: '"' :: '"' :: '"' :: rest =>
    some (String.ofList ('"' :: '"' :: read).reverse, rest)
  | '"' :: '"' :: '"' :: '"' :: rest => some (String.ofList ('"' :: read).reverse, rest)
  | '"' :: '"' :: '"' :: rest => some (String.ofList read.reverse, rest)
  | '\r' :: '\n' :: rest => basicLinesFrom skips (if skips then read else '\n' :: read) rest
  | '\n' :: rest => basicLinesFrom skips (if skips then read else '\n' :: read) rest
  | '\\' :: 'u' :: a :: b :: c :: d :: rest =>
    match scalar? [a, b, c, d] with
    | some char => basicLinesFrom false (char :: read) rest
    | none => none
  | '\\' :: 'U' :: a :: b :: c :: d :: e :: f :: g :: h :: rest =>
    match scalar? [a, b, c, d, e, f, g, h] with
    | some char => basicLinesFrom false (char :: read) rest
    | none => none
  | '\\' :: c :: rest =>
    if endsLine (c :: rest) then basicLinesFrom true read (c :: rest)
    else
      match escape? c with
      | some char => basicLinesFrom false (char :: read) rest
      | none => none
  | c :: rest =>
    if skips && isBlank c then basicLinesFrom true read rest
    else if isPlain c && c != '\\' then basicLinesFrom false (c :: read) rest
    else none

/-- The rest of a string of several lines between single quotes. -/
def literalLinesFrom (read : List Char) : List Char → Option (String × List Char)
  | [] => none
  | '\x27' :: '\x27' :: '\x27' :: '\x27' :: '\x27' :: rest =>
    some (String.ofList ('\x27' :: '\x27' :: read).reverse, rest)
  | '\x27' :: '\x27' :: '\x27' :: '\x27' :: rest =>
    some (String.ofList ('\x27' :: read).reverse, rest)
  | '\x27' :: '\x27' :: '\x27' :: rest => some (String.ofList read.reverse, rest)
  | '\r' :: '\n' :: rest => literalLinesFrom ('\n' :: read) rest
  | c :: rest => if isPlain c || c == '\n' then literalLinesFrom (c :: read) rest else none

/-- A string of any kind, of one line only where a key is read. -/
def string? (isKey : Bool) : List Char → Option (String × List Char)
  | '"' :: '"' :: '"' :: rest =>
    if isKey then some ("", '"' :: rest) else basicLinesFrom false [] (dropBreak rest)
  | '"' :: rest => basicFrom [] rest
  | '\x27' :: '\x27' :: '\x27' :: rest =>
    if isKey then some ("", '\x27' :: rest) else literalLinesFrom [] (dropBreak rest)
  | '\x27' :: rest => literal? rest
  | _ => none

/-! ## Numbers -/

/-- Digits without the underscores between them. -/
def digits? (accepts : Char → Bool) : List Char → Option (List Char)
  | [] => none
  | [c] => if accepts c then some [c] else none
  | c :: '_' :: rest => if accepts c then (digits? accepts rest).map (c :: ·) else none
  | c :: rest => if accepts c then (digits? accepts rest).map (c :: ·) else none

/-- Digits without a zero in front of another digit. -/
def wholeDigits? (text : List Char) : Option (List Char) := do
  let digits ← digits? Decimal.isDigit text
  match digits with
  | '0' :: _ :: _ => none
  | _ => some digits

/-- A number in a range of signed integers of 64 bits. -/
def bounded? (value : Int) : Option Json :=
  if Number.minSigned ≤ value ∧ value ≤ Number.maxSigned then some (.int value) else none

/-- An integer whose base is given by its beginning. -/
def based? (base : Nat) (accepts : Char → Bool) (text : List Char) : Option Json := do
  let digits ← digits? accepts text
  let values ← digits.mapM Json.hexValue?
  bounded? (values.foldl (fun number value => number * base + value) 0 : Nat)

/-- The exponent of a float, after its letter. -/
def exponent? (text : List Char) : Option Int := do
  let (negative, unsigned) := match text with
    | '-' :: rest => (true, rest)
    | '+' :: rest => (false, rest)
    | _ => (false, text)
  let size := Decimal.nat (← digits? Decimal.isDigit unsigned)
  return if negative then -(size : Int) else size

/-- Whether a character begins the exponent of a float. -/
def isExponentLetter (c : Char) : Bool := c == 'e' || c == 'E'

/-- The magnitude of a float that has a fraction or an exponent. -/
def magnitude? (text : List Char) : Option Float := do
  let mantissa := text.takeWhile fun c => !isExponentLetter c
  let exponent ← match text.dropWhile fun c => !isExponentLetter c with
    | [] => some 0
    | _ :: rest => exponent? rest
  let whole ← wholeDigits? (mantissa.takeWhile fun c => c != '.')
  match mantissa.dropWhile fun c => c != '.' with
  | [] => return Decimal.scaled (Decimal.nat whole) exponent
  | _ :: fraction =>
    let fraction ← digits? Decimal.isDigit fraction
    return Decimal.scaled (Decimal.nat (whole ++ fraction)) (exponent - fraction.length)

/-- A decimal integer or a float behind its sign. -/
def signed? (negative : Bool) (text : List Char) : Option Json :=
  let sign (value : Float) : Json := .number (.float (if negative then -value else value))
  if text = ['i', 'n', 'f'] then some (sign (1.0 / 0.0))
  else if text = ['n', 'a', 'n'] then some (sign (0.0 / 0.0))
  else if text.any fun c => c == '.' || isExponentLetter c then do
    let value ← magnitude? text
    if value.isInf && !negative then none else some (sign value)
  else do
    let size := Decimal.nat (← wholeDigits? text)
    bounded? (if negative then -(size : Int) else size)

/-- A truth value or a number. -/
def word? (text : List Char) : Option Json :=
  match text with
  | ['t', 'r', 'u', 'e'] => some (.bool true)
  | ['f', 'a', 'l', 's', 'e'] => some (.bool false)
  | '0' :: 'x' :: rest => based? 16 (fun c => (Json.hexValue? c).isSome) rest
  | '0' :: 'o' :: rest => based? 8 (fun c => '0' ≤ c && c ≤ '7') rest
  | '0' :: 'b' :: rest => based? 2 (fun c => c == '0' || c == '1') rest
  | '-' :: rest => signed? true rest
  | '+' :: rest => signed? false rest
  | _ => signed? false text

/-- Whether a character can be part of a truth value or a number. -/
def isWordChar (c : Char) : Bool :=
  c.isAlphanum || c == '_' || c == '+' || c == '-' || c == '.'

end Workflow.Toml
