import Workflow.Decimal.Literal
import Workflow.Encoding
import Workflow.Json.Reader

/-!
# Formats of shell scripts

Texts with escapes, and formats whose directives are filled in from arguments. A format is used
again for the arguments that are left.
-/

namespace Workflow.Shell

def charBytes (c : Char) : List UInt8 := Encoding.utf8 (String.singleton c)

/-- Whether a character is an octal digit. -/
def isOctal (c : Char) : Bool := '0' ≤ c && c ≤ '7'

def octalByte (digits : List Char) : UInt8 :=
  (digits.foldl (fun value c => value * 8 + Decimal.digitValue c) 0).toUInt8

/-- The byte that an escape stands for, and the text behind it. A backslash stands for itself where
no escape follows. -/
def escapeByte (text : List Char) : UInt8 × List Char :=
  match text with
  | '\\' :: rest => (92, rest)
  | 'a' :: rest => (7, rest)
  | 'b' :: rest => (8, rest)
  | 'f' :: rest => (12, rest)
  | 'n' :: rest => (10, rest)
  | 'r' :: rest => (13, rest)
  | 't' :: rest => (9, rest)
  | 'v' :: rest => (11, rest)
  | _ =>
    let digits := (text.take 3).takeWhile isOctal
    if digits.isEmpty then (92, text) else (octalByte digits, text.drop digits.length)

/-- The bytes of a text with escapes, behind others in reverse, and whether nothing is to follow. -/
def unescapedFrom (read : List UInt8) : (fuel : Nat) → List Char → List UInt8 × Bool
  | _ + 1, '\\' :: 'c' :: _ => (read.reverse, true)
  | fuel + 1, '\\' :: '0' :: c :: rest =>
    let (byte, rest) := escapeByte (if isOctal c then c :: rest else '0' :: c :: rest)
    unescapedFrom (byte :: read) fuel rest
  | fuel + 1, '\\' :: rest =>
    let (byte, rest) := escapeByte rest
    unescapedFrom (byte :: read) fuel rest
  | fuel + 1, c :: rest => unescapedFrom ((charBytes c).reverse ++ read) fuel rest
  | _, _ => (read.reverse, false)

/-- The bytes of a text with escapes, and whether nothing is to follow. -/
def unescaped (text : String) : List UInt8 × Bool :=
  unescapedFrom [] (text.length + 1) text.toList

/-! ## Directives -/

/-- How a directive is filled in. -/
structure Directive where
  alignsLeft : Bool := false
  padsWithZeros : Bool := false
  showsPlus : Bool := false
  width : Nat := 0
  precision : Option Nat := none
deriving Inhabited

/-- Sets the flags at the front of a directive. -/
def Directive.flags (directive : Directive) : List Char → Directive × List Char
  | '-' :: rest => flags { directive with alignsLeft := true } rest
  | '0' :: rest => flags { directive with padsWithZeros := true } rest
  | '+' :: rest => flags { directive with showsPlus := true } rest
  | ' ' :: rest => flags directive rest
  | '#' :: rest => flags directive rest
  | rest => (directive, rest)

/-- Reads a directive behind its percent sign. -/
def directive (text : List Char) : Directive × List Char :=
  let (flagged, text) := Directive.flags {} text
  let width := text.takeWhile Decimal.isDigit
  let wide := { flagged with width := Decimal.nat width }
  match text.drop width.length with
  | '.' :: rest =>
    let precision := rest.takeWhile Decimal.isDigit
    ({ wide with precision := some (Decimal.nat precision) }, rest.drop precision.length)
  | rest => (wide, rest)

/-- Pads bytes to the width of a directive. -/
def Directive.pad (directive : Directive) (bytes : List UInt8) : List UInt8 :=
  let padding := List.replicate (directive.width - bytes.length) 32
  if directive.alignsLeft then bytes ++ padding else padding ++ bytes

/-- A text as a directive shows it. -/
def Directive.fillText (directive : Directive) (bytes : List UInt8) : List UInt8 :=
  directive.pad <| match directive.precision with
    | some count => bytes.take count
    | none => bytes

/-- Digits of a number in a base. -/
def digitsIn (base value : Nat) : List Char := Nat.toDigits base value

/-- A number as a directive shows it, with digits in a base. -/
def Directive.fillNumber (directive : Directive) (base : Nat) (upper : Bool) (value : Int) :
    List UInt8 :=
  let sign := if value < 0 then ['-'] else if directive.showsPlus then ['+'] else []
  let digits := digitsIn base value.natAbs
  let digits := if upper then digits.map Char.toUpper else digits
  let least := directive.precision.getD <|
    if directive.padsWithZeros && !directive.alignsLeft then directive.width - sign.length else 1
  let zeros := List.replicate (least - digits.length) '0'
  directive.pad (Encoding.utf8 (String.ofList (sign ++ zeros ++ digits)))

/-! ## Numbers -/

/-- The value of digits in a base, and whether all of them were digits. -/
def valueIn (base : Nat) (text : List Char) : Nat × Bool :=
  let value? (c : Char) : Option Nat := (Json.hexValue? c).filter fun value => value < base
  let run := text.takeWhile fun c => (value? c).isSome
  (run.foldl (fun number c => number * base + (value? c).getD 0) 0,
    !run.isEmpty && run.length = text.length)

/-- An integer in one of the bases of scripts, and whether the whole text was read. -/
def integerOf (text : String) : Int × Bool :=
  let unsigned (text : List Char) : Nat × Bool :=
    match text with
    | '0' :: 'x' :: rest => valueIn 16 rest
    | '0' :: 'X' :: rest => valueIn 16 rest
    | '0' :: c :: rest => valueIn 8 (c :: rest)
    | _ => valueIn 10 text
  match text.toList.dropWhile Char.isWhitespace with
  | ['\x27', c] => (c.toNat, true)
  | ['"', c] => (c.toNat, true)
  | '-' :: rest => let (value, whole) := unsigned rest; (-(value : Int), whole)
  | '+' :: rest => let (value, whole) := unsigned rest; (value, whole)
  | rest => let (value, whole) := unsigned rest; (value, whole)

/-! ## Filling in -/

/-- What was made of a format. -/
structure Filled where
  /-- The bytes in reverse. -/
  bytes : List UInt8 := []
  /-- The arguments that are left. -/
  arguments : List String
  /-- Whether an argument was taken. -/
  takes : Bool := false
  /-- Nothing is to follow. -/
  stops : Bool := false
  /-- Arguments that should have been numbers. -/
  misfits : List String := []
deriving Inhabited

namespace Filled

def add (filled : Filled) (bytes : List UInt8) : Filled :=
  { filled with bytes := bytes.reverse ++ filled.bytes }

/-- Takes the next argument, which is empty when none is left. -/
def take (filled : Filled) : String × Filled :=
  (filled.arguments.headD "",
    { filled with arguments := filled.arguments.tail, takes := true })

def addNumber (filled : Filled) (directive : Directive) (base : Nat) (upper : Bool) : Filled :=
  let isMissing := filled.arguments.isEmpty
  let (argument, filled) := filled.take
  let (value, whole) := integerOf argument
  let filled := filled.add (directive.fillNumber base upper value)
  if whole || isMissing then filled
  else { filled with misfits := filled.misfits ++ [argument] }

/-- Fills in a directive that has a letter. -/
def addDirective (filled : Filled) (directive : Directive) : Char → Filled
  | 's' =>
    let (argument, filled) := filled.take
    filled.add (directive.fillText (Encoding.utf8 argument))
  | 'b' =>
    let (argument, filled) := filled.take
    let (bytes, stops) := unescaped argument
    { filled.add (directive.fillText bytes) with stops }
  | 'c' =>
    let (argument, filled) := filled.take
    filled.add (directive.pad ((Encoding.utf8 argument).take 1))
  | 'd' => filled.addNumber directive 10 false
  | 'i' => filled.addNumber directive 10 false
  | 'u' => filled.addNumber directive 10 false
  | 'o' => filled.addNumber directive 8 false
  | 'x' => filled.addNumber directive 16 false
  | 'X' => filled.addNumber directive 16 true
  | _ => filled

def once (filled : Filled) : (fuel : Nat) → List Char → Filled
  | fuel + 1, '%' :: '%' :: rest => once (filled.add [37]) fuel rest
  | fuel + 1, '%' :: rest =>
    match directive rest with
    | (directive, letter :: rest) =>
      let filled := filled.addDirective directive letter
      if filled.stops then filled else once filled fuel rest
    | (_, []) => filled
  | fuel + 1, '\\' :: rest =>
    let (byte, rest) := escapeByte rest
    once (filled.add [byte]) fuel rest
  | fuel + 1, c :: rest => once (filled.add (charBytes c)) fuel rest
  | _, _ => filled

/-- Fills in a format until no argument is left. -/
def all (format : List Char) (filled : Filled) : (fuel : Nat) → Filled
  | 0 => filled
  | fuel + 1 =>
    let filled := { filled with takes := false }.once (format.length + 1) format
    if filled.stops || !filled.takes || filled.arguments.isEmpty then filled
    else all format filled fuel

end Filled

def fill (format : String) (arguments : List String) : Filled :=
  Filled.all format.toList { arguments } (arguments.length + 1)

end Workflow.Shell
