import Workflow.Shell.Condition
import Workflow.Shell.Pattern
import Workflow.Shell.Session

/-!
# Tools

The programs that scripts call. A tool reads what a descriptor leads to, or files, writes to
descriptors and ends with a status. Sleeping is the only thing that takes time.
-/

namespace Workflow.Shell

/-- A program by its arguments; it ends with a status. -/
abbrev Tool := List String → Effect Nat

namespace Tool

/-- Complains under the name of a tool. -/
def complain (name text : String) : Effect Unit :=
  Effect.print 2 (name ++ ": " ++ text ++ "\n")

/-- Complains of how a tool was called. -/
def complainOfUse (name text : String) : Effect Unit :=
  complain name (text ++ "\nTry '" ++ name ++ " --help' for more information.")

/-! ## Printing -/

/-- Prints arguments, with escapes if those are read. -/
def echo (readsEscapes : Bool) : Tool := fun arguments => do
  let (breaks, arguments) := match arguments with
    | "-n" :: rest => (false, rest)
    | _ => (true, arguments)
  let line := " ".intercalate arguments
  let (bytes, stops) := if readsEscapes then unescaped line else (Encoding.utf8 line, false)
  Effect.write 1 (if breaks && !stops then bytes ++ [10] else bytes)
  return 0

/-- Prints a format that is filled in. -/
def printf : Tool := fun arguments => do
  let arguments := match arguments with
    | "--" :: rest => rest
    | _ => arguments
  match arguments with
  | [] =>
    Effect.complain "printf: usage: printf format [arg ...]"
    return 2
  | format :: arguments =>
    let filled := fill format arguments
    Effect.write 1 filled.bytes.reverse
    filled.misfits.forM fun misfit =>
      Effect.complain ("printf: " ++ misfit ++ ": expected numeric value")
    return if filled.misfits.isEmpty then 0 else 1

/-! ## Files -/

/-- Takes the bytes of a file, or what is left to read. A tool complains in its own words of a file
that cannot be opened. -/
def contents (name path complaint : String) : Effect (Option (List UInt8)) := do
  if path == "-" || path == "/dev/stdin" then return some (← Effect.readAll)
  let session ← Effect.session
  match session.files.find path with
  | .void => return some []
  | .entry _ (.file bytes) => return some bytes
  | .entry _ .directory => complain name (path ++ ": Is a directory"); return none
  | .blocked => complain name (complaint ++ ": Not a directory"); return none
  | _ => complain name (complaint ++ ": No such file or directory"); return none

/-- Prints files one after the other. -/
def cat : Tool := fun arguments => do
  let paths := arguments.filter fun argument => argument != "--" && argument != "-u"
  let shown ← (if paths.isEmpty then ["-"] else paths).mapM fun path => do
    match ← contents "cat" path path with
    | some bytes => Effect.write 1 bytes; return true
    | none => return false
  return if shown.all id then 0 else 1

/-- The first lines of bytes, with their line breaks. -/
def firstLines : (count : Nat) → List UInt8 → List UInt8
  | 0, _ => []
  | count + 1, bytes =>
    let line := bytes.takeWhile fun byte => byte != 10
    match bytes.drop line.length with
    | [] => line
    | _ :: rest => line ++ 10 :: firstLines count rest

/-- A count, which may be in thousands. -/
def count? (text : String) : Option Nat :=
  let chars := text.toList
  let digits := chars.takeWhile Decimal.isDigit
  if digits.isEmpty then none
  else
    match String.ofList (chars.drop digits.length) with
    | "" => some (Decimal.nat digits)
    | "k" => some (Decimal.nat digits * 1024)
    | "K" => some (Decimal.nat digits * 1024)
    | "M" => some (Decimal.nat digits * 1048576)
    | _ => none

/-- What is shown of a beginning: a number of bytes or of lines. -/
inductive Measure where
  | bytes (count : Nat)
  | lines (count : Nat)
deriving DecidableEq, Inhabited

/-- The measure that arguments ask for, and the paths behind it. -/
def measure? : (fuel : Nat) → Measure → List String → Option (Measure × List String)
  | fuel + 1, _, "-c" :: count :: rest => do measure? fuel (.bytes (← count? count)) rest
  | fuel + 1, _, "-n" :: count :: rest => do measure? fuel (.lines (← count? count)) rest
  | fuel + 1, measure, "-q" :: rest => measure? fuel measure rest
  | fuel + 1, measure, argument :: rest =>
    match argument.toList with
    | '-' :: 'c' :: count => do measure? fuel (.bytes (← count? (String.ofList count))) rest
    | '-' :: 'n' :: count => do measure? fuel (.lines (← count? (String.ofList count))) rest
    | '-' :: c :: count =>
      if c.isDigit then do measure? fuel (.lines (← count? (String.ofList (c :: count)))) rest
      else none
    | _ => some (measure, argument :: rest)
  | _, measure, [] => some (measure, [])
  | 0, _, _ => none

/-- Prints the beginning of what is left to read or of a file. -/
def head : Tool := fun arguments => do
  match measure? (arguments.length + 1) (.lines 10) arguments with
  | none =>
    complain "head" "invalid number of bytes or lines"
    return 1
  | some (.bytes count, []) =>
    Effect.write 1 (← Effect.readBytes count)
    return 0
  | some (measure, paths) =>
    let shown ← (if paths.isEmpty then ["-"] else paths).mapM fun path => do
      match ← contents "head" path ("cannot open '" ++ path ++ "' for reading") with
      | some bytes =>
        Effect.write 1 <| match measure with
          | .bytes count => bytes.take count
          | .lines count => firstLines count bytes
        return true
      | none => return false
    return if shown.all id then 0 else 1

/-! ## Bytes -/

/-- Translates, deletes or squeezes bytes of sets. -/
def tr : Tool := fun arguments => do
  let (options, sets) := arguments.partition fun argument =>
    argument.length > 1 && argument.startsWith "-"
  let letters := options.flatMap fun option => option.toList.drop 1
  let bytesOf (set : String) : List UInt8 :=
    let bytes := Encoding.utf8 set
    setBytes (bytes.length + 1) bytes
  let complement (set : List UInt8) : List UInt8 :=
    if letters.any fun c => c == 'c' || c == 'C' then
      ((List.range 256).map fun value => value.toUInt8).filter fun byte => !set.contains byte
    else set
  let deletes := letters.contains 'd'
  let squeezes := letters.contains 's'
  let finish (make : List UInt8 → List UInt8) : Effect Nat := do
    Effect.write 1 (make (← Effect.readAll))
    return 0
  match deletes, sets.map bytesOf with
  | true, [first] =>
    let first := complement first
    finish fun bytes => bytes.filter fun byte => !first.contains byte
  | true, [first, second] =>
    let first := complement first
    finish fun bytes => squeeze second (bytes.filter fun byte => !first.contains byte)
  | false, [first] =>
    if squeezes then finish (squeeze (complement first))
    else
      complainOfUse "tr" <|
        "missing operand after ‘" ++ sets.headD "" ++
          "’\nTwo strings must be given when translating."
      return 1
  | false, [first, second] =>
    finish fun bytes =>
      let translated := translate (complement first) second bytes
      if squeezes then squeeze second translated else translated
  | _, _ =>
    complainOfUse "tr" "missing operand"
    return 1

/-- How many words bytes have. -/
def wordCount (bytes : List UInt8) : Nat :=
  let isSpace (byte : UInt8) : Bool := byte == 32 || (9 ≤ byte && byte ≤ 13)
  (bytes.foldl (fun (counted : Nat × Bool) byte =>
    if isSpace byte then (counted.1, false)
    else (if counted.2 then counted.1 else counted.1 + 1, true)) (0, false)).1

/-- A number behind blanks that fill a width. -/
def aligned (width value : Nat) : String :=
  let digits := Decimal.natText value
  String.ofList (List.replicate (width - digits.length) ' ') ++ digits

/-- Counts lines, words, characters and bytes. -/
def wc : Tool := fun arguments => do
  let (options, paths) := arguments.partition fun argument =>
    argument.length > 1 && argument.startsWith "-"
  let letters := options.flatMap fun option => option.toList.drop 1
  let letters := if letters.isEmpty then ['l', 'w', 'c'] else letters
  let counts (bytes : List UInt8) : List Nat :=
    [('l', bytes.countP fun byte => byte == 10), ('w', wordCount bytes),
     ('m', (Encoding.shown bytes).length), ('c', bytes.length)].filterMap fun (letter, count) =>
      if letters.contains letter then some count else none
  let counted ← (if paths.isEmpty then ["-"] else paths).mapM fun path => do
    return (path, (← contents "wc" path path).map fun bytes => (counts bytes, bytes.length))
  let sizes := counted.filterMap fun (_, found) => found.map Prod.snd
  let width :=
    if letters.length = 1 && paths.length ≤ 1 then 1
    else if paths.isEmpty then 7
    else (Decimal.natText (sizes.foldl (· + ·) 0)).length
  counted.forM fun (path, found) => do
    match found with
    | some (counts, _) =>
      let name := if paths.isEmpty then "" else " " ++ path
      Effect.print 1 (" ".intercalate (counts.map (aligned width)) ++ name ++ "\n")
    | none => pure ()
  return if sizes.length = counted.length then 0 else 1

/-! ## Time -/

/-- The milliseconds of a length of time, which may have a unit. -/
def milliseconds? (text : String) : Option Nat :=
  let chars := text.toList
  let number := chars.takeWhile fun c => Decimal.isDigit c || c == '.'
  let whole := number.takeWhile Decimal.isDigit
  let fraction := (number.drop whole.length).drop 1
  let unit? : Option Nat := match String.ofList (chars.drop number.length) with
    | "" => some 1
    | "s" => some 1
    | "m" => some 60
    | "h" => some 3600
    | "d" => some 86400
    | _ => none
  if (whole.isEmpty && fraction.isEmpty) || !fraction.all Decimal.isDigit then none
  else
    let parts := Nat.pow 10 fraction.length
    unit?.map fun unit => (Decimal.nat (whole ++ fraction) * unit * 1000 + parts - 1) / parts

def sleep : Tool := fun arguments => do
  match arguments, arguments.mapM milliseconds? with
  | [], _ =>
    complainOfUse "sleep" "missing operand"
    return 1
  | _, some lengths =>
    Effect.pause (lengths.foldl (· + ·) 0)
    return 0
  | argument :: _, none =>
    complainOfUse "sleep" ("invalid time interval ‘" ++ argument ++ "’")
    return 1

/-! ## Conditions -/

def test : Tool := fun arguments => do
  let session ← Effect.session
  match Condition.evaluate session.files arguments with
  | .ok holds => return if holds then 0 else 1
  | .error error =>
    Effect.complain ("test: " ++ error.message)
    return 2

/-- Tests a condition between brackets. -/
def bracket : Tool := fun arguments => do
  if arguments.getLast? != some "]" then
    Effect.complain "[: missing ]"
    return 2
  let session ← Effect.session
  match Condition.evaluate session.files arguments.dropLast with
  | .ok holds => return if holds then 0 else 1
  | .error error =>
    Effect.complain ("[: " ++ error.message)
    return 2

def find? (name : String) : Option Tool :=
  match name with
  | "true" => some fun _ => return 0
  | "false" => some fun _ => return 1
  | "echo" => some (echo false)
  | "printf" => some printf
  | "cat" => some cat
  | "head" => some head
  | "tr" => some tr
  | "wc" => some wc
  | "sleep" => some sleep
  | "test" => some test
  | "[" => some bracket
  | _ => none

end Tool

end Workflow.Shell
