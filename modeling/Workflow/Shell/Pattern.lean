/-!
# Patterns and sets of characters

Patterns of scripts, in which `*` stands for any run of characters, `?` for any one of them and
brackets for one of a set, and the sets of bytes that are translated or deleted.
-/

namespace Workflow.Shell

/-! ## Patterns -/

inductive Symbol where
  | run
  | any
  | char (c : Char)
  | oneOf (negated : Bool) (ranges : List (Char × Char))
deriving DecidableEq, Inhabited

def ranges : List Char → List (Char × Char)
  | low :: '-' :: high :: rest => (low, high) :: ranges rest
  | c :: rest => (c, c) :: ranges rest
  | [] => []

/-- The set at the front of a text, behind its opening bracket. -/
def bracket? (text : List Char) : Option (Symbol × List Char) :=
  let (negated, text) := match text with
    | '!' :: rest => (true, rest)
    | '^' :: rest => (true, rest)
    | _ => (false, text)
  let (first, text) := match text with
    | ']' :: rest => ([']'], rest)
    | _ => ([], text)
  let inner := text.takeWhile fun c => c != ']'
  match text.drop inner.length with
  | [] => none
  | _ :: rest => some (.oneOf negated (ranges (first ++ inner)), rest)

/-- The symbols of characters, each of them with a flag that says whether it was quoted. -/
def symbols : (fuel : Nat) → List (Char × Bool) → List Symbol
  | 0, _ => []
  | _, [] => []
  | fuel + 1, (c, true) :: rest => .char c :: symbols fuel rest
  | fuel + 1, ('*', false) :: rest => .run :: symbols fuel rest
  | fuel + 1, ('?', false) :: rest => .any :: symbols fuel rest
  | fuel + 1, ('[', false) :: rest =>
    match bracket? (rest.map Prod.fst) with
    | some (symbol, left) => symbol :: symbols fuel (rest.drop (rest.length - left.length))
    | none => .char '[' :: symbols fuel rest
  | fuel + 1, (c, false) :: rest => .char c :: symbols fuel rest

/-- Whether a pattern stands for one character. -/
def Symbol.accepts (c : Char) : Symbol → Bool
  | .run => false
  | .any => true
  | .char d => c == d
  | .oneOf negated ranges => negated != ranges.any fun (low, high) => low ≤ c && c ≤ high

/-- The endings of a text, the longest first. -/
def endings (text : List Char) : List (List Char) :=
  (List.range (text.length + 1)).map fun count => text.drop count

/-- Whether a pattern stands for a whole text. -/
def isMatch : List Symbol → List Char → Bool
  | [], text => text.isEmpty
  | .run :: rest, text => (endings text).any (isMatch rest)
  | _ :: _, [] => false
  | symbol :: rest, c :: text => symbol.accepts c && isMatch rest text

/-! ## Sets of bytes -/

def byteClass? (name : String) : Option (List UInt8) :=
  let range (low high : Nat) : List UInt8 :=
    (List.range (high + 1 - low)).map fun offset => (low + offset).toUInt8
  match name with
  | "digit" => some (range 48 57)
  | "lower" => some (range 97 122)
  | "upper" => some (range 65 90)
  | "alpha" => some (range 65 90 ++ range 97 122)
  | "alnum" => some (range 48 57 ++ range 65 90 ++ range 97 122)
  | "space" => some (range 9 13 ++ [32])
  | "blank" => some [9, 32]
  | "cntrl" => some (range 0 31 ++ [127])
  | "punct" => some (range 33 47 ++ range 58 64 ++ range 91 96 ++ range 123 126)
  | "print" => some (range 32 126)
  | "graph" => some (range 33 126)
  | "xdigit" => some (range 48 57 ++ range 65 70 ++ range 97 102)
  | _ => none

/-- The value of an octal digit. -/
def octal? (byte : UInt8) : Option Nat :=
  if 48 ≤ byte && byte ≤ 55 then some (byte.toNat - 48) else none

/-- The byte at the front of a set, with escapes replaced. -/
def setByte : List UInt8 → UInt8 × List UInt8
  | 92 :: a :: rest =>
    match octal? a with
    | some _ =>
      let digits := ((a :: rest).take 3).takeWhile fun byte => (octal? byte).isSome
      let value := digits.foldl (fun value byte => value * 8 + (octal? byte).getD 0) 0
      (value.toUInt8, (a :: rest).drop digits.length)
    | none =>
      let byte : UInt8 := match a with
        | 97 => 7
        | 98 => 8
        | 102 => 12
        | 110 => 10
        | 114 => 13
        | 116 => 9
        | 118 => 11
        | other => other
      (byte, rest)
  | byte :: rest => (byte, rest)
  | [] => (0, [])

/-- The bytes of a set, in order. -/
def setBytes : (fuel : Nat) → List UInt8 → List UInt8
  | 0, _ => []
  | _, [] => []
  | fuel + 1, 91 :: 58 :: rest =>
    let name := rest.takeWhile fun byte => byte != 58
    let named := String.ofList (name.map fun byte => Char.ofNat byte.toNat)
    match byteClass? named, rest.drop name.length with
    | some bytes, 58 :: 93 :: rest => bytes ++ setBytes fuel rest
    | _, _ => 91 :: setBytes fuel (58 :: rest)
  | fuel + 1, bytes =>
    let (low, rest) := setByte bytes
    match rest with
    | 45 :: next :: more =>
      let (high, rest) := setByte (next :: more)
      (List.range (high.toNat + 1 - low.toNat)).map (fun offset => (low.toNat + offset).toUInt8) ++
        setBytes fuel rest
    | _ => low :: setBytes fuel rest

/-- Where a byte stands in a set. -/
def position? (byte : UInt8) (set : List UInt8) : Option Nat :=
  set.findIdx? fun other => other == byte

/-- Translates bytes from one set to another, whose last byte stands for those that it lacks. -/
def translate (source target : List UInt8) (bytes : List UInt8) : List UInt8 :=
  bytes.map fun byte =>
    match position? byte source with
    | some place => target.getD place (target.getLastD byte)
    | none => byte

/-- Keeps one of several equal bytes of a set that stand side by side. -/
def squeeze (set : List UInt8) (bytes : List UInt8) : List UInt8 :=
  (bytes.foldl (fun kept byte =>
    if kept.head? == some byte && set.contains byte then kept else byte :: kept) []).reverse

end Workflow.Shell
