import Workflow.Shell.Token

/-!
# Reading shell scripts

`Shell.read` reads the commands of a script, or says what stands where it should not. Words such as
`if` and `done` are reserved only where a command may begin.
-/

namespace Workflow.Shell

/-- A reader of commands; it leaves the tokens behind them. An error says what is unexpected. -/
abbrev Reader := StateT (List Token) (Except String)

namespace Reader

/-- The name of a token in an error. -/
def tokenName : Option Token → String
  | none => "end of file"
  | some (.operator "\n") => "newline"
  | some (.operator name) => "\"" ++ name ++ "\""
  | some (.word word) =>
    match bareText? word with
    | some text => if reservedWords.contains text then "\"" ++ text ++ "\"" else "word"
    | none => "word"
  | some _ => "redirection"
where
  /-- The words that are reserved. -/
  reservedWords : List String :=
    ["if", "then", "elif", "else", "fi", "while", "until", "do", "done", "for", "in", "case",
     "esac", "\x7b", "\x7d", "!"]

/-- Refuses the next token, perhaps because another one must stand there. -/
def unexpected {α : Type} (expected : Option String) : Reader α := fun tokens =>
  let expecting := match expected with
    | some name => " (expecting \"" ++ name ++ "\")"
    | none => ""
  .error (tokenName tokens.head? ++ " unexpected" ++ expecting)

def peek : Reader (Option Token) := fun tokens => .ok (tokens.head?, tokens)

/-- Drops the next token. -/
def skip : Reader Unit := fun tokens => .ok ((), tokens.tail)

/-- Drops line breaks. -/
def skipBreaks : Reader Unit := fun tokens =>
  .ok ((), tokens.dropWhile fun token => token == .operator "\n")

/-- The reserved word that may stand next. -/
def reserved? : Reader (Option String) := do
  match ← peek with
  | some (.word word) => return bareText? word
  | _ => return none

/-- Drops a reserved word that must stand next. -/
def keyword (name : String) : Reader Unit := do
  if (← reserved?) == some name then skip else unexpected (some name)

/-- Drops an operator that must stand next. -/
def operator (name : String) : Reader Unit := do
  if (← peek) == some (.operator name) then skip else unexpected (some name)

/-- Whether nothing but the end of a list of commands can stand next. -/
def atEnd : Reader Bool := do
  match ← peek with
  | none => return true
  | some (.operator name) => return name == ")" || name == ";;"
  | _ =>
    let closing := ["then", "elif", "else", "fi", "do", "done", "esac", "\x7d"]
    return (← reserved?).any closing.contains

/-- A word that must stand next. -/
def word : Reader Word := do
  match ← peek with
  | some (.word word) => skip; return word
  | _ => unexpected none

/-- A redirection, if one stands next. -/
def redirection? : Reader (Option Redirection) := do
  match ← peek with
  | some (.redirect descriptor redirect) =>
    skip
    return some { descriptor, redirect, target := ← word }
  | some (.supply descriptor text) =>
    skip
    return some { descriptor, redirect := .supply, target := text }
  | _ => return none

/-- All redirections that stand next. -/
def redirections : (fuel : Nat) → Reader (List Redirection)
  | 0 => unexpected none
  | fuel + 1 => do
    match ← redirection? with
    | none => return []
    | some first => return first :: (← redirections fuel)

/-- The name and the value of a word that is an assignment. -/
def assignment? : Word → Option (String × Word)
  | ⟨false, .text value⟩ :: parts =>
    let chars := value.toList
    let name := chars.takeWhile isNameChar
    match isName name, chars.drop name.length with
    | true, '=' :: rest =>
      let value := String.ofList rest
      let parts := if rest.isEmpty then parts else ⟨false, .text value⟩ :: parts
      some (String.ofList name, parts)
    | _, _ => none
  | _ => none

/-- A command with its redirections, which stand for themselves where there are none. -/
def withRedirections (body : Command) : List Redirection → Command
  | [] => body
  | redirections => .redirected body redirections

def simpleFrom (assignments : List (String × Word)) (words : List Word)
    (redirections : List Redirection) : (fuel : Nat) → Reader Command
  | 0 => unexpected none
  | fuel + 1 => do
    match ← redirection? with
    | some found => simpleFrom assignments words (redirections ++ [found]) fuel
    | none =>
      match ← peek with
      | some (.word next) =>
        skip
        match words.isEmpty, assignment? next with
        | true, some assigned => simpleFrom (assignments ++ [assigned]) words redirections fuel
        | _, _ => simpleFrom assignments (words ++ [next]) redirections fuel
      | _ =>
        if assignments.isEmpty && words.isEmpty && redirections.isEmpty then unexpected none
        else return withRedirections (.simple assignments words) redirections

/-- The words of a loop over words, up to the end of the line. -/
def wordsToBreak : (fuel : Nat) → Reader (List Word)
  | 0 => unexpected none
  | fuel + 1 => do
    match ← peek with
    | some (.word next) => skip; return next :: (← wordsToBreak fuel)
    | some (.operator ";") => skip; return []
    | some (.operator "\n") => skip; return []
    | _ => unexpected none

/-- The patterns of a branch, up to its closing bracket. -/
def patterns : (fuel : Nat) → Reader (List Word)
  | 0 => unexpected none
  | fuel + 1 => do
    let first ← word
    match ← peek with
    | some (.operator "|") => skip; return first :: (← patterns fuel)
    | some (.operator ")") => skip; return [first]
    | _ => unexpected none

mutual

/-- Commands up to the end of their list. -/
def list : (fuel : Nat) → Reader Command
  | 0 => unexpected none
  | fuel + 1 => do
    skipBreaks
    if ← atEnd then return .empty
    let first ← chain fuel
    match ← peek with
    | some (.operator "&") =>
      skip
      return .sequence (.background first) (← list fuel)
    | some (.operator ";") => skip; return .sequence first (← list fuel)
    | some (.operator "\n") => return .sequence first (← list fuel)
    | _ => if ← atEnd then return first else unexpected none

/-- Pipelines that run as the ones before them succeed or fail. -/
def chain : (fuel : Nat) → Reader Command
  | 0 => unexpected none
  | fuel + 1 => do chainFrom fuel (← pipeline fuel)

/-- Goes on with a chain. -/
def chainFrom (fuel : Nat) (first : Command) : Reader Command :=
  match fuel with
  | 0 => unexpected none
  | fuel + 1 => do
    match ← peek with
    | some (.operator "&&") =>
      skip; skipBreaks
      chainFrom fuel (.both first (← pipeline fuel))
    | some (.operator "||") =>
      skip; skipBreaks
      chainFrom fuel (.either first (← pipeline fuel))
    | _ => return first

/-- Commands that are joined by pipes, perhaps negated. -/
def pipeline : (fuel : Nat) → Reader Command
  | 0 => unexpected none
  | fuel + 1 => do
    if (← reserved?) == some "!" then
      skip
      return .negated (← pipeline fuel)
    let stages ← stages fuel
    match stages with
    | [single] => return single
    | stages => return .pipeline stages

/-- Commands that are joined by pipes. -/
def stages : (fuel : Nat) → Reader (List Command)
  | 0 => unexpected none
  | fuel + 1 => do
    let first ← command fuel
    if (← peek) == some (.operator "|") then
      skip; skipBreaks
      return first :: (← stages fuel)
    else return [first]

def command : (fuel : Nat) → Reader Command
  | 0 => unexpected none
  | fuel + 1 => do
    if (← peek) == some (.operator "(") then
      skip
      let body ← list fuel
      operator ")"
      return withRedirections (.subshell body) (← redirections fuel)
    let compound (body : Reader Command) : Reader Command := do
      skip
      let body ← body
      return withRedirections body (← redirections fuel)
    match ← reserved? with
    | some "\x7b" => compound do
      let body ← list fuel
      keyword "\x7d"
      return body
    | some "if" => compound (conditional fuel)
    | some "while" => compound (loop false fuel)
    | some "until" => compound (loop true fuel)
    | some "for" => compound (each fuel)
    | some "case" => compound (branches fuel)
    | some name =>
      let tokens ← get
      match tokens.drop 1 with
      | .operator "(" :: .operator ")" :: rest =>
        set rest
        skipBreaks
        return .function name (← command fuel)
      | _ => if ← atEnd then unexpected none else simpleFrom [] [] [] fuel
    | none => simpleFrom [] [] [] fuel

/-- What follows `if` or `elif`. -/
def conditional : (fuel : Nat) → Reader Command
  | 0 => unexpected none
  | fuel + 1 => do
    let condition ← list fuel
    keyword "then"
    let body ← list fuel
    match ← reserved? with
    | some "elif" => skip; return .conditional condition body (← conditional fuel)
    | some "else" =>
      skip
      let otherwise ← list fuel
      keyword "fi"
      return .conditional condition body otherwise
    | _ =>
      keyword "fi"
      return .conditional condition body .empty

/-- What follows `while` or `until`. -/
def loop (whileFails : Bool) : (fuel : Nat) → Reader Command
  | 0 => unexpected none
  | fuel + 1 => do
    let condition ← list fuel
    return .loop whileFails condition (← loopBody fuel)

/-- What stands between `do` and `done`. -/
def loopBody : (fuel : Nat) → Reader Command
  | 0 => unexpected none
  | fuel + 1 => do
    keyword "do"
    let body ← list fuel
    keyword "done"
    return body

/-- What follows `for`. -/
def each : (fuel : Nat) → Reader Command
  | 0 => unexpected none
  | fuel + 1 => do
    let name := plainText (← word)
    skipBreaks
    let words ←
      if (← reserved?) == some "in" then
        skip
        pure (some (← wordsToBreak fuel))
      else
        if (← peek) == some (.operator ";") then skip
        pure none
    skipBreaks
    return .each name words (← loopBody fuel)

/-- What follows `case`. -/
def branches : (fuel : Nat) → Reader Command
  | 0 => unexpected none
  | fuel + 1 => do
    let subject ← word
    skipBreaks
    keyword "in"
    return .branches subject (← branchList fuel)

/-- The branches up to `esac`. -/
def branchList : (fuel : Nat) → Reader (List (List Word × Command))
  | 0 => unexpected none
  | fuel + 1 => do
    skipBreaks
    if (← reserved?) == some "esac" then
      skip
      return []
    if (← peek) == some (.operator "(") then skip
    let patterns ← patterns fuel
    let body ← list fuel
    if (← peek) == some (.operator ";;") then
      skip
      return (patterns, body) :: (← branchList fuel)
    else
      keyword "esac"
      return [(patterns, body)]

end

end Reader

def read (script : String) : Except String Command := do
  match tokens? script with
  | none => throw "Unterminated quoted string"
  | some tokens =>
    match ← (Reader.list (8 * tokens.length + 8)).run tokens with
    | (command, []) => return command
    | (_, token :: _) => throw (Reader.tokenName (some token) ++ " unexpected")

end Workflow.Shell
