import Workflow.Shell.Arithmetic
import Workflow.Shell.Builtin
import Workflow.Shell.Parameter
import Workflow.Shell.Reader
import Workflow.Shell.Redirection
import Workflow.Shell.Tool

/-!
# Running shell scripts

A command ends with a status, which the session keeps, and with a flow that says how the commands
around it go on. What a script writes is collected; the stages of a pipeline run one after the
other.
-/

namespace Workflow.Shell

/-! ## Around commands -/

/-- Forgets what a command changes, and keeps its end to itself. -/
def isolated (body : Effect Flow) : Effect Flow := do
  let kept ← Effect.session
  let _ ← body
  Effect.modify kept.restore
  return .next

/-- Runs a command whose status is tested, so that it may fail. -/
def tested (body : Effect Flow) : Effect Flow := do
  let kept := (← Effect.session).isTested
  Effect.modify fun session => { session with isTested := true }
  let flow ← body
  Effect.modify fun session => { session with isTested := kept }
  return flow

/-- Ends the script when a command fails that must not. -/
def checked (flow : Flow) : Effect Flow := do
  let session ← Effect.session
  if flow == .next && session.isStrict && !session.isTested && session.status != 0 then
    return .over
  else return flow

/-- Runs a command whose output is collected. -/
def captured (body : Effect Flow) : Effect (List UInt8) := do
  let kept ← Effect.session
  let (number, session) := kept.addSink
  Effect.modify fun _ => session.lead 1 (.sink number)
  let _ ← body
  let bytes := (← Effect.session).written number
  Effect.modify kept.restore
  return bytes

/-- The text of output, without the line breaks at its end. -/
def outputText (bytes : List UInt8) : String :=
  let chars := (Encoding.shown (bytes.filter fun byte => byte != 0)).toList
  String.ofList (chars.reverse.dropWhile fun c => c == '\n').reverse

/-- Goes on unless the script ends. -/
def andThen (flow : Flow) (next : Effect Flow) : Effect Flow := do
  let session ← Effect.session
  if session.signal.isSome || session.isBroken then return .over
  else if flow != .next then return flow
  else next

/-- The name of a program without the directory that all programs lie in. -/
def plainName (name : String) : String :=
  ["/bin/", "/usr/bin/"].foldl (fun name start =>
    if name.startsWith start then (name.drop start.length).toString else name) name

/-- The letters of the options of a shell, and the arguments behind them. -/
def shellOptions (letters : List Char) : List String → List Char × List String
  | [] => (letters, [])
  | argument :: rest =>
    match argument.toList with
    | ['-', '-'] => (letters, rest)
    | '-' :: more => if more.isEmpty then (letters, rest) else shellOptions (letters ++ more) rest
    | _ => (letters, argument :: rest)

/-- Whether a word holds what a script prints. -/
def runsScript (word : Word) : Bool :=
  word.any fun part =>
    match part.piece with
    | .output _ => true
    | _ => false

/-! ## Commands -/

mutual

/-- The value of a piece of a word. -/
def pieceText (fuel : Nat) (isQuoted : Bool) (piece : Piece) : Effect String :=
  match fuel with
  | 0 => return ""
  | fuel + 1 => do
    let session ← Effect.session
    match piece with
    | .text value => return value
    | .parameter name => return (session.parameter? name).getD ""
    | .length name => return Decimal.natText ((session.parameter? name).getD "").length
    | .output script =>
      let bytes ← captured (runText fuel script)
      return outputText bytes
    | .arithmetic expression =>
      let expanded ← looseText fuel true expression
      let value (name : String) : Except Arithmetic.Error Int :=
        let text := (session.parameter? name).getD ""
        match integerOf text with
        | (number, true) => .ok number
        | (_, false) => if text.isEmpty then .ok 0 else .error (.notNumber text)
      match Arithmetic.evaluate value expanded with
      | .ok number => return Decimal.integerText number
      | .error error =>
        Effect.abandon (error.message expanded)
        return ""
    | .modified name countsEmpty modifier word =>
      let value? := (session.parameter? name).filter fun value => !(countsEmpty && value.isEmpty)
      match modifier, value? with
      | .orElse, some value => return value
      | .orElse, none => looseText fuel isQuoted word
      | .instead, some _ => looseText fuel isQuoted word
      | .instead, none => return ""
      | .assign, some value => return value
      | .assign, none =>
        let value ← looseText fuel isQuoted word
        Effect.modify fun session => session.assign name value
        return value
      | .require, some value => return value
      | .require, none =>
        let text ← looseText fuel isQuoted word
        Effect.abandon (name ++ ": " ++ if text.isEmpty then "parameter not set" else text)
        return ""
      | .dropStart longest, _ =>
        let pattern ← looseText fuel isQuoted word
        let chars := (value?.getD "").toList
        return String.ofList (dropMatch longest (patternSymbols pattern) chars)
      | .dropEnd longest, _ =>
        let pattern ← looseText fuel isQuoted word
        let chars := (value?.getD "").toList
        return String.ofList (dropMatchEnd longest (patternSymbols pattern) chars)

/-- The value of a text with expansions that stands within an expansion. -/
def looseText (fuel : Nat) (isQuoted : Bool) (text : String) : Effect String :=
  match fuel with
  | 0 => return ""
  | fuel + 1 =>
    let chars := text.toList
    let word := if isQuoted
      then (quotedFrom false [] (chars.length + 1) chars).map fun (parts, _) => parts.reverse
      else (wordFrom (fun _ => false) [] (chars.length + 1) chars).map Prod.fst
    match word with
    | some word => wordText fuel word
    | none => return text

/-- The value of a word that is not split. -/
def wordText (fuel : Nat) (word : Word) : Effect String :=
  match fuel with
  | 0 => return ""
  | fuel + 1 => do
    let texts ← word.mapM fun part => pieceText fuel part.isQuoted part.piece
    return String.join texts

/-- The symbols of a word that is a pattern. -/
def wordSymbols (fuel : Nat) (word : Word) : Effect (List Symbol) :=
  match fuel with
  | 0 => return []
  | fuel + 1 => do
    let chars ← word.mapM fun part => do
      let text ← pieceText fuel part.isQuoted part.piece
      return text.toList.map fun c => (c, part.isQuoted)
    return symbols (chars.flatten.length + 1) chars.flatten

def wordFields (fuel : Nat) (word : Word) : Effect (List String) :=
  match fuel with
  | 0 => return []
  | fuel + 1 => do
    let bits ← word.mapM fun part => do
      match part.piece, part.isQuoted with
      | .parameter "@", true =>
        let arguments := (← Effect.session).arguments
        return (arguments.map fun text => Bit.kept (marked true text)).intersperse .border
      | .text value, isQuoted => return [Bit.kept (marked isQuoted value)]
      | piece, true => return [Bit.kept (marked true (← pieceText fuel true piece))]
      | piece, false => return [Bit.split (← pieceText fuel false piece)]
    let files := (← Effect.session).files
    return (bits.flatten.foldl Fields.bit {}).all.flatMap (fieldTexts files)

def runText (fuel : Nat) (script : String) : Effect Flow :=
  match fuel with
  | 0 => return .over
  | fuel + 1 =>
    match read script with
    | .ok command => run fuel command
    | .error unexpected => do
      Effect.abandon ("Syntax error: " ++ unexpected)
      return .over

def run (fuel : Nat) (command : Command) : Effect Flow :=
  match fuel with
  | 0 => return .over
  | fuel + 1 => do
    match command with
    | .empty => return .next
    | .simple assignments words =>
      let fields ← words.mapM (wordFields fuel)
      let values ← assignments.mapM fun (name, word) => do return (name, ← wordText fuel word)
      let assigned (session : Session) : Session :=
        values.foldl (fun session (name, value) => session.assign name value) session
      if (← Effect.session).isBroken then return .over
      match fields.flatten with
      | [] =>
        Effect.modify assigned
        if (words ++ assignments.map Prod.snd).any runsScript then checked .next
        else finish 0 .next
      | name :: arguments =>
        let kept := (← Effect.session).bindings
        Effect.modify assigned
        let flow ← call fuel name arguments
        if !values.isEmpty then
          Effect.modify fun session => { session with bindings := kept }
        checked flow
    | .redirected body redirections =>
      let kept := (← Effect.session).channels
      let opened ← redirections.mapM fun redirection => do
        redirect redirection.descriptor redirection.redirect
          (← wordText fuel redirection.target)
      let stays := match body with
        | .simple _ [word] => bareText? word == some "exec"
        | _ => false
      let flow ← if opened.all id then run fuel body else checked (← finish 2 .next)
      if !stays then Effect.modify fun session => { session with channels := kept }
      return flow
    | .pipeline stages => checked (← runStages fuel stages)
    | .negated body =>
      let flow ← tested (run fuel body)
      let status := (← Effect.session).status
      if flow == .next then Effect.setStatus (if status = 0 then 1 else 0)
      return flow
    | .both first second =>
      andThen (← tested (run fuel first)) do
        if (← Effect.session).status = 0 then run fuel second else return .next
    | .either first second =>
      andThen (← tested (run fuel first)) do
        if (← Effect.session).status = 0 then return .next else run fuel second
    | .sequence first second => andThen (← run fuel first) (run fuel second)
    | .subshell body => checked (← isolated (run fuel body))
    | .background body =>
      let _ ← isolated do
        let _ ← openRead 0 []
        run fuel body
      finish 0 .next
    | .conditional condition body otherwise =>
      andThen (← tested (run fuel condition)) do
        match (← Effect.session).status, otherwise with
        | 0, _ => run fuel body
        | _, .empty => finish 0 .next
        | _, _ => run fuel otherwise
    | .loop whileFails condition body => runLoop fuel whileFails condition body 0
    | .each name words body =>
      let fields ← match words with
        | some words => words.mapM (wordFields fuel)
        | none => pure [(← Effect.session).arguments]
      if fields.flatten.isEmpty then finish 0 .next
      else runEach fuel name body fields.flatten
    | .branches word branches =>
      let text ← wordText fuel word
      runBranches fuel text.toList branches
    | .function name body =>
      Effect.modify fun session =>
        { session with functions := (name, body) :: session.functions }
      finish 0 .next

/-- Runs the stages of a pipeline, each with the output of the one before it. -/
def runStages (fuel : Nat) (stages : List Command) : Effect Flow :=
  match fuel with
  | 0 => return .over
  | fuel + 1 => do
    match stages with
    | [] => return .next
    | [last] => isolated (run fuel last)
    | first :: rest =>
      let bytes ← captured (tested (run fuel first))
      if (← Effect.session).signal.isSome then return .over
      let kept ← Effect.session
      let _ ← openRead 0 bytes
      let flow ← runStages fuel rest
      Effect.modify fun session => { session with channels := kept.channels }
      return flow

/-- Runs a loop; the status is that of the last round. -/
def runLoop (fuel : Nat) (whileFails : Bool) (condition body : Command) (status : Nat) :
    Effect Flow :=
  match fuel with
  | 0 => return .over
  | fuel + 1 => do
    andThen (← tested (run fuel condition)) do
      if ((← Effect.session).status = 0) == whileFails then finish status .next
      else
        let flow ← run fuel body
        let status := (← Effect.session).status
        match flow with
        | .next => andThen .next (runLoop fuel whileFails condition body status)
        | .skipped 1 => runLoop fuel whileFails condition body status
        | .skipped (loops + 2) => return .skipped (loops + 1)
        | .broken (loops + 2) => return .broken (loops + 1)
        | .broken _ => return .next
        | .skipped 0 => runLoop fuel whileFails condition body status
        | flow => return flow

/-- Runs a command for every value of a variable. -/
def runEach (fuel : Nat) (name : String) (body : Command) (values : List String) : Effect Flow :=
  match fuel with
  | 0 => return .over
  | fuel + 1 => do
    match values with
    | [] => return .next
    | value :: values =>
      Effect.modify fun session => session.assign name value
      match ← run fuel body with
      | .next => andThen .next (runEach fuel name body values)
      | .skipped (loops + 2) => return .skipped (loops + 1)
      | .skipped _ => runEach fuel name body values
      | .broken (loops + 2) => return .broken (loops + 1)
      | .broken _ => return .next
      | flow => return flow

/-- Runs the first branch that has a pattern of a text. -/
def runBranches (fuel : Nat) (text : List Char) (branches : List (List Word × Command)) :
    Effect Flow :=
  match fuel with
  | 0 => return .over
  | fuel + 1 => do
    match branches with
    | [] => finish 0 .next
    | (patterns, body) :: rest =>
      let patterns ← patterns.mapM (wordSymbols fuel)
      if patterns.any fun pattern => isMatch pattern text then run fuel body
      else runBranches fuel text rest

/-- Calls a function, a command of the shell or a tool. -/
def call (fuel : Nat) (name : String) (arguments : List String) : Effect Flow :=
  match fuel with
  | 0 => return .over
  | fuel + 1 => do
    let session ← Effect.session
    match session.functions.lookup name with
    | some body =>
      Effect.modify fun session => { session with arguments }
      let flow ← run fuel body
      Effect.modify fun after => { after with arguments := session.arguments }
      return if flow == .returned then .next else flow
    | none =>
      let ends (tool : List String → Effect Nat) : Effect Flow := do
        finish (← tool arguments) .next
      match name with
      | ":" => finish 0 .next
      | "exit" => leave arguments .over session.status
      | "return" => leave arguments .returned session.status
      | "break" => finish 0 (.broken (countOr 1 arguments))
      | "continue" => finish 0 (.skipped (countOr 1 arguments))
      | "echo" => ends (Tool.echo true)
      | "read" => ends readInto
      | "kill" => ends kill
      | "export" => ends declare
      | "readonly" => ends declare
      | "local" => ends declare
      | "wait" => finish 0 .next
      | "trap" => finish 0 .next
      | "unset" =>
        Effect.modify fun session =>
          { session with bindings := session.bindings.filter fun entry =>
              !arguments.contains entry.1 }
        finish 0 .next
      | "shift" =>
        let count := countOr 1 arguments
        if session.arguments.length < count then
          Effect.abandon "shift: can\x27t shift that many"
          return .over
        else
          Effect.modify fun session =>
            { session with arguments := session.arguments.drop count }
          finish 0 .next
      | "set" =>
        match arguments with
        | "--" :: rest => Effect.modify fun session => { session with arguments := rest }
        | "-e" :: _ => Effect.modify fun session => { session with isStrict := true }
        | "+e" :: _ => Effect.modify fun session => { session with isStrict := false }
        | _ => pure ()
        finish 0 .next
      | "eval" => runText fuel (" ".intercalate arguments)
      | "exec" =>
        match arguments with
        | [] => finish 0 .next
        | name :: arguments =>
          let flow ← call fuel name arguments
          return if flow == .next then .over else flow
      | "command" =>
        match arguments with
        | [] => finish 0 .next
        | name :: arguments => call fuel name arguments
      | _ =>
        let plain := plainName name
        match plain, Tool.find? plain with
        | "sh", _ => ends (nested fuel name)
        | _, some tool => ends tool
        | _, none =>
          match name.contains '/', session.files.find name with
          | true, .entry _ _ =>
            Effect.complain (name ++ ": Permission denied")
            finish 126 .next
          | _, _ =>
            Effect.complain (name ++ ": not found")
            finish 127 .next

/-- Runs another shell with its own variables. -/
def nested (fuel : Nat) (name : String) (arguments : List String) : Effect Nat :=
  match fuel with
  | 0 => return 1
  | fuel + 1 => do
    let kept ← Effect.session
    Effect.modify fun session =>
      { session with
        identity := session.identity + 1, functions := [], isStrict := false, isTested := false }
    runShell fuel name arguments
    let session ← Effect.session
    Effect.modify fun session => { kept.restore session with signal := none }
    match session.signal with
    | some number =>
      Effect.print 2 (signalNotice number)
      return 128 + number
    | none => return session.status

def runShell (fuel : Nat) (name : String) (arguments : List String) : Effect Unit :=
  match fuel with
  | 0 => return ()
  | fuel + 1 => do
    let failed (text : String) (status : Nat) : Effect Unit := do
      Effect.print 2 (name ++ ": 0: " ++ text ++ "\n")
      Effect.setStatus status
    let begin (name : String) (arguments : List String) (letters : List Char) : Effect Unit :=
      Effect.modify fun session =>
        { session with name, arguments, status := 0, isStrict := letters.contains 'e' }
    let (letters, rest) := shellOptions [] arguments
    match letters.contains 'c', rest with
    | true, script :: rest =>
      begin (rest.headD name) rest.tail letters
      let _ ← runText fuel script
    | true, [] => failed "-c requires an argument" 2
    | false, [] =>
      begin name [] letters
      let script ← Effect.readAll
      let _ ← runText fuel (Encoding.shown script)
    | false, path :: rest =>
      let session ← Effect.session
      match session.files.bytes? path with
      | some script =>
        begin path rest letters
        let _ ← runText fuel (Encoding.shown script)
      | none => failed ("cannot open " ++ path ++ ": No such file") 2

end

end Workflow.Shell
