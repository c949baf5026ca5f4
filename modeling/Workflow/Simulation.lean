import Workflow.Definition.Reader
import Workflow.Engine.Batch
import Workflow.Schedule

/-!
# Simulated hosts

Resources that follow scripts, and decisions that are fixed in advance. A script may depend on the
input and on how often its resource was called, so the state of the host is what was counted.
-/

namespace Workflow.Simulation

/-! ## Places in documents -/

/-- A pointer's part with its escapes replaced. -/
def unescapePart : List Char → List Char
  | '~' :: '1' :: rest => '/' :: unescapePart rest
  | '~' :: '0' :: rest => '~' :: unescapePart rest
  | c :: rest => c :: unescapePart rest
  | [] => []

/-- The parts between the slashes of a text. -/
def splitSlashes : List Char → List (List Char)
  | [] => [[]]
  | '/' :: rest => [] :: splitSlashes rest
  | c :: rest =>
    match splitSlashes rest with
    | [] => [[c]]
    | first :: others => (c :: first) :: others

/-- An index without sign and without zeros in front. -/
def index? (part : List Char) : Option Nat :=
  match part with
  | ['0'] => some 0
  | '0' :: _ => none
  | [] => none
  | digits => if digits.all Decimal.isDigit then some (Decimal.nat digits) else none

/-- The value one part further down. -/
def down? (part : List Char) : Json → Option Json
  | .object members => Json.lookup (String.ofList part) members
  | .array items => (index? part).bind fun place => items[place]?
  | _ => none

/-- The value that a pointer leads to. -/
def pointer? (pointer : String) (document : Json) : Option Json :=
  match pointer.toList with
  | [] => some document
  | '/' :: rest =>
    (splitSlashes rest).foldl (fun found part => found.bind (down? (unescapePart part)))
      (some document)
  | _ => none

/-! ## Scripts -/

/-- How long a script pauses. -/
inductive Pause where
  | fixed (milliseconds : Nat)
  /-- As long as a place of the input says. -/
  | at (pointer : String)
deriving DecidableEq, Inhabited

/-- What a resource does with its input. -/
inductive Script where
  | echo
  | const (value : Json)
  | fail (failure : Failure)
  | double
  | sum
  | pick (pointer : String)
  | crash
  | sleep (pause : Pause) (next : Script)
  | switch (pointer : String) (cases : List (Json × Script)) (otherwise : Script)
  /-- A step for each call; the last one repeats. -/
  | sequence (steps : List Script)
  /-- A step for each call with the same input; the last one repeats. -/
  | sequenceByInput (steps : List Script)

namespace Script

instance : Inhabited Script := ⟨.echo⟩

/-- The text of a member, else another text. -/
def textOr (fields : List (String × Json)) (name initial : String) : String :=
  ((Json.lookup name fields).bind Json.string?).getD initial

/-- Reads a script; what is not known echoes. -/
def read : (fuel : Nat) → Json → Script
  | fuel + 1, .object fields =>
    let inner (name : String) : Script := ((Json.lookup name fields).map (read fuel)).getD .echo
    let steps : List Script :=
      (((Json.lookup "steps" fields).bind Json.items?).getD []).map (read fuel)
    match textOr fields "kind" "echo" with
    | "const" => .const ((Json.lookup "value" fields).getD .null)
    | "fail" =>
      .fail ⟨textOr fields "error" "Boom", (Json.lookup "cause" fields).bind Json.string?⟩
    | "double" => .double
    | "sum" => .sum
    | "pick" => .pick (textOr fields "at" "")
    | "panic" => .crash
    | "sleep" =>
      match (Json.lookup "ms" fields).bind Json.toUnsigned? with
      | some milliseconds => .sleep (.fixed milliseconds) (inner "then")
      | none => .sleep (.at (textOr fields "at" "")) (inner "then")
    | "switch" =>
      let cases := ((Json.lookup "cases" fields).bind Json.items?).getD []
      .switch (textOr fields "at" "")
        (cases.filterMap fun entry =>
          match entry with
          | .array [value, script] => some (value, read fuel script)
          | _ => none)
        (inner "else")
    | "seq" => .sequence steps
    | "seq_by_input" => .sequenceByInput steps
    | _ => .echo
  | _, _ => .echo

/-- Reads a script from a document of its own. -/
def ofJson (document : Json) : Script := read document.depth document

end Script

/-! ## Counting -/

/-- What was counted, and what is still to be answered. -/
structure Counters where
  /-- How often each sequence was called, by resource and perhaps input. -/
  calls : List ((String × Option String) × Nat) := []
  /-- Answers to failures before the retriers decide. -/
  answers : List Bool := []
deriving Inhabited

/-- How often a key was counted, and the counts with one more of it. -/
def Counters.next (counters : Counters) (resource : String) (input : Option String) :
    Nat × Counters :=
  let key := (resource, input)
  let count := (counters.calls.lookup key).getD 0
  (count, { counters with
    calls := (key, count + 1) :: counters.calls.filter fun entry => entry.1 != key })

def stepAt {α : Type} (steps : List α) (count : Nat) : Option α :=
  steps[min count (steps.length - 1)]?

/-- The sum of the signed integers of a list, wrapped around. -/
def sumOf (items : List Json) : Int :=
  items.foldl (fun sum item => Intrinsic.wrapSigned (sum + (item.toSigned?).getD 0)) 0

mutual

/-- What a script does with an input. -/
def Script.run (resource : String) (input : Json) :
    Script → Counters → Activity Counters × Counters
  | .echo, counters => (.finished (.ok input), counters)
  | .const value, counters => (.finished (.ok value), counters)
  | .fail failure, counters => (.finished (.error failure), counters)
  | .double, counters =>
    (.finished (.ok (.int (Intrinsic.wrapSigned (input.toSigned?.getD 0 * 2)))), counters)
  | .sum, counters => (.finished (.ok (.int (sumOf (input.items?.getD [])))), counters)
  | .pick pointer, counters =>
    (.finished (.ok ((pointer? pointer input).getD .null)), counters)
  | .crash, counters => (.crashed, counters)
  | .sleep pause next, counters =>
    let milliseconds := match pause with
      | .fixed milliseconds => milliseconds
      | .at pointer => ((pointer? pointer input).bind Json.toUnsigned?).getD 0
    if milliseconds = 0 then next.run resource input counters
    else (.pause milliseconds fun counters => next.run resource input counters, counters)
  | .switch pointer cases otherwise, counters =>
    let value := (pointer? pointer input).getD .null
    match Script.runCase resource input value cases with
    | some run => run counters
    | none => otherwise.run resource input counters
  | .sequence steps, counters =>
    let (count, counters) := counters.next resource none
    match stepAt (Script.runs resource input steps) count with
    | some run => run counters
    | none => (.finished (.ok input), counters)
  | .sequenceByInput steps, counters =>
    let (count, counters) := counters.next resource (some input.text)
    match stepAt (Script.runs resource input steps) count with
    | some run => run counters
    | none => (.finished (.ok input), counters)

/-- What the first case of a value does. -/
def Script.runCase (resource : String) (input value : Json) :
    List (Json × Script) → Option (Counters → Activity Counters × Counters)
  | [] => none
  | (expected, script) :: rest =>
    if value == expected then some (fun counters => script.run resource input counters)
    else Script.runCase resource input value rest

/-- What each of several scripts does. -/
def Script.runs (resource : String) (input : Json) :
    List Script → List (Counters → Activity Counters × Counters)
  | [] => []
  | script :: rest =>
    (fun counters => script.run resource input counters) :: Script.runs resource input rest

end

/-! ## Hosts -/

/-- Decisions that are fixed in advance. -/
structure Hooks where
  skipsWaits : Bool := false
  /-- The longest heartbeat that is accepted. -/
  maxHeartbeat : Option Nat := none
  acceptsCredentials : Bool := true
  splitsBytes : Bool := false
  /-- The state after which a program crashes. -/
  crashesAfter : Option String := none
deriving Inhabited

/-- Answers a failure: as said in advance, else as the retriers would. -/
def grantsRetry (report : RetryReport) (counters : Counters) : Bool × Counters :=
  match counters.answers with
  | answer :: rest => (answer, { counters with answers := rest })
  | [] => (report.plan.wouldRetry, counters)

def host (resources : List (String × Script)) (hooks : Hooks) : Host Counters where
  handler? := fun resource =>
    (resources.lookup resource).map fun script => fun input => script.run resource input
  grantsRetry := grantsRetry
  skipsWaits := hooks.skipsWaits
  acceptsHeartbeat := fun seconds => hooks.maxHeartbeat.all fun limit => decide (seconds ≤ limit)
  acceptsCredentials := fun _ => hooks.acceptsCredentials
  split? := if hooks.splitsBytes then some fun limit => Engine.splitByBytes limit [] 0 else none
  crashesAfter := fun state => hooks.crashesAfter == some state

end Workflow.Simulation
