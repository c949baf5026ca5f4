import Workflow.Schedule.Turn

/-!
# Schedules

Tasks take turns in the order in which they were woken. The root has its turn when it was woken and
the queue is empty, or after so many turns of others. When nobody is awake, time passes to the next
alarm; computing takes no time. So a run is a function of the program, the host and the source of
random numbers.
-/

namespace Workflow.Schedule

variable {σ : Type}

/-- How many turns others may take before the root is looked at again. -/
def turnsPerRound : Nat := 61

/-- Gives tasks their turns, up to a number of them. The flag says whether the queue ran empty. -/
def turns (host : Host σ) : (count : Nat) → World σ → World σ × Bool
  | 0, world => (world, false)
  | count + 1, world =>
    match world.dequeue with
    | none => (world, true)
    | some (id, world) => turns host count (turn host id world)

/-- The fault of a run that misses its time limit. -/
def timeoutFault (seconds : Nat) : Fault :=
  .reserved .timeout ("execution did not finish within " ++ Decimal.natText seconds ++ " seconds")

/-- A time limit of a run, with its deadline when that is set. -/
structure Limit where
  seconds : Nat
  deadline : Nat

/-- Sees whether a run that is held up has missed its time limit. -/
def Limit.isMissed (limit : Limit) (world : World σ) : Bool := limit.deadline ≤ world.now

/-- Runs rounds until the root ends or misses its time limit. There is no result when the root
crashes, when the fuel ends or when nothing can happen any more. -/
def rounds (host : Host σ) (limit : Option Limit) :
    (fuel : Nat) → Held Outcome → World σ → Option (Outcome × World σ)
  | 0, _, _ => none
  | fuel + 1, held, world =>
    let root := world.root
    let polled : Turn σ Outcome :=
      if world.rootWoken then resume host root held { world with rootWoken := false }
      else .held held world
    match polled with
    | .done (.error .crashed) _ => none
    | .done outcome world =>
      match limit with
      | some limit => some (outcome, world.dropAlarm limit.deadline root)
      | none => some (outcome, world)
    | .crashed _ => none
    | .held held world =>
      match limit.filter fun limit => limit.isMissed world with
      | some limit =>
        let world := (world.release root held).dropAlarm limit.deadline root
        some (.error (timeoutFault limit.seconds), world)
      | none =>
        let (world, drained) := turns host turnsPerRound world
        if drained && !world.rootWoken then
          match world.ring with
          | some world => rounds host limit fuel held world
          | none => none
        else rounds host limit fuel held world

/-- Runs a program at the root, with a time limit in seconds. The program has its first turn before
the limit is set. -/
def run (host : Host σ) (fuel : Nat) (timeout : Option Nat) (program : Program Outcome)
    (world : World σ) : Option (Outcome × World σ) :=
  let root := world.tasks.size
  let world := { world with tasks := world.tasks.push { job := .over }, root, rootWoken := false }
  match timeout with
  | none => rounds host none fuel (.start program) { world with rootWoken := true }
  | some seconds =>
    match runProgram host root program world with
    | .done (.error .crashed) _ => none
    | .done outcome world => some (outcome, world)
    | .crashed _ => none
    | .held held world =>
      let deadline := world.now + World.secondsMilliseconds seconds + host.lateness
      rounds host (some { seconds, deadline }) fuel held (world.setAlarm deadline root)

/-- Lets time pass. -/
def idle (host : Host σ) (fuel milliseconds : Nat) (world : World σ) : Option (World σ) :=
  let sleep : Program Outcome :=
    .ask (.sleep (.ofNanos (milliseconds * 1000000))) fun () => .done (.ok .null)
  (run host fuel none sleep world).map Prod.snd

/-- What is known after runs. -/
structure Record where
  outcomes : List Outcome
  /-- Milliseconds from the start to the end of the last run. -/
  elapsed : Nat
  /-- What happened when, in order. -/
  events : List (Nat × Event)

/-- Runs a program a number of times, one run after the other. -/
def runTimes (host : Host σ) (fuel : Nat) (timeout : Option Nat) (program : Program Outcome) :
    (count : Nat) → World σ → Option (List Outcome × World σ)
  | 0, world => some ([], world)
  | count + 1, world =>
    match run host fuel timeout program world with
    | none => none
    | some (outcome, world) =>
      match runTimes host fuel timeout program count { world with entered := 0 } with
      | none => none
      | some (outcomes, world) => some (outcome :: outcomes, world)

/-- Runs a program a number of times and lets some time pass after that. -/
def observe (host : Host σ) (fuel : Nat) (timeout : Option Nat) (program : Program Outcome)
    (count after : Nat) (world : World σ) : Option Record :=
  match runTimes host fuel timeout program count world with
  | none => none
  | some (outcomes, ended) =>
    (idle host fuel after ended).map fun world =>
      { outcomes, elapsed := ended.now, events := world.events.reverse }

end Workflow.Schedule
