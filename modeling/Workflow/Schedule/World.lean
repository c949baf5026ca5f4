import Workflow.Schedule.Host

/-!
# Worlds

The state of a run: its tasks, whose turn it is, the alarms that are set, and what all tasks share.
One task is the root. It has no place in the queue; it is only marked when something wakes it.
Alarms that are due at the same time go off in the order in which they were set.
-/

namespace Workflow.Schedule

/-- What a task is told by those it waits for. -/
inductive Notice where
  | reply (reply : Reply)
  | member (index : Nat) (completion : Completion)

/-- What a program is held up by. -/
inductive Held (α : Type) : Type 1 where
  /-- It has not begun. -/
  | start (program : Program α)
  | sleep (deadline : Nat) (next : Program α)
  | reply (call : Nat) (deadline : Option Nat) (next : Reply → Program α)
  /-- The members of a group are consecutive tasks. -/
  | group {σ : Type} (first count left : Nat) (stopping : Bool) (tally : σ)
      (absorb : σ → Nat → Completion → Progress σ) (next : σ → Program α)

/-- What a task does. -/
inductive Job (σ : Type) : Type 1 where
  /-- Runs a program, as a member of the group of another task. -/
  | program (parent index : Nat) (held : Held Outcome)
  /-- Begins to handle a call. -/
  | call (caller : Option Nat) (resource : String) (input : Json) (handler : Handler σ)
  /-- Goes on with a call after a pause. -/
  | paused (caller : Option Nat) (resource : String) (deadline : Nat)
      (next : σ → Activity σ × σ)
  | over

structure Task (σ : Type) where
  job : Job σ
  queued : Bool := false
  /-- It is to be dropped at its next turn. -/
  cancelled : Bool := false
  inbox : List Notice := []

instance {σ : Type} : Inhabited (Task σ) := ⟨{ job := .over }⟩

/-- The state of a run. -/
structure World (σ : Type) where
  /-- Milliseconds since the start. -/
  now : Nat := 0
  /-- The time of the start. -/
  epoch : Instant
  tasks : Array (Task σ) := #[]
  /-- Tasks in the order of their turns, and those behind them in reverse. -/
  front : List Nat := []
  back : List Nat := []
  /-- The task at the root. -/
  root : Nat := 0
  rootWoken : Bool := false
  /-- Deadlines and tasks, in the order in which they go off. -/
  alarms : List (Nat × Nat) := []
  /-- The state of the host. -/
  state : σ
  source : Random.Source
  config : Config
  /-- How many states were entered. -/
  entered : Nat := 0
  /-- What happened when, the latest first. -/
  events : List (Nat × Event) := []

namespace World

variable {σ : Type}

def instant (world : World σ) : Instant := world.epoch.addNanos (world.now * 1000000)

def record (world : World σ) (event : Event) : World σ :=
  { world with events := (world.now, event) :: world.events }

def task (world : World σ) (id : Nat) : Task σ := world.tasks.getD id default

def update (world : World σ) (id : Nat) (change : Task σ → Task σ) : World σ :=
  { world with tasks := world.tasks.modify id change }

/-- Puts a task behind all others in the queue. -/
def enqueue (world : World σ) (id : Nat) : World σ :=
  { world.update id (fun task => { task with queued := true }) with back := id :: world.back }

/-- Wakes a task that is not over. -/
def wake (world : World σ) (id : Nat) : World σ :=
  if id = world.root then { world with rootWoken := true }
  else
    match (world.task id).job, (world.task id).queued with
    | .over, _ => world
    | _, true => world
    | _, false => world.enqueue id

/-- Takes the next task out of the queue. -/
def dequeue (world : World σ) : Option (Nat × World σ) :=
  let taken (id : Nat) (front back : List Nat) : Option (Nat × World σ) :=
    some (id, { world.update id (fun task => { task with queued := false }) with front, back })
  match world.front, world.back.reverse with
  | id :: front, _ => taken id front world.back
  | [], id :: front => taken id front []
  | [], [] => none

/-- Adds a task to the end of the queue. -/
def spawn (world : World σ) (job : Job σ) : World σ :=
  let id := world.tasks.size
  { world with tasks := world.tasks.push { job, queued := true }, back := id :: world.back }

/-- Tells a task something and wakes it. -/
def notify (world : World σ) (id : Nat) (notice : Notice) : World σ :=
  (world.update id fun task => { task with inbox := task.inbox ++ [notice] }).wake id

/-- Puts an alarm behind those that are due no later. -/
def insertAlarm (deadline id : Nat) : List (Nat × Nat) → List (Nat × Nat)
  | [] => [(deadline, id)]
  | (other, otherId) :: rest =>
    if deadline < other then (deadline, id) :: (other, otherId) :: rest
    else (other, otherId) :: insertAlarm deadline id rest

/-- Sets an alarm for a task. -/
def setAlarm (world : World σ) (deadline id : Nat) : World σ :=
  { world with alarms := insertAlarm deadline id world.alarms }

/-- Drops an alarm of a task. -/
def dropAlarm (world : World σ) (deadline id : Nat) : World σ :=
  { world with alarms := world.alarms.erase (deadline, id) }

/-- The milliseconds of a span. What lies beyond the range of clocks is thirty years. -/
def spanMilliseconds (span : Span) : Nat :=
  if Number.maxSigned.toNat ≤ span.seconds then 946080000000 else span.milliseconds

/-- The milliseconds of a number of seconds. -/
def secondsMilliseconds (seconds : Nat) : Nat := spanMilliseconds ⟨seconds, 0⟩

/-- Marks a task to be dropped at its next turn. -/
def cancel (world : World σ) (id : Nat) : World σ :=
  match (world.task id).job with
  | .over => world
  | _ => (world.update id fun task => { task with cancelled := true }).wake id

/-- Marks consecutive tasks to be dropped. -/
def cancelRange (world : World σ) (first : Nat) : (count : Nat) → World σ
  | 0 => world
  | count + 1 => (world.cancel first).cancelRange (first + 1) count

/-- Lets go of what a program waits for: alarms are dropped, calls and members cancelled. -/
def release {α : Type} (world : World σ) (id : Nat) : Held α → World σ
  | .start _ => world
  | .sleep deadline _ => world.dropAlarm deadline id
  | .reply call deadline _ =>
    let world := match deadline with
      | some deadline => world.dropAlarm deadline id
      | none => world
    world.cancel call
  | .group first count _ _ _ _ _ => world.cancelRange first count

/-- Ends a task. -/
def close (world : World σ) (id : Nat) : World σ :=
  world.update id fun task => { task with job := .over, inbox := [] }

/-- Drops a task before its end. -/
def drop (world : World σ) (id : Nat) : World σ :=
  match (world.task id).job with
  | .program parent index held =>
    ((world.release id held).close id).notify parent (.member index .crashed)
  | .call _ _ _ _ => world.close id
  | .paused _ _ deadline _ => (world.dropAlarm deadline id).close id
  | .over => world

/-- Lets time pass to the first alarm, and lets all alarms go off that are due. Nothing is left to
wait for when no alarm is set. -/
def ring (world : World σ) : Option (World σ) :=
  match world.alarms with
  | [] => none
  | (deadline, _) :: _ =>
    let now := max world.now deadline
    let due := world.alarms.takeWhile fun (deadline, _) => deadline ≤ now
    let later := world.alarms.dropWhile fun (deadline, _) => deadline ≤ now
    some (due.foldl (fun world (_, id) => world.wake id) { world with now, alarms := later })

end World

end Workflow.Schedule
