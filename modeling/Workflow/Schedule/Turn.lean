import Workflow.Schedule.World

/-!
# Turns

A task that has its turn runs until it is held up or ends. Sleeping for no time does not hold a
program up. Calls and members of groups are tasks of their own that begin when their turn comes.
-/

namespace Workflow.Schedule

variable {σ : Type}

/-- How a turn of a program ends. -/
inductive Turn (σ α : Type) : Type 1 where
  | done (value : α) (world : World σ)
  | crashed (world : World σ)
  | held (held : Held α) (world : World σ)

/-- Adds the members of a group to the queue. -/
def spawnMembers (parent : Nat) (member : Nat → Program Outcome) (index : Nat) :
    (count : Nat) → World σ → World σ
  | 0, world => world
  | count + 1, world =>
    spawnMembers parent member (index + 1) count
      (world.spawn (.program parent index (.start (member index))))

/-- Runs a program until it is held up or ends. -/
def runProgram (host : Host σ) (id : Nat) {α : Type} : Program α → World σ → Turn σ α
  | .done value, world => .done value world
  | .draw drawn next, world =>
    let (value, source) := drawn world.source
    runProgram host id (next value) { world with source }
  | .ask .enter next, world =>
    runProgram host id (next (world.entered < world.config.maxTransitions))
      { world with entered := world.entered + 1 }
  | .ask .now next, world => runProgram host id (next world.instant) world
  | .ask (.sleep span) next, world =>
    let pause := World.spanMilliseconds span
    if pause = 0 then runProgram host id (next ()) world
    else
      let deadline := world.now + pause
      .held (.sleep deadline (next ())) (world.setAlarm deadline id)
  | .ask (.wait report) next, world =>
    let world := world.record (.wait report)
    let pause := World.spanMilliseconds (.ofNanos (report.now.nanosUntil report.stop))
    if host.skipsWaits || pause = 0 then runProgram host id (next ()) world
    else
      let deadline := world.now + pause
      .held (.sleep deadline (next ())) (world.setAlarm deadline id)
  | .ask (.call resource input timeout) next, world =>
    match host.handler? resource with
    | none => runProgram host id (next .unknown) world
    | some handler =>
      let call := world.tasks.size
      match timeout with
      | none =>
        .held (.reply call none next) (world.spawn (.call (some id) resource input handler))
      | some seconds =>
        let deadline := world.now + World.secondsMilliseconds seconds + host.lateness
        if deadline = world.now then
          runProgram host id (next .late) (world.spawn (.call none resource input handler))
        else
          .held (.reply call (some deadline) next)
            ((world.spawn (.call (some id) resource input handler)).setAlarm deadline id)
  | .ask (.completed report) next, world =>
    let world := world.record (.completed report)
    if host.crashesAfter report.state then .crashed world else runProgram host id (next ()) world
  | .ask (.retry report) next, world =>
    let (granted, state) := host.grantsRetry report world.state
    runProgram host id (next granted) ({ world with state }.record (.retry report))
  | .ask (.heartbeat state seconds) next, world =>
    runProgram host id (next (host.acceptsHeartbeat seconds))
      (world.record (.heartbeat state seconds))
  | .ask (.credentials state value) next, world =>
    runProgram host id (next (host.acceptsCredentials value))
      (world.record (.credentials state value))
  | .ask (.split state items limit) next, world =>
    match host.split? with
    | some split =>
      runProgram host id (next (some (split limit items)))
        (world.record (.split state items.length limit))
    | none => runProgram host id (next none) (world.record (.split state items.length limit))
  | .gather count member start absorb next, world =>
    if count = 0 then runProgram host id (next start) world
    else
      .held (.group world.tasks.size count count false start absorb next)
        (spawnMembers id member 0 count world)

/-- What a tally makes of the notices of members, until it stops the group or the notices end: the
tally, whether it stops, and how many notices were taken. -/
def absorbNotices {τ : Type} (absorb : τ → Nat → Completion → Progress τ) (tally : τ) :
    List Notice → τ × Bool
  | [] => (tally, false)
  | .member index completion :: rest =>
    match absorb tally index completion with
    | .more tally => absorbNotices absorb tally rest
    | .stop tally => (tally, true)
  | .reply _ :: rest => absorbNotices absorb tally rest

/-- The reply among notices. -/
def findReply : List Notice → Option Reply
  | [] => none
  | .reply reply :: _ => some reply
  | .member _ _ :: rest => findReply rest

/-- Goes on with a program that was held up, if it can. -/
def resume (host : Host σ) (id : Nat) {α : Type} (held : Held α) (world : World σ) : Turn σ α :=
  let inbox := (world.task id).inbox
  let emptied := world.update id fun task => { task with inbox := [] }
  match held with
  | .start program => runProgram host id program world
  | .sleep deadline next =>
    if deadline ≤ world.now then runProgram host id next world
    else .held (.sleep deadline next) world
  | .reply call deadline next =>
    match findReply inbox, deadline with
    | some reply, none => runProgram host id (next reply) emptied
    | some reply, some deadline =>
      runProgram host id (next reply) (emptied.dropAlarm deadline id)
    | none, none => .held (.reply call none next) world
    | none, some deadline =>
      if deadline ≤ world.now then
        runProgram host id (next .late) (detach call world)
      else .held (.reply call (some deadline) next) world
  | .group first count left stopping tally absorb next =>
    let remaining := left - inbox.length
    let (tally, stops) := if stopping then (tally, false) else absorbNotices absorb tally inbox
    if remaining = 0 then runProgram host id (next tally) emptied
    else
      let world := if stops then emptied.cancelRange first count else emptied
      .held (.group first count remaining (stopping || stops) tally absorb next) world
where
  /-- Lets a call go on by itself. -/
  detach (call : Nat) (world : World σ) : World σ :=
    world.update call fun task =>
      match task.job with
      | .call _ resource input handler => { task with job := .call none resource input handler }
      | .paused _ resource deadline next => { task with job := .paused none resource deadline next }
      | _ => task

/-! ## Calls -/

/-- Ends a call and tells the caller, if there still is one. -/
def endCall (id : Nat) (caller : Option Nat) (reply : Reply) (world : World σ) : World σ :=
  match caller with
  | some caller => (world.close id).notify caller (.reply reply)
  | none => world.close id

def runActivity (id : Nat) (caller : Option Nat) (resource : String) :
    Activity σ × σ → World σ → World σ
  | (.finished (.ok value), state), world =>
    endCall id caller (.output value) ({ world with state }.record (.returned resource true))
  | (.finished (.error failure), state), world =>
    endCall id caller (.failed failure) ({ world with state }.record (.returned resource false))
  | (.crashed, state), world => endCall id caller .crashed { world with state }
  | (.pause milliseconds next, state), world =>
    let deadline := world.now + milliseconds
    ({ world with state }.update id fun task =>
      { task with job := .paused caller resource deadline next }).setAlarm deadline id

/-! ## Tasks -/

/-- Gives a task its turn. -/
def turn (host : Host σ) (id : Nat) (world : World σ) : World σ :=
  if (world.task id).cancelled then world.drop id
  else
    match (world.task id).job with
    | .over => world
    | .program parent index held =>
      match resume host id held world with
      | .done outcome world =>
        (world.close id).notify parent (.member index (.ofOutcome outcome))
      | .crashed world => (world.close id).notify parent (.member index .crashed)
      | .held held world =>
        world.update id fun task => { task with job := .program parent index held }
    | .call caller resource input handler =>
      runActivity id caller resource (handler input world.state)
        (world.record (.called resource input))
    | .paused caller resource deadline next =>
      if deadline ≤ world.now then runActivity id caller resource (next world.state) world
      else world

end Workflow.Schedule
