import Workflow.Files
import Workflow.Shell.Script

/-!
# Shell sessions

What a running script works on: its variables and arguments, what its descriptors lead to, and the
files. What is read and written is kept by number, so that commands may share it. What a command
does changes the session and may pause; others may change the files meanwhile.
-/

namespace Workflow.Shell

/-- What a descriptor leads to. -/
inductive Channel where
  /-- Something to read, by number. -/
  | source (number : Nat)
  /-- Something to write, by number. -/
  | sink (number : Nat)
  /-- A file to be written. -/
  | file (place : Place)
  | void
  | closed
deriving DecidableEq, Inhabited

/-- What a running script works on. -/
structure Session where
  files : Files
  /-- The number of the running program. -/
  identity : Nat := 1000
  /-- The name of the script. -/
  name : String := "sh"
  arguments : List String := []
  bindings : List (String × String) := []
  functions : List (String × Command) := []
  /-- The status of the last command. -/
  status : Nat := 0
  /-- The signal that ended the script. -/
  signal : Option Nat := none
  /-- An error ended the script, or the part of it that runs apart. -/
  isBroken : Bool := false
  /-- Whether a command that fails ends the script, unless its status is tested. -/
  isStrict : Bool := false
  isTested : Bool := false
  channels : List (Nat × Channel) := []
  /-- What is left to read. -/
  sources : List (Nat × List UInt8) := []
  /-- What was written. -/
  sinks : List (Nat × List UInt8) := []
  /-- The next number of what is read or written. -/
  fresh : Nat := 0
deriving Inhabited

/-- How a computation goes on. -/
inductive Step (α : Type) where
  | done (value : α) (session : Session)
  /-- Goes on with the files as they are after a number of milliseconds. -/
  | pause (milliseconds : Nat) (files : Files) (next : Files → Step α)

instance {α : Type} [Inhabited α] : Inhabited (Step α) := ⟨.done default default⟩

/-- Goes on from the end of a computation. -/
def Step.bind {α β : Type} : Step α → (α → Session → Step β) → Step β
  | .done value session, f => f value session
  | .pause milliseconds files next, f => .pause milliseconds files fun files => (next files).bind f

/-- What a command does. -/
def Effect (α : Type) : Type := Session → Step α

instance : Monad Effect where
  pure value := fun session => .done value session
  bind action f := fun session => (action session).bind fun value session => f value session

instance {α : Type} [Inhabited α] : Inhabited (Effect α) := ⟨pure default⟩

namespace Effect

def session : Effect Session := fun session => .done session session

def modify (change : Session → Session) : Effect Unit := fun session => .done () (change session)

/-- Lets time pass. -/
def pause (milliseconds : Nat) : Effect Unit := fun session =>
  .pause milliseconds session.files fun files => .done () { session with files }

end Effect

/-! ## Reading and writing -/

namespace Session

/-- What a descriptor leads to. -/
def channel (session : Session) (descriptor : Nat) : Channel :=
  (session.channels.lookup descriptor).getD .closed

/-- Leads a descriptor somewhere. -/
def lead (session : Session) (descriptor : Nat) (channel : Channel) : Session :=
  { session with
    channels := (descriptor, channel) :: session.channels.filter fun entry =>
      entry.1 != descriptor }

/-- Makes something to read, and gives its number. -/
def addSource (session : Session) (bytes : List UInt8) : Nat × Session :=
  (session.fresh, { session with
    sources := (session.fresh, bytes) :: session.sources, fresh := session.fresh + 1 })

/-- Makes something to write, and gives its number. -/
def addSink (session : Session) : Nat × Session :=
  (session.fresh, { session with
    sinks := (session.fresh, []) :: session.sinks, fresh := session.fresh + 1 })

/-- What was written to a number. -/
def written (session : Session) (number : Nat) : List UInt8 :=
  (session.sinks.lookup number).getD []

/-- What is left to read at a descriptor. -/
def readable (session : Session) (descriptor : Nat) : List UInt8 :=
  match session.channel descriptor with
  | .source number => (session.sources.lookup number).getD []
  | _ => []

/-- Leaves something to read at a descriptor. -/
def leave (session : Session) (descriptor : Nat) (bytes : List UInt8) : Session :=
  match session.channel descriptor with
  | .source number =>
    { session with sources := session.sources.map fun entry =>
        if entry.1 = number then (number, bytes) else entry }
  | _ => session

def write (session : Session) (descriptor : Nat) (bytes : List UInt8) : Session :=
  match session.channel descriptor with
  | .sink number =>
    { session with sinks := session.sinks.map fun entry =>
        if entry.1 = number then (number, entry.2 ++ bytes) else entry }
  | .file place => { session with files := session.files.append place bytes }
  | _ => session

/-- Forgets what a part of a script changed, apart from files, what was read and written, and the
status. -/
def restore (kept session : Session) : Session :=
  { kept with
    files := session.files, sources := session.sources, sinks := session.sinks
    fresh := session.fresh, status := session.status, signal := session.signal }

/-- The value of a variable. -/
def valueOf? (session : Session) (name : String) : Option String := session.bindings.lookup name

/-- Sets a variable. -/
def assign (session : Session) (name value : String) : Session :=
  { session with
    bindings := (name, value) :: session.bindings.filter fun entry => entry.1 != name }

end Session

namespace Effect

def write (descriptor : Nat) (bytes : List UInt8) : Effect Unit :=
  modify fun session => session.write descriptor bytes

/-- Writes a text to a descriptor. -/
def print (descriptor : Nat) (text : String) : Effect Unit :=
  write descriptor (Encoding.utf8 text)

/-- Takes all that is left to read. -/
def readAll : Effect (List UInt8) := fun session =>
  .done (session.readable 0) (session.leave 0 [])

/-- Takes a number of bytes from what is left to read. -/
def readBytes (count : Nat) : Effect (List UInt8) := fun session =>
  let bytes := session.readable 0
  .done (bytes.take count) (session.leave 0 (bytes.drop count))

/-- Takes a line without its line break, and whether there was a line break. -/
def readLine : Effect (List UInt8 × Bool) := fun session =>
  let bytes := session.readable 0
  let line := bytes.takeWhile fun byte => byte != 10
  let rest := bytes.drop line.length
  .done (line, !rest.isEmpty) (session.leave 0 rest.tail)

/-- Prints a complaint of the script. -/
def complain (text : String) : Effect Unit := fun session =>
  print 2 (session.name ++ ": 1: " ++ text ++ "\n") session

/-- Prints a complaint and ends the script, or the part of it that runs apart. -/
def abandon (text : String) : Effect Unit := do
  complain text
  modify fun session => { session with status := 2, isBroken := true }

/-- Sets the status of the last command. -/
def setStatus (status : Nat) : Effect Unit := modify fun session => { session with status }

end Effect

end Workflow.Shell
