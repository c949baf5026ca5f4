import Workflow.Shell.Script
import Workflow.Shell.Session

/-!
# Redirections

Where a redirection leads a descriptor. A target that cannot be opened is complained of.
-/

namespace Workflow.Shell

/-- Leads a descriptor to a file that is written. -/
def openWrite (descriptor : Nat) (keeps : Bool) (path : String) : Effect Bool := do
  let session ← Effect.session
  let lead (channel : Channel) : Effect Bool := do
    Effect.modify fun session => session.lead descriptor channel
    return true
  let openFile (place : Place) : Effect Bool := do
    Effect.modify fun session => { session with files := session.files.openAt place keeps }
    lead (.file place)
  let refuse (reason : String) : Effect Bool := do
    Effect.complain ("cannot create " ++ path ++ ": " ++ reason)
    return false
  match path, session.files.find path with
  | "/dev/stdout", _ => lead (session.channel 1)
  | "/dev/stderr", _ => lead (session.channel 2)
  | _, .void => lead .void
  | _, .vacant place => openFile place
  | _, .entry place (.file _) => if place.isEmpty then lead .void else openFile place
  | _, .entry _ .directory => refuse "Is a directory"
  | _, .blocked => refuse "Not a directory"
  | _, .nothing => refuse "Directory nonexistent"

/-- Leads a descriptor to bytes that are read. -/
def openRead (descriptor : Nat) (bytes : List UInt8) : Effect Bool := do
  Effect.modify fun session =>
    let (number, session) := session.addSource bytes
    session.lead descriptor (.source number)
  return true

/-- Redirects a descriptor; the text is that of the target. -/
def redirect (descriptor : Nat) (kind : Redirect) (target : String) : Effect Bool := do
  let session ← Effect.session
  match kind with
  | .supply => openRead descriptor (Encoding.utf8 target)
  | .write => openWrite descriptor false target
  | .append => openWrite descriptor true target
  | .duplicate =>
    let channel := match target.toNat? with
      | some other => session.channel other
      | none => .closed
    Effect.modify fun session => session.lead descriptor channel
    return true
  | .read =>
    if target == "/dev/stdin" then return true
    match session.files.bytes? target with
    | some bytes => openRead descriptor bytes
    | none =>
      Effect.complain ("cannot open " ++ target ++ ": No such file")
      return false

end Workflow.Shell
