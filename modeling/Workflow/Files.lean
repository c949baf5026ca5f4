import Workflow.Encoding

/-!
# Files

Files as a value: their bytes and the names of directories, by place. A path is read one part after
the other, from the working directory or from the root; every part but the last must lead to a
directory. The working directory, those that it lies in and the root are always there, and so are
two devices, one that is empty and one that gives zeros.
-/

namespace Workflow

/-- Where something lies: parts that count from the working directory, which they may leave upwards
first, or from the root, which then is the first part. -/
abbrev Place := List String

/-- What lies at a place. -/
inductive Entry where
  | directory
  | file (bytes : List UInt8)
deriving DecidableEq, Inhabited

/-- Files and directories by place. -/
structure Files where
  entries : List (Place × Entry) := []
deriving Inhabited

/-- What a path leads to. -/
inductive Found where
  | nothing
  /-- A part that is not the last one is no directory. -/
  | blocked
  /-- The device that takes everything and gives nothing. -/
  | void
  | entry (place : Place) (entry : Entry)
  /-- There is nothing yet, but its directory exists. -/
  | vacant (place : Place)
deriving Inhabited

namespace Files

/-- The parts of a path, which stand between slashes. -/
def parts (path : String) : List String := (cut path.toList).map String.ofList
where
  /-- Cuts characters at every slash. -/
  cut : List Char → List (List Char)
    | [] => [[]]
    | c :: rest =>
      if c = '/' then [] :: cut rest
      else
        match cut rest with
        | [] => [[c]]
        | part :: others => (c :: part) :: others

/-- Whether a place is the working directory or one that it lies in. -/
def isUpward (place : Place) : Bool := place.all fun part => part == ".."

/-- The root of absolute paths. -/
def root : Place := ["/"]

/-- What lies at a place. -/
def at? (files : Files) (place : Place) : Option Entry :=
  if isUpward place || place == root then some .directory else files.entries.lookup place

/-- Takes a step from a directory. -/
def step (place : Place) (part : String) : Place :=
  if part = "" ∨ part = "." then place
  else if part ≠ ".." then place ++ [part]
  else if isUpward place then place ++ [part]
  else if place = root then place
  else place.dropLast

/-- Where a path begins. -/
def origin (path : String) : Place := if path.toList.head? = some '/' then root else []

/-- Follows parts from a place. -/
def follow (files : Files) (place : Place) : List String → Found
  | [] =>
    match files.at? place with
    | some entry => .entry place entry
    | none => .nothing
  | part :: rest =>
    match files.at? place with
    | some (.file _) => .blocked
    | some .directory =>
      let next := step place part
      if rest.isEmpty && (files.at? next).isNone then .vacant next else files.follow next rest
    | none => .nothing

/-- How many zeros are taken from the device that gives them. -/
def zeroCount : Nat := 1048576

/-- What a path leads to. -/
def find (files : Files) (path : String) : Found :=
  if path = "/dev/null" then .void
  else if path = "/dev/zero" then .entry [] (.file (List.replicate zeroCount 0))
  else if path = "" then .nothing
  else files.follow (origin path) (parts path)

/-- The bytes that are read at a path. -/
def bytes? (files : Files) (path : String) : Option (List UInt8) :=
  match files.find path with
  | .void => some []
  | .entry _ (.file bytes) => some bytes
  | _ => none

/-- The text that is read at a path. -/
def text? (files : Files) (path : String) : Option String :=
  (files.bytes? path).bind Encoding.ofUtf8?

/-- Sets what lies at a place. -/
def set (files : Files) (place : Place) (entry : Entry) : Files :=
  { entries := (place, entry) :: files.entries.filter fun (other, _) => other != place }

/-- Adds a directory and those that it lies in. -/
def makeDirectory (files : Files) (place : Place) : Files :=
  (List.range place.length).foldl (fun files count => files.set (place.take (count + 1)) .directory)
    files

/-- Adds a file, with the directories that it lies in. -/
def add (files : Files) (path : String) (text : String) : Files :=
  let place := (parts path).foldl step (origin path)
  (files.makeDirectory place.dropLast).set place (.file (Encoding.utf8 text))

/-- Empties a file or makes a new one, unless it is kept as it is. -/
def openAt (files : Files) (place : Place) (keeps : Bool) : Files :=
  match files.at? place with
  | some (.file _) => if keeps then files else files.set place (.file [])
  | _ => files.set place (.file [])

/-- Writes to the end of a file. -/
def append (files : Files) (place : Place) (bytes : List UInt8) : Files :=
  match files.at? place with
  | some (.file old) => files.set place (.file (old ++ bytes))
  | _ => files.set place (.file bytes)

end Files

end Workflow
