import Workflow.Decimal.Literal

/-!
# Signals

The signals that scripts send, by number and by name.
-/

namespace Workflow.Shell

/-- The signals by number. -/
def signals : List (Nat × String) :=
  [(1, "HUP"), (2, "INT"), (3, "QUIT"), (4, "ILL"), (5, "TRAP"), (6, "ABRT"), (7, "BUS"),
   (8, "FPE"), (9, "KILL"), (10, "USR1"), (11, "SEGV"), (12, "USR2"), (13, "PIPE"), (14, "ALRM"),
   (15, "TERM")]

/-- The number of a signal that is given by number or by name. -/
def signal? (text : String) : Option Nat :=
  match Decimal.signedDigits? text.toList with
  | some value => if 0 ≤ value ∧ value ≤ 64 then some value.toNat else none
  | none =>
    (signals.find? fun entry => entry.2 == text).map Prod.fst

/-- What is said of a shell that a signal ended. -/
def signalNotice : Nat → String
  | 1 => "Hangup\n"
  | 2 => ""
  | 3 => "Quit\n"
  | 9 => "Killed\n"
  | 13 => ""
  | 15 => "Terminated\n"
  | _ => ""

/-- The signal and the receivers that arguments ask for. -/
def signalled? : List String → Option (Nat × List String)
  | "-s" :: name :: rest => (signal? name).map fun number => (number, rest)
  | "--" :: rest => some (15, rest)
  | argument :: rest =>
    match argument.toList with
    | '-' :: name => (signal? (String.ofList name)).map fun number => (number, rest)
    | _ => some (15, argument :: rest)
  | [] => none

end Workflow.Shell
