/-!
# Shell scripts

The commands that a shell script is made of. A word is a list of parts, some of which are only known
when the script runs; a quoted part is neither split at blanks nor read as a pattern.
-/

namespace Workflow.Shell

/-- What is done to the value of a parameter. -/
inductive Modifier where
  /-- Another word stands for a missing parameter. -/
  | orElse
  /-- Another word is assigned to a missing parameter. -/
  | assign
  /-- Another word stands for a parameter that is there. -/
  | instead
  /-- A missing parameter ends the script. -/
  | require
  /-- A beginning is dropped. -/
  | dropStart (longest : Bool)
  /-- An ending is dropped. -/
  | dropEnd (longest : Bool)
deriving DecidableEq, Inhabited

/-- What a part of a word stands for. -/
inductive Piece where
  | text (value : String)
  | parameter (name : String)
  /-- A parameter and what is done to it; an empty one may count as missing. -/
  | modified (name : String) (countsEmpty : Bool) (modifier : Modifier) (word : String)
  | length (name : String)
  /-- What a script prints. -/
  | output (script : String)
  | arithmetic (expression : String)
deriving DecidableEq, Inhabited

structure Part where
  isQuoted : Bool
  piece : Piece
deriving DecidableEq, Inhabited

abbrev Word := List Part

/-- What happens to a descriptor. -/
inductive Redirect where
  | read
  | write
  | append
  /-- It becomes another descriptor, or is closed. -/
  | duplicate
  /-- It reads a text that stands in the script. -/
  | supply
deriving DecidableEq, Inhabited

/-- A descriptor, what happens to it, and the file, the other descriptor or the text. -/
structure Redirection where
  descriptor : Nat
  redirect : Redirect
  target : Word
deriving DecidableEq, Inhabited

inductive Command where
  | empty
  | simple (assignments : List (String × Word)) (words : List Word)
  | redirected (body : Command) (redirections : List Redirection)
  /-- Every stage reads what the one before it writes. -/
  | pipeline (stages : List Command)
  | negated (body : Command)
  /-- The second runs when the first succeeds. -/
  | both (first second : Command)
  /-- The second runs when the first fails. -/
  | either (first second : Command)
  | sequence (first second : Command)
  /-- What it changes, files apart, is forgotten. -/
  | subshell (body : Command)
  /-- It runs apart, with nothing to read. -/
  | background (body : Command)
  | conditional (condition body otherwise : Command)
  /-- Runs as long as the condition succeeds, or as long as it fails. -/
  | loop (whileFails : Bool) (condition body : Command)
  /-- Runs for every word, or for every argument of the script. -/
  | each (name : String) (words : Option (List Word)) (body : Command)
  /-- Runs the first branch that has a pattern of the word. -/
  | branches (word : Word) (branches : List (List Word × Command))
  | function (name : String) (body : Command)
deriving Inhabited

end Workflow.Shell
