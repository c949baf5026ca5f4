/-!
# Wildcard patterns

In a pattern `*` stands for any run of characters, and a backslash takes the next character as it
is. A pattern is matched token by token. A run takes nothing at first; when the tokens behind it
fail, it takes one more character, and only the last run that was met is gone back to.
-/

namespace Workflow.Wildcard

/-- A part of a pattern. -/
inductive Token where
  /-- Any run of characters. -/
  | run
  | char (c : Char)
deriving DecidableEq, Inhabited

/-- The parts of a pattern; a backslash at the very end stands for itself. -/
def tokens : List Char → List Token
  | [] => []
  | ['\\'] => [.char '\\']
  | '\\' :: c :: rest => .char c :: tokens rest
  | '*' :: rest => .run :: tokens rest
  | c :: rest => .char c :: tokens rest

/-- The last run that was met: the tokens behind it, and the text behind what it takes so far. -/
structure Retry where
  tokens : List Token
  text : List Char

/-- How much text is left to match, seen from the run that would be gone back to, or in front of the
first run. -/
def textLeft (text : List Char) : Option Retry → Nat
  | none => text.length + 1
  | some back => max back.text.length text.length

theorem textLeft_retry (rest : List Token) (text : List Char) (back : Option Retry) :
    textLeft text (some ⟨rest, text⟩) ≤ textLeft text back := by
  cases back with
  | none => simp [textLeft]
  | some back =>
    simp only [textLeft]
    omega

theorem textLeft_tail (c : Char) (text : List Char) (back : Option Retry) :
    textLeft text back ≤ textLeft (c :: text) back := by
  cases back with
  | none => simp [textLeft]
  | some back =>
    simp only [textLeft, List.length_cons]
    omega

/-- Matches tokens against a whole text. -/
def matchTokens : (tokens : List Token) → (text : List Char) → (back : Option Retry) → Bool
  | tokens, [], _ => tokens.all (· == .run)
  | .run :: rest, c :: text, _ => matchTokens rest (c :: text) (some ⟨rest, c :: text⟩)
  | tokens, c :: text, back =>
    if tokens.head? = some (.char c) then matchTokens tokens.tail text back
    else
      match back with
      | some ⟨again, _ :: later⟩ => matchTokens again later (some ⟨again, later⟩)
      | _ => false
termination_by tokens text back => (textLeft text back, tokens.length)
decreasing_by
  · have kept := textLeft_retry rest (c :: text) ‹_›
    simp only [Prod.lex_def, List.length_cons]
    omega
  · rename_i first
    have kept := textLeft_tail c text back
    have token : tokens ≠ [] := by rintro rfl; cases first
    have shorter := List.length_pos_iff.mpr token
    simp only [Prod.lex_def, List.length_tail]
    omega
  · simp only [Prod.lex_def, textLeft, List.length_cons]
    omega

/-- Whether a pattern matches a whole text. -/
def matchText (pattern text : String) : Bool :=
  matchTokens (tokens pattern.toList) text.toList none

end Workflow.Wildcard
