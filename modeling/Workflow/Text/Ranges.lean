/-!
# Character ranges

A character class beyond ASCII is given by its inclusive ranges of code points in increasing
order, as the Unicode character database lists them.
-/

namespace Workflow.Text

/-- Inclusive ranges of code points. -/
abbrev Ranges := List (Nat × Nat)

/-- Whether a code point lies in one of the ranges. -/
def Ranges.contains (ranges : Ranges) (point : Nat) : Bool :=
  ranges.any fun (first, last) => first ≤ point && point ≤ last

end Workflow.Text
