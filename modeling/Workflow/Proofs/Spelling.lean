import Workflow.Path.Parser
import Workflow.Proofs.Numerals

/-!
# The canonical spelling of paths

Every member name stands in single quotes inside brackets, with a backslash before each quote and
backslash of the name. In a filter `!` binds tighter than `&&` and `&&` tighter than `||`, and both
connectives associate to the left, so parentheses stand only where the tree differs from that:
around an operand whose own connective is looser than its place allows.

A tree is expressible when it is one that some text stands for: its numbers are signed 64-bit ones,
a union joins two or more names and indices, and what is applied at every depth does not itself
descend.
-/

namespace Workflow.Path

/-- A name with a backslash before each quote and each backslash. -/
def escaped : List Char → List Char
  | [] => []
  | c :: rest =>
    if c = '\x27' ∨ c = '\\' then '\\' :: c :: escaped rest else c :: escaped rest

def quoted (text : String) : List Char := '\x27' :: (escaped text.toList ++ ['\x27'])

/-- A bound of a slice, which may be missing. -/
def boundText : Option Int → List Char
  | some bound => Decimal.integer bound
  | none => []

/-- The bounds of a slice; the last point is written only in front of a step. -/
def sliceText (start stop : Option Int) : Option Int → List Char
  | some step => boundText start ++ ':' :: (boundText stop ++ ':' :: Decimal.integer step)
  | none => boundText start ++ ':' :: boundText stop

/-- A name or an index as a bracket holds it. -/
def Selector.memberText : Selector → List Char
  | .child name => quoted name
  | .index position => Decimal.integer position
  | _ => []

def othersText : List Selector → List Char
  | [] => []
  | member :: others => ',' :: (member.memberText ++ othersText others)

def membersText : List Selector → List Char
  | [] => []
  | first :: others => first.memberText ++ othersText others

def Comparison.sign : Comparison → List Char
  | .eq => ['=', '=']
  | .ne => ['!', '=']
  | .lt => ['<']
  | .le => ['<', '=']
  | .gt => ['>']
  | .ge => ['>', '=']

def Connective.sign : Connective → List Char
  | .or => ['|', '|']
  | .and => ['&', '&']

def Connective.level : Connective → Nat
  | .or => 0
  | .and => 1

/-- How tightly a filter is bound together; only connectives come apart. -/
def Filter.level : Filter → Nat
  | .join _ connective _ => connective.level
  | _ => 2

def literalText : Json → List Char
  | .string text => quoted text
  | .bool true => ['t', 'r', 'u', 'e']
  | .bool false => ['f', 'a', 'l', 's', 'e']
  | .number (.int value) => Decimal.integer value
  | _ => ['n', 'u', 'l', 'l']

/-- A filter's text, in parentheses if it has to be. -/
def enclosed (needed : Bool) (text : List Char) : List Char :=
  if needed then '(' :: (text ++ [')']) else text

mutual

def Selector.text : Selector → List Char
  | .child name => '[' :: (quoted name ++ [']'])
  | .index position => '[' :: (Decimal.integer position ++ [']'])
  | .wildcard => ['[', '*', ']']
  | .slice start stop step => '[' :: (sliceText start stop step ++ [']'])
  | .union members => '[' :: (membersText members ++ [']'])
  | .filter condition => '[' :: '?' :: '(' :: (condition.bare ++ [')', ']'])
  | .descend inner => '.' :: '.' :: inner.text

def selectorsText : List Selector → List Char
  | [] => []
  | selector :: rest => selector.text ++ selectorsText rest

/-- The text of a filter where nothing stands around it. -/
def Filter.bare : Filter → List Char
  | .present path => '@' :: selectorsText path
  | .compare left comparison right =>
    left.text ++ ' ' :: (comparison.sign ++ ' ' :: right.text)
  | .join left connective right =>
    enclosed (left.level < connective.level) left.bare ++
      ' ' :: (connective.sign ++ ' ' :: enclosed (right.level < connective.level + 1) right.bare)
  | .not inner => '!' :: enclosed (inner.level < 2) inner.bare

def Operand.text : Operand → List Char
  | .current path => '@' :: selectorsText path
  | .literal value => literalText value

end

/-- The text of a filter at a place that asks for a level of binding. -/
def Filter.textAt (level : Nat) (condition : Filter) : List Char :=
  enclosed (condition.level < level) condition.bare

def Root.text : Root → List Char
  | .input => ['$']
  | .context => ['$', '$']
  | .variable name => '$' :: name.toList

/-! ## Expressible trees -/

def Selector.isDescent : Selector → Bool
  | .descend _ => true
  | _ => false

/-- Whether a selector is a name or an index that can be written. -/
def Selector.IsMember : Selector → Prop
  | .child _ => True
  | .index position => Decimal.Signed position
  | _ => False

/-- Whether a value can be written in a filter: a text, a truth value, null or an integer. -/
def IsLiteral : Json → Prop
  | .string _ => True
  | .bool _ => True
  | .null => True
  | .number (.int value) => Decimal.Signed value
  | _ => False

def BoundFits (bound : Option Int) : Prop := ∀ value ∈ bound, Decimal.Signed value

mutual

/-- Whether a selector can be written. -/
def Selector.Expressible : Selector → Prop
  | .child _ => True
  | .index position => Decimal.Signed position
  | .wildcard => True
  | .slice start stop step => BoundFits start ∧ BoundFits stop ∧ BoundFits step
  | .union members => 2 ≤ members.length ∧ ∀ member ∈ members, member.IsMember
  | .filter condition => condition.Expressible
  | .descend inner => inner.isDescent = false ∧ inner.Expressible

def AllExpressible : List Selector → Prop
  | [] => True
  | selector :: rest => selector.Expressible ∧ AllExpressible rest

def Filter.Expressible : Filter → Prop
  | .present path => AllExpressible path
  | .compare left _ right => left.Expressible ∧ right.Expressible
  | .join left _ right => left.Expressible ∧ right.Expressible
  | .not inner => inner.Expressible

def Operand.Expressible : Operand → Prop
  | .current path => AllExpressible path
  | .literal value => IsLiteral value

end

/-- Whether a name of a variable is shaped like an identifier. -/
def Root.Expressible : Root → Prop
  | .variable name =>
    ∃ first rest, name.toList = first :: rest ∧ startsVariable first = true ∧
      ∀ c ∈ rest, inVariable c = true
  | _ => True

/-- The canonical text of a path. -/
def text (path : Path) : String :=
  String.ofList (path.root.text ++ selectorsText path.selectors)

/-- Whether a path can be written. -/
def Expressible (path : Path) : Prop :=
  path.root.Expressible ∧ AllExpressible path.selectors

end Workflow.Path
