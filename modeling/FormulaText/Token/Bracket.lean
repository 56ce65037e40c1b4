/-!
# Brackets

A bracket is a character together with the side it stands on. Parentheses, square brackets and
braces are the pairs that enclose a group.
-/

namespace FormulaText

structure Bracket where
  mark : Char
  opens : Bool
deriving DecidableEq

namespace Bracket

def opening (mark : Char) : Bracket := ⟨mark, true⟩

def closing (mark : Char) : Bracket := ⟨mark, false⟩

/-- The character that closes a group begun by the character of a bracket. -/
def partner? (bracket : Bracket) : Option Char :=
  match bracket.mark with
  | '(' => some ')'
  | '[' => some ']'
  | '{' => some '}'
  | _ => none

end Bracket

end FormulaText
