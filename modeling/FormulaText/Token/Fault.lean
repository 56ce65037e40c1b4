import FormulaText.Token.Basic

/-!
# Faults

A text that is no formula has a fault at some place. A fault is a cause with what it was found at,
and its message is worked out from that.
-/

namespace FormulaText

inductive Fault where
  /-- No token begins with this text. -/
  | unknownSymbol (text : String)
  /-- No bracket of its side follows `\left` (if `opens`) or `\right`. -/
  | bareDelimiter (opens : Bool)
  /-- A text was taken for a numeral, but is none. -/
  | invalidNumber (text : String)
  /-- The formula is over, but the text is not. -/
  | trailingToken (found : Token.Kind)
  /-- Nothing follows the equals sign. -/
  | missingRightSide
  /-- A token stands where a formula begins, but begins none. -/
  | unexpectedToken (found : Token.Kind)
  /-- An operand is missing. -/
  | missingOperand (found : Token.Kind)
  /-- An operator stands where an operand begins, but is no sign. -/
  | notASign (found : Token.Kind)
  /-- The index of a root does not end in a square bracket. -/
  | openIndex (found : Token.Kind)
  /-- A bracketed group is missing. -/
  | missingGroup (found : Token.Kind)
  /-- A group does not end in the bracket that closes it. -/
  | openGroup (partner : Char) (found : Token.Kind)
  /-- A group has nothing in it. -/
  | emptyGroup
  /-- A fault of a source of tokens with a message of its own. -/
  | other (message : String)
deriving DecidableEq

namespace Fault

def message : Fault → String
  | unknownSymbol text => "Unknown symbol " ++ Text.quoted text
  | bareDelimiter true => "Expected opening bracket after \\left"
  | bareDelimiter false => "Expected closing bracket after \\right"
  | invalidNumber text => "Invalid number " ++ Text.quoted text ++ ": invalid float literal"
  | trailingToken found => "Expected end of input found " ++ found.describe
  | missingRightSide => "Expected expression after \"=\" found end of input"
  | unexpectedToken found => "Unexpected token: " ++ found.describe
  | missingOperand found =>
    "Expected number, variable, function, group, or + - found " ++ found.describe
  | notASign found => "Expected + or - found " ++ found.describe
  | openIndex found => "Expected \"]\" bracket, found " ++ found.describe
  | missingGroup found => "Expected opening bracket found " ++ found.describe
  | openGroup partner found =>
    "Expected closing bracket \"" ++ String.singleton partner ++ "\" found " ++ found.describe
  | emptyGroup => "Expected expression in group"
  | other message => message

end Fault

end FormulaText
