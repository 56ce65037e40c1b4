import FormulaText.Token.Fault

/-!
# Errors that point into the text

An error is a fault at a place. It carries the line of the text where it lies, so that it can be
shown with a caret below the place.
-/

namespace FormulaText

namespace Text

/--
The line of a text with a number, counted from zero. There is nothing past the last line. The
search walks along the text, so that its length and not the number bounds the work.
-/
def lineAt : Nat → List Char → List Char
  | _, [] => []
  | 0, text => text.takeWhile (· ≠ '\n')
  | number + 1, c :: rest => if c = '\n' then lineAt number rest else lineAt (number + 1) rest

/-- The first line ends before the first line break. -/
theorem lineAt_zero (text : List Char) : lineAt 0 text = text.takeWhile (· ≠ '\n') := by
  cases text <;> rfl

end Text

/-- A fault at a place. Line and column are counted from one. -/
structure SyntaxError where
  line : Nat
  column : Nat
  sourceLine : String
  fault : Fault
deriving DecidableEq

namespace SyntaxError

/-- The error for a fault in a text, at a line and column counted from zero. -/
def inText (text : String) (line column : Nat) (fault : Fault) : SyntaxError :=
  ⟨line + 1, column + 1, String.ofList (Text.lineAt line text.toList), fault⟩

def message (error : SyntaxError) : String := error.fault.message

/-- The error with the line it lies in and a caret below the place. -/
def render (error : SyntaxError) : String :=
  "Parser error\n" ++ error.sourceLine ++ "\n" ++
    String.ofList (List.replicate (error.column - 1) ' ') ++ "^\nError at line: " ++
    error.line.repr ++ " col: " ++ error.column.repr ++ "\n" ++ error.message

end SyntaxError

end FormulaText
