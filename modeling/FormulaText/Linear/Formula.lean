import FormulaText.Grammar.Reading
import FormulaText.Linear.Printer
import FormulaText.Linear.Scanner

/-!
# Formulas in the linear notation
-/

namespace FormulaText.Linear

/-- The formula that a text writes in the linear notation, with the usual table and the common
functions. -/
def parse (text : String) : Except SyntaxError (Option Expr) :=
  Grammar.parse .common (scanner text)

end FormulaText.Linear
