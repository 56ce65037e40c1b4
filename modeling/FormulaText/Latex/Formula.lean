import FormulaText.Grammar.Reading
import FormulaText.Latex.Printer
import FormulaText.Latex.Scanner

/-!
# Formulas in LaTeX
-/

namespace FormulaText.Latex

/-- The formula that a LaTeX text writes, with the usual table and the common functions. -/
def parse (text : String) : Except SyntaxError (Option Expr) :=
  Grammar.parse .common (scanner text)

end FormulaText.Latex
