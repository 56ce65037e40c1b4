import FormulaText.Expr.Precedence
import FormulaText.Number.Shortest
import FormulaText.Vocabulary.Greek

/-!
# Printing in LaTeX

Quotients are printed as fractions, whose parts need no brackets, and exponents in braces. Other
operands have the brackets of the linear notation, and a left operand has them also where the
formula would otherwise be read back with another shape.
-/

namespace FormulaText

namespace Latex

/-- A text, between delimiters that grow with it where brackets are needed. -/
def bracketedIf (needed : Bool) (text : String) : String :=
  if needed then "\\left(" ++ text ++ "\\right)" else text

def braced (text : String) : String := "\x7b" ++ text ++ "\x7d"

@[simp] theorem bracketedIf_true (text : String) :
    bracketedIf true text = "\\left(" ++ text ++ "\\right)" := rfl

@[simp] theorem bracketedIf_false (text : String) : bracketedIf false text = text := rfl

def infixText : Operator → String
  | .multiply => "\\cdot "
  | .modulus => "\\bmod "
  | op => String.singleton op.symbol

end Latex

namespace Expr

/-- Whether the left operand of an operator would be read back as more than that operand: it binds
as tight as the operator, or it is a remainder below an exponent. A fraction never is. -/
def nestsLeft (op : Operator) (lhs : Expr) : Bool :=
  lhs.operator?.any fun inner ↦
    (inner ≠ .divide && inner.tier = op.tier) || (op = .exponent && inner = .modulus)

def toLatex : Expr → String
  | .number value => value.withoutSignOfZero.positional
  | .symbol name => if isGreekLetter name then "\\" ++ name else name
  | .control name => "\\" ++ name
  | .binary op lhs rhs grouped =>
    let left := Latex.bracketedIf (needsBracketsLeft op lhs || nestsLeft op lhs) lhs.toLatex
    match op with
    | .divide => "\\frac" ++ Latex.braced lhs.toLatex ++ Latex.braced rhs.toLatex
    | .exponent => left ++ "^" ++ Latex.braced rhs.toLatex
    | _ => left ++ Latex.infixText op ++
      Latex.bracketedIf (needsBracketsRight op rhs grouped) rhs.toLatex
  | .signed .minus operand grouped => "-" ++ Latex.bracketedIf grouped operand.toLatex
  | .signed .plus operand _ => operand.toLatex
  | .apply name argument =>
    if Text.equalIgnoringAsciiCase name "sqrt" then "\\sqrt" ++ Latex.braced argument.toLatex
    else "\\" ++ name ++ Latex.bracketedIf true argument.toLatex
  | .subscript base index =>
    Latex.bracketedIf (base.isBinary || base.isSubscript) base.toLatex ++ "_" ++
      if index.isLetter then index.toLatex else Latex.braced index.toLatex
  | .equation lhs rhs => lhs.toLatex ++ "=" ++ rhs.toLatex

end Expr

namespace Latex

/-- What was read, in LaTeX. Nothing is the empty text. -/
def print (expr? : Option Expr) : String := (expr?.map Expr.toLatex).getD ""

end Latex

end FormulaText
