import FormulaText.Expr.Precedence
import FormulaText.Number.Shortest

/-!
# Printing in the linear notation

The linear notation writes a formula on one line: `+ - * / % ^` between operands, `name(argument)`,
`base_index` and `lhs=rhs`, with no more brackets than precedence asks for.
-/

namespace FormulaText

namespace Linear

def bracketedIf (needed : Bool) (text : String) : String :=
  if needed then "(" ++ text ++ ")" else text

@[simp] theorem bracketedIf_true (text : String) : bracketedIf true text = "(" ++ text ++ ")" :=
  rfl

@[simp] theorem bracketedIf_false (text : String) : bracketedIf false text = text := rfl

end Linear

def Expr.toLinear : Expr → String
  | .number value => value.withoutSignOfZero.positional
  | .symbol name | .control name => name
  | .binary op lhs rhs grouped =>
    Linear.bracketedIf (needsBracketsLeft op lhs) lhs.toLinear ++ String.singleton op.symbol ++
      Linear.bracketedIf (needsBracketsRight op rhs grouped) rhs.toLinear
  | .signed .minus operand grouped => "-" ++ Linear.bracketedIf grouped operand.toLinear
  | .signed .plus operand _ => operand.toLinear
  | .apply name argument => name ++ "(" ++ argument.toLinear ++ ")"
  | .subscript base index =>
    base.toLinear ++ "_" ++ Linear.bracketedIf (!index.isLetter) index.toLinear
  | .equation lhs rhs => lhs.toLinear ++ "=" ++ rhs.toLinear

namespace Linear

/-- What was read in the linear notation. Nothing is the empty text. -/
def print (expr? : Option Expr) : String := (expr?.map Expr.toLinear).getD ""

end Linear

end FormulaText
