import FormulaText.Token.Basic

/-!
# Records of tokens

The full account of a token in the log of a reading: what it is, with names quoted and numbers with
their point, and where it stands.
-/

namespace FormulaText

namespace Operator

def recordName : Operator → String
  | plus => "Plus"
  | minus => "Minus"
  | multiply => "Multiply"
  | divide => "Divide"
  | modulus => "Modulus"
  | exponent => "Exponent"

end Operator

namespace Bracket

def record (bracket : Bracket) : String :=
  "Bracket \x7b value: " ++ Text.quotedChar bracket.mark ++ ", open: " ++
    (if bracket.opens then "true" else "false") ++ " \x7d"

end Bracket

namespace Token

namespace Kind

def recordOf (name argument : String) : String := name ++ "(" ++ argument ++ ")"

def record : Kind → String
  | number value => recordOf "Number" value.fractional
  | operator op => recordOf "Operator" op.recordName
  | symbol name => recordOf "Variable" (Text.quoted name)
  | control name => recordOf "Keyword" (Text.quoted name)
  | call name => recordOf "Call" (Text.quoted name)
  | bracket b => recordOf "Bracket" b.record
  | underscore => "Underscore"
  | equal => "Equal"
  | endOfInput => "Eof"

end Kind

def record (token : Token) : String :=
  "Token \x7b kind: " ++ token.kind.record ++ ", line: " ++ token.line.repr ++ ", col: " ++
    token.column.repr ++ ", end: " ++ token.endColumn.repr ++ " \x7d"

end Token

end FormulaText
