import FormulaText.Token.Record
import FormulaText.Token.SyntaxError

/-!
# What happens in a reading

A reading enters rules of the grammar, pulls answers from its source, and consumes tokens. Entered
rules and consumed tokens are logged.
-/

namespace FormulaText.Grammar

inductive Rule where
  | expr
  | sum
  | product
  | quotient
  | remainder
  | power
  | subscript
  | operand
  | signed
  | named (name : String)
  | fraction
  | root
  | application (name : String)
  | group
deriving DecidableEq

namespace Rule

/-- The name of a rule in the log. -/
def name : Rule → String
  | expr => "expr"
  | sum => "operator"
  | product => "operator_multiply"
  | quotient => "operator_divide"
  | remainder => "operator_mod"
  | power => "operator_exp"
  | subscript => "subscript"
  | operand => "number"
  | signed => "uni_operator"
  | named name => "keyword " ++ name
  | fraction => "fraction"
  | root => "sqrt"
  | application name => "function " ++ name
  | group => "group"

end Rule

inductive Event where
  | entered (rule : Rule)
  | pulled (answer : Except SyntaxError Token)
  | consumed (token : Token)

namespace Event

/-- The line of the log for an event, if it has one. -/
def record? : Event → Option String
  | entered rule => some rule.name
  | pulled _ => none
  | consumed token => some ("next token " ++ token.record)

end Event

end FormulaText.Grammar
