import FormulaText.Grammar.Reader
import FormulaText.Vocabulary.Functions
import FormulaText.Vocabulary.Greek

/-!
# The rules of the grammar

A formula is an equation of sums. From a sum down to a single operand each tier of operators has
its rule, and each rule takes all that its tier allows. The rules call each other, and `depth`
bounds how deep; no reading comes near a bound that grows with the number of tokens.
-/

namespace FormulaText.Grammar

open Reader

variable {σ : Type} [TokenSource σ] (vocabulary : Vocabulary)

mutual

/-- `expr : sum?` -/
def expr : Nat → Reader σ (Option Expr)
  | 0 => giveUp
  | depth + 1 => do
    enter .expr
    let ahead ← peek
    match ahead.kind with
    | .endOfInput => return none
    | .underscore | .equal =>
      let found ← advance
      reject (.unexpectedToken found.kind)
    | _ => some <$> sum depth

/-- `sum : product (('+' | '-') sum)?` -/
def sum : Nat → Reader σ Expr
  | 0 => giveUp
  | depth + 1 => do
    enter .sum
    let lhs ← product depth
    let ahead ← peek
    match ahead.kind with
    | .operator .plus =>
      let _ ← advance
      let rhs ← sum depth
      return .binary .plus lhs rhs false
    | .operator .minus =>
      let _ ← advance
      let rhs ← sum depth
      let grouped ← staysGrouped rhs
      return .binary .minus lhs rhs grouped
    | _ => return lhs

/-- `product : quotient (('*' | '/')? product)?`, without an operator only where the token ahead
begins a factor. -/
def product : Nat → Reader σ Expr
  | 0 => giveUp
  | depth + 1 => do
    enter .product
    let lhs ← quotient depth
    let ahead ← peek
    match ahead.kind with
    | .operator .multiply =>
      let _ ← advance
      let rhs ← product depth
      return .binary .multiply lhs rhs false
    | .operator .divide =>
      let _ ← advance
      let rhs ← product depth
      return .binary .divide lhs rhs false
    | kind =>
      if kind.beginsFactor then
        let rhs ← product depth
        return .binary .multiply lhs rhs false
      else return lhs

/-- `quotient : remainder ('/' remainder)*` -/
def quotient : Nat → Reader σ Expr
  | 0 => giveUp
  | depth + 1 => do
    enter .quotient
    let lhs ← remainder depth
    quotientFrom depth lhs

/-- The rest of a quotient after its first operands. -/
def quotientFrom : Nat → Expr → Reader σ Expr
  | 0, _ => giveUp
  | depth + 1, lhs => do
    let ahead ← peek
    match ahead.kind with
    | .operator .divide =>
      let _ ← advance
      let rhs ← remainder depth
      quotientFrom depth (.binary .divide lhs rhs false)
    | _ => return lhs

/-- `remainder : power ('%' remainder)?` -/
def remainder : Nat → Reader σ Expr
  | 0 => giveUp
  | depth + 1 => do
    enter .remainder
    let lhs ← power depth
    let ahead ← peek
    match ahead.kind with
    | .operator .modulus =>
      let _ ← advance
      let rhs ← remainder depth
      return .binary .modulus lhs rhs false
    | _ => return lhs

/-- `power : subscript ('^' power)?` -/
def power : Nat → Reader σ Expr
  | 0 => giveUp
  | depth + 1 => do
    enter .power
    let lhs ← subscript depth
    let ahead ← peek
    match ahead.kind with
    | .operator .exponent =>
      let _ ← advance
      let rhs ← power depth
      return .binary .exponent lhs rhs false
    | _ => return lhs

/-- `subscript : operand ('_' subscript)?` -/
def subscript : Nat → Reader σ Expr
  | 0 => giveUp
  | depth + 1 => do
    enter .subscript
    let base ← operand depth
    let ahead ← peek
    match ahead.kind with
    | .underscore =>
      let _ ← advance
      let index ← subscript depth
      return .subscript base index
    | _ => return base

/-- `operand : NUMBER | SYMBOL | signed | named | group` -/
def operand : Nat → Reader σ Expr
  | 0 => giveUp
  | depth + 1 => do
    enter .operand
    let ahead ← peek
    match ahead.kind with
    | .number value =>
      let _ ← advance
      return .number value
    | .operator _ => signed depth
    | .symbol name =>
      let _ ← advance
      return .symbol name
    | .control name => named depth name false
    | .call name => named depth name true
    | .bracket _ => group depth
    | .underscore | .equal | .endOfInput =>
      let found ← advance
      reject (.missingOperand found.kind)

/-- `signed : ('+' | '-') operand`, where a sign before a numeral becomes part of the number. -/
def signed : Nat → Reader σ Expr
  | 0 => giveUp
  | depth + 1 => do
    enter .signed
    let found ← advance
    match found.kind with
    | .operator .plus =>
      match ← operand depth with
      | .number value => return .number value
      | value => return .signed .plus value false
    | .operator .minus =>
      match ← operand depth with
      | .number value => return .number value.neg
      | value =>
        let grouped ← staysGrouped value
        return .signed .minus value grouped
    | kind => reject (.notASign kind)

/-- `named : fraction | root | application | LETTER | CONTROL`. A call of what is no function is a
symbol, and the parenthesis after it begins another factor. -/
def named : Nat → String → Bool → Reader σ Expr
  | 0, _, _ => giveUp
  | depth + 1, name, isCall => do
    enter (.named name)
    if Text.equalIgnoringAsciiCase name "frac" then fraction depth
    else if Text.equalIgnoringAsciiCase name "sqrt" then root depth
    else if vocabulary.isFunction name then application depth name
    else
      let _ ← advance
      if isCall || isGreekLetter name then return .symbol name else return .control name

/-- `fraction : FRAC group group` -/
def fraction : Nat → Reader σ Expr
  | 0 => giveUp
  | depth + 1 => do
    enter .fraction
    let _ ← advance
    let numerator ← group depth
    let denominator ← group depth
    return .binary .divide numerator denominator false

/-- `root : SQRT ('[' operand ']')? group` -/
def root : Nat → Reader σ Expr
  | 0 => giveUp
  | depth + 1 => do
    enter .root
    let _ ← advance
    let ahead ← peek
    if ahead.kind = .bracket (.opening '[') then
      let _ ← advance
      let index ← operand depth
      let found ← advance
      if found.kind = .bracket (.closing ']') then
        let radicand ← group depth
        return .binary .exponent radicand (.binary .divide (.number .one) index false) false
      else reject (.openIndex found.kind)
    else
      let radicand ← group depth
      return .apply "sqrt" radicand

/-- `application : FUNCTION (group | operand)` -/
def application : Nat → String → Reader σ Expr
  | 0, _ => giveUp
  | depth + 1, name => do
    enter (.application name)
    let _ ← advance
    let ahead ← peek
    match ahead.kind with
    | .bracket _ =>
      let argument ← group depth
      return .apply name argument
    | _ =>
      let argument ← operand depth
      return .apply name argument

/-- `group : '(' expr ')' | '[' expr ']' | '{' expr '}'` -/
def group : Nat → Reader σ Expr
  | 0 => giveUp
  | depth + 1 => do
    enter .group
    let found ← advance
    let partner? := match found.kind with
      | .bracket bracket => if bracket.opens then bracket.partner? else none
      | _ => none
    match partner? with
    | none => reject (.missingGroup found.kind)
    | some partner =>
      let content? ← expr depth
      let found ← advance
      if found.kind = .bracket (.closing partner) then
        match content? with
        | some content => return content
        | none => reject .emptyGroup
      else reject (.openGroup partner found.kind)

end

/-- `equation : expr ('=' expr)?` -/
def equation (depth : Nat) : Reader σ (Option Expr) := do
  match ← expr vocabulary depth with
  | none => return none
  | some lhs =>
    let ahead ← peek
    match ahead.kind with
    | .equal =>
      let _ ← advance
      match ← expr vocabulary depth with
      | some rhs => return some (.equation lhs rhs)
      | none =>
        let _ ← advance
        reject .missingRightSide
    | _ => return some lhs

/-- `formula : equation END` -/
def formula (depth : Nat) : Reader σ (Option Expr) := do
  let expr? ← equation vocabulary depth
  let found ← advance
  if found.kind = .endOfInput then return expr? else reject (.trailingToken found.kind)

end FormulaText.Grammar
