import FormulaText.Expr.Basic

/-!
# Equality of formulas

Two formulas are equal if they have the same shape, names and records of grouping, and numbers that
are equal as numbers. So the two zeros count as one, and a formula is equal to itself only if every
number in it is a number (`equal_self_iff`).
-/

namespace FormulaText.Expr

/-- Equality of formulas up to equality of the numbers in them. -/
def equal : Expr → Expr → Bool
  | number value, number value' => value.equal value'
  | symbol name, symbol name' => name == name'
  | control name, control name' => name == name'
  | binary op lhs rhs grouped, binary op' lhs' rhs' grouped' =>
    op = op' && lhs.equal lhs' && rhs.equal rhs' && grouped == grouped'
  | signed sign operand grouped, signed sign' operand' grouped' =>
    sign = sign' && operand.equal operand' && grouped == grouped'
  | apply name argument, apply name' argument' => name == name' && argument.equal argument'
  | subscript base index, subscript base' index' => base.equal base' && index.equal index'
  | equation lhs rhs, equation lhs' rhs' => lhs.equal lhs' && rhs.equal rhs'
  | _, _ => false

/-- Equality of what reading gives, where nothing was written equals only itself. -/
def equal? : Option Expr → Option Expr → Bool
  | some a, some b => a.equal b
  | none, none => true
  | _, _ => false

def hasNaN : Expr → Bool
  | number value => value = .nan
  | symbol _ | control _ => false
  | binary _ lhs rhs _ => lhs.hasNaN || rhs.hasNaN
  | signed _ operand _ => operand.hasNaN
  | apply _ argument => argument.hasNaN
  | subscript base index => base.hasNaN || index.hasNaN
  | equation lhs rhs => lhs.hasNaN || rhs.hasNaN

/-- A formula equals itself unless a value in it is not a number. -/
theorem equal_self_iff (expr : Expr) : expr.equal expr = true ↔ expr.hasNaN = false := by
  induction expr with
  | number value => simp [equal, hasNaN, Binary64.equal_self_iff]
  | symbol | control => simp [equal, hasNaN]
  | _ => simp_all [equal, hasNaN]

theorem equal_comm (a b : Expr) : a.equal b = b.equal a := by
  induction a generalizing b with
  | number value => cases b <;> simp [equal, Binary64.equal_comm]
  | symbol | control => cases b <;> simp [equal, Bool.beq_comm]
  | binary op lhs rhs grouped hlhs hrhs =>
    cases b with
    | binary op' lhs' rhs' grouped' =>
      simp only [equal, hlhs lhs', hrhs rhs', Bool.beq_comm, eq_comm]
    | _ => rfl
  | signed sign operand grouped hoperand =>
    cases b with
    | signed sign' operand' grouped' =>
      simp only [equal, hoperand operand', Bool.beq_comm, eq_comm]
    | _ => rfl
  | apply name argument hargument =>
    cases b with
    | apply name' argument' => simp only [equal, hargument argument', Bool.beq_comm]
    | _ => rfl
  | subscript base index hbase hindex =>
    cases b with
    | subscript base' index' => simp only [equal, hbase base', hindex index']
    | _ => rfl
  | equation lhs rhs hlhs hrhs =>
    cases b with
    | equation lhs' rhs' => simp only [equal, hlhs lhs', hrhs rhs']
    | _ => rfl

theorem equal_trans {a b c : Expr} (hab : a.equal b) (hbc : b.equal c) : a.equal c := by
  induction a generalizing b c <;> cases b <;> simp [equal] at hab <;> cases c <;>
    simp [equal] at hbc <;> grind [equal, Binary64.equal_trans]

end FormulaText.Expr
