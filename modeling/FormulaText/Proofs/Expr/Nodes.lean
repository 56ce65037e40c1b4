import FormulaText.Expr.Equality

/-!
# The nodes of a formula

Properties of a formula that hold at each of its nodes, and formulas that differ in their records
of grouping alone.
-/

namespace FormulaText.Expr

/-- The nodes of a formula, each before those below it. -/
def nodes : Expr → List Expr
  | number value => [number value]
  | symbol name => [symbol name]
  | control name => [control name]
  | binary op lhs rhs grouped => binary op lhs rhs grouped :: (lhs.nodes ++ rhs.nodes)
  | signed sign operand grouped => signed sign operand grouped :: operand.nodes
  | apply name argument => apply name argument :: argument.nodes
  | subscript base index => subscript base index :: (base.nodes ++ index.nodes)
  | equation lhs rhs => equation lhs rhs :: (lhs.nodes ++ rhs.nodes)

section

variable {P : Expr → Prop} {a b : Expr}

theorem forall_nodes_binary {op : Operator} {grouped : Bool} :
    (∀ node ∈ (binary op a b grouped).nodes, P node) ↔
      P (binary op a b grouped) ∧ (∀ node ∈ a.nodes, P node) ∧ ∀ node ∈ b.nodes, P node := by
  simp only [nodes, List.forall_mem_cons, List.forall_mem_append]

theorem forall_nodes_signed {sign : Sign} {grouped : Bool} :
    (∀ node ∈ (signed sign a grouped).nodes, P node) ↔
      P (signed sign a grouped) ∧ ∀ node ∈ a.nodes, P node := by
  simp only [nodes, List.forall_mem_cons]

theorem forall_nodes_apply {name : String} :
    (∀ node ∈ (apply name a).nodes, P node) ↔ P (apply name a) ∧ ∀ node ∈ a.nodes, P node := by
  simp only [nodes, List.forall_mem_cons]

theorem forall_nodes_subscript :
    (∀ node ∈ (subscript a b).nodes, P node) ↔
      P (subscript a b) ∧ (∀ node ∈ a.nodes, P node) ∧ ∀ node ∈ b.nodes, P node := by
  simp only [nodes, List.forall_mem_cons, List.forall_mem_append]

theorem forall_nodes_equation :
    (∀ node ∈ (equation a b).nodes, P node) ↔
      P (equation a b) ∧ (∀ node ∈ a.nodes, P node) ∧ ∀ node ∈ b.nodes, P node := by
  simp only [nodes, List.forall_mem_cons, List.forall_mem_append]

theorem self_mem_nodes (expr : Expr) : expr ∈ expr.nodes := by
  cases expr <;> simp [nodes]

end

/-! ## Kinds of nodes -/

def isNumber : Expr → Bool
  | number _ => true
  | _ => false

def isControl : Expr → Bool
  | control _ => true
  | _ => false

def isEquation : Expr → Bool
  | equation _ _ => true
  | _ => false

def isPlusSign : Expr → Bool
  | signed .plus _ _ => true
  | _ => false

def isMinusOfSubscript : Expr → Bool
  | signed .minus operand _ => operand.isSubscript
  | _ => false

def isNonfinite : Expr → Bool
  | number value => !value.isFinite
  | _ => false

/-- Whether a node has an index below an operation, or below something that has one already. -/
def isIndexedTree : Expr → Bool
  | subscript base _ => base.isBinary || base.isSubscript
  | _ => false

/-- Whether a left operand without brackets becomes part of a larger one when it is read. -/
def losesLeft : Operator → Operator → Bool
  | .plus, inner | .minus, inner => inner = .plus || inner = .minus
  | .multiply, inner | .divide, inner => inner = .multiply
  | .exponent, inner => inner = .exponent || inner = .modulus
  | .modulus, inner => inner = .modulus

/-- Whether a node is an operation that loses the place of one of its operands in the linear
notation, where these operands have no brackets. -/
def losesOperand : Expr → Bool
  | binary op lhs rhs _ =>
    lhs.operator?.any (losesLeft op) || (op = .exponent && rhs.operator? = some .modulus)
  | _ => false

/-! ## Records of grouping -/

/-- The same formula with no record of grouping. -/
def clearGrouping : Expr → Expr
  | number value => number value
  | symbol name => symbol name
  | control name => control name
  | binary op lhs rhs _ => binary op lhs.clearGrouping rhs.clearGrouping false
  | signed sign operand _ => signed sign operand.clearGrouping false
  | apply name argument => apply name argument.clearGrouping
  | subscript base index => subscript base.clearGrouping index.clearGrouping
  | equation lhs rhs => equation lhs.clearGrouping rhs.clearGrouping

/-- Whether each node that is grouped in the first formula is grouped at the same place of the
second one. -/
def groupingWithin : Expr → Expr → Bool
  | binary _ lhs rhs grouped, binary _ lhs' rhs' grouped' =>
    (!grouped || grouped') && lhs.groupingWithin lhs' && rhs.groupingWithin rhs'
  | signed _ operand grouped, signed _ operand' grouped' =>
    (!grouped || grouped') && operand.groupingWithin operand'
  | apply _ argument, apply _ argument' => argument.groupingWithin argument'
  | subscript base index, subscript base' index' =>
    base.groupingWithin base' && index.groupingWithin index'
  | equation lhs rhs, equation lhs' rhs' => lhs.groupingWithin lhs' && rhs.groupingWithin rhs'
  | number _, number _ | symbol _, symbol _ | control _, control _ => true
  | _, _ => false

/-- A formula without infinite numbers equals itself. -/
theorem equal_self_of_finite {expr : Expr} (h : ∀ node ∈ expr.nodes, node.isNonfinite = false) :
    expr.equal expr = true := by
  rw [equal_self_iff]
  induction expr with
  | number value =>
    have hfinite := h _ (self_mem_nodes _)
    cases value <;> simp_all [hasNaN, isNonfinite, Binary64.isFinite]
  | symbol | control => rfl
  | binary op lhs rhs grouped hlhs hrhs =>
    rw [forall_nodes_binary] at h
    rw [hasNaN, hlhs h.2.1, hrhs h.2.2, Bool.or_false]
  | signed sign operand grouped hoperand =>
    rw [forall_nodes_signed] at h
    rw [hasNaN, hoperand h.2]
  | apply name argument hargument =>
    rw [forall_nodes_apply] at h
    rw [hasNaN, hargument h.2]
  | subscript base index hbase hindex =>
    rw [forall_nodes_subscript] at h
    rw [hasNaN, hbase h.2.1, hindex h.2.2, Bool.or_false]
  | equation lhs rhs hlhs hrhs =>
    rw [forall_nodes_equation] at h
    rw [hasNaN, hlhs h.2.1, hrhs h.2.2, Bool.or_false]

end FormulaText.Expr
