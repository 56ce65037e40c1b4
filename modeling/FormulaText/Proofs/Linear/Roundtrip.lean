import FormulaText.Proofs.Linear.Printing

/-!
# Reading what was printed in the linear notation

The linear notation keeps no brackets around a left operand that binds as tight as its operator, nor
around a remainder in an exponent. A formula without such operands is read back from its linear text
as it was, up to its records of grouping.
-/

namespace FormulaText.Linear

open Grammar

variable {op : Operator} {lhs rhs expr base index : Expr} {grouped : Bool} {name : String}

/-- A left operand that is printed without brackets is tight enough, or its place is lost. -/
theorem rank_left (hequation : lhs.isEquation = false)
    (hplace : lhs.operator?.any (Expr.losesLeft op) = false)
    (h : Expr.needsBracketsLeft op lhs = false) :
    (lhs.printedCategory category).rank ≤ (leftCategory op).rank := by
  refine Expr.rank_printedCategory hequation (rank_leftCategory op) fun inner hinner ↦ ?_
  simp only [Expr.needsBracketsLeft, Expr.isLooser, hinner, Option.any_some,
    Bool.or_eq_false_iff] at h hplace
  have hlooser := h.1
  revert hlooser hplace
  cases op <;> cases inner <;> decide

/-- A right operand that is printed without brackets is tight enough, or its place is lost. -/
theorem rank_right (hequation : rhs.isEquation = false)
    (hplace : (op = .exponent && rhs.operator? = some .modulus) = false)
    (h : Expr.needsBracketsRight op rhs grouped = false) :
    (rhs.printedCategory category).rank ≤ (rightCategory op).rank := by
  refine Expr.rank_printedCategory hequation (rank_rightCategory op) fun inner hinner ↦ ?_
  simp only [Expr.needsBracketsRight, Expr.isLooser, Expr.isBinary, hinner, Option.any_some,
    Option.isSome_some, Bool.and_true, Bool.or_eq_false_iff] at h hplace
  have hlooser := h.1.1.1.1
  have hdivide := h.1.1.1.2
  revert hlooser hdivide hplace
  cases op <;> cases inner <;> decide

theorem rereads_apply (hspelled : (Expr.apply name expr).IsSpelled .common)
    (h : expr.Rereads Expr.linearKinds category) :
    (Expr.apply name expr).Rereads Expr.linearKinds category := by
  rcases hspelled with rfl | ⟨-, hrole⟩
  · have hopen : (enclosedIf true expr.linearKinds).head? ≠ some (.bracket (.opening '[')) := by
      rw [head?_enclosedIf_true]
      decide
    have hroot : roleOf .common "sqrt" = .root := by decide
    exact (Derives.root true hroot h.inParentheses hopen).to_operand (by decide)
  · have hargument := h.inParentheses.to_operand (by decide)
    exact (Derives.application true hrole hargument).to_operand (by decide)

theorem rereads_subscript (hequation : base.isEquation = false)
    (htree : (Expr.subscript base index).isIndexedTree = false)
    (hbase : base.Rereads Expr.linearKinds category)
    (hindex : index.Rereads Expr.linearKinds category) :
    (Expr.subscript base index).Rereads Expr.linearKinds category := by
  have hleft : Derives .common .operand base.linearKinds (base.regroup Expr.linearKinds) :=
    hbase.to_operand (Expr.rank_printedCategory_of_isBinary hequation htree)
  have hright : Derives .common .subscript (enclosedIf (!index.isLetter) index.linearKinds)
      (index.regroup Expr.linearKinds) := by
    refine hindex.enclosed (by decide) fun hletter ↦ ?_
    cases index with
    | symbol name =>
      change Category.operand.rank ≤ Category.subscript.rank
      decide
    | _ => contradiction
  exact .indexed hleft hright

/-- Whether a node is read back from the linear notation as it was. -/
def IsKept (node : Expr) : Prop :=
  node.IsReadable ∧ node.isControl = false ∧ node.isIndexedTree = false ∧ node.losesOperand = false

/-- The tokens of a printed formula are a phrase for the formula that is read. -/
theorem derives_linearKinds {expr : Expr} (htree : IsPhraseTree .common expr)
    (hkept : ∀ node ∈ expr.nodes, IsKept node) : expr.Rereads Expr.linearKinds category := by
  induction expr with
  | number value =>
    have hfinite := (hkept _ (Expr.self_mem_nodes _)).1.2.2
    exact Binary64.derives_kinds (by simpa [Expr.isNonfinite] using hfinite)
  | symbol name => exact .symbol name
  | control name => exact absurd (hkept _ (Expr.self_mem_nodes _)).2.1 (by simp [Expr.isControl])
  | binary op lhs rhs grouped ihl ihr =>
    have hnodes := Expr.forall_nodes_binary.1 htree
    rw [Expr.forall_nodes_binary] at hkept
    have hplace := hkept.1.2.2.2
    rw [Expr.losesOperand, Bool.or_eq_false_iff] at hplace
    have hlhs := ihl hnodes.2.1 hkept.2.1
    have hrhs := ihr hnodes.2.2 hkept.2.2
    exact hlhs.operation hrhs (rank_left (IsPhraseTree.isEquation hnodes.2.1) hplace.1)
      (rank_right (IsPhraseTree.isEquation hnodes.2.2) hplace.2)
  | signed sign operand grouped ih =>
    have hnodes := Expr.forall_nodes_signed.1 htree
    rw [Expr.forall_nodes_signed] at hkept
    cases sign with
    | plus => exact absurd hkept.1.1.1 (by simp [Expr.isPlusSign])
    | minus =>
      exact (ih hnodes.2 hkept.2).minus hnodes.1.1 (IsPhraseTree.isEquation hnodes.2)
        hkept.1.1.2.1
  | apply name argument ih =>
    have hnodes := Expr.forall_nodes_apply.1 htree
    rw [Expr.forall_nodes_apply] at hkept
    exact rereads_apply hnodes.1.2 (ih hnodes.2 hkept.2)
  | subscript base index ihbase ihindex =>
    have hnodes := Expr.forall_nodes_subscript.1 htree
    rw [Expr.forall_nodes_subscript] at hkept
    exact rereads_subscript (IsPhraseTree.isEquation hnodes.2.1) hkept.1.2.2.1
      (ihbase hnodes.2.1 hkept.2.1) (ihindex hnodes.2.2 hkept.2.2)
  | equation => exact absurd (htree _ (Expr.self_mem_nodes _)).1 (by simp [Expr.isShaped])

theorem isFormula_linearKinds (h : expr.IsFormulaOf (IsPhraseTree .common))
    (hkept : ∀ node ∈ expr.nodes, IsKept node) :
    IsFormula .common expr.linearKinds (some (expr.regroup Expr.linearKinds)) := by
  cases expr with
  | equation lhs rhs =>
    rw [Expr.forall_nodes_equation] at hkept
    exact .equation (derives_linearKinds h.1 hkept.2.1).to_sum
      (derives_linearKinds h.2 hkept.2.2).to_sum
  | _ => exact .sum (derives_linearKinds h hkept).to_sum

/-- A formula that was read in either notation is read back from its linear text up to records of
grouping. The exceptions are what the linear notation has no spelling for: control words, plus
signs, infinite numbers, an index below an operation or below something indexed, a minus sign
before something indexed, and operands that lose their place. -/
theorem parse_toLinear_of_parse {text : String}
    (hparse : Latex.parse text = .ok (some expr) ∨ parse text = .ok (some expr))
    (hsigns : ∀ node ∈ expr.nodes, node.isControl = false ∧ node.isPlusSign = false ∧
      node.isNonfinite = false)
    (hindices : ∀ node ∈ expr.nodes, node.isIndexedTree = false ∧ node.isMinusOfSubscript = false)
    (hoperands : ∀ node ∈ expr.nodes, node.losesOperand = false) :
    ∃ again, parse expr.toLinear = .ok (some again) ∧
      again.clearGrouping.equal expr.clearGrouping = true := by
  have htree : expr.IsFormulaOf (IsPhraseTree .common) := by
    rcases hparse with hparse | hparse
    · exact Latex.isFormulaOf_of_parse hparse
    · exact isFormulaOf_of_parse hparse
  have hkept (node : Expr) (hnode : node ∈ expr.nodes) : IsKept node := by
    obtain ⟨hcontrol, hplus, hfinite⟩ := hsigns node hnode
    obtain ⟨hindexed, hminus⟩ := hindices node hnode
    exact ⟨⟨hplus, hminus, hfinite⟩, hcontrol, hindexed, hoperands node hnode⟩
  have hgives := gives_toLinear (forall_isSpelled htree)
  have hread : parse expr.toLinear = .ok (some (expr.regroup Expr.linearKinds)) :=
    parse_eq_ok_iff.2 ⟨expr.linearKinds, hgives, isFormula_linearKinds htree hkept⟩
  exact ⟨_, hread, Expr.equal_clearGrouping_regroup _ fun node hnode ↦ (hsigns node hnode).2.2⟩

/-- A power, an index and a call, and a difference that has to stay in parentheses. -/
theorem parse_toLinear_of_parse_difference :
    let power := Expr.binary .exponent (.subscript (.symbol "x") (.number .one)) (.symbol "y") false
    let difference := Expr.binary .minus (.symbol "b")
      (.apply "sin" (.signed .minus (.symbol "a") false)) false
    let expr := Expr.binary .minus power difference true
    Latex.parse "x_1^y-(b-\\sin(-a))" = .ok (some expr) ∧
      ∃ again, parse expr.toLinear = .ok (some again) ∧
        again.clearGrouping.equal expr.clearGrouping = true := by
  intro power difference expr
  have hparse : Latex.parse "x_1^y-(b-\\sin(-a))" = .ok (some expr) :=
    eq_ok_of_toOption (by decide +kernel)
  exact ⟨hparse, parse_toLinear_of_parse (.inl hparse) (by decide) (by decide) (by decide)⟩

end FormulaText.Linear
