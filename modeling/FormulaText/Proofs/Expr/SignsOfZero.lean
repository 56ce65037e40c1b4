import FormulaText.Latex.Printer
import FormulaText.Linear.Printer
import FormulaText.Proofs.Expr.Nodes
import FormulaText.Proofs.Number.Spelling

/-!
# Signs of zeros are not seen

Equal formulas have the same shape, and their numbers differ in the signs of zeros at most. Neither
printer sees such a sign: not in the text of a number, and not where it decides on brackets. So equal
formulas are printed alike, whether they have been read or built by hand.
-/

namespace FormulaText

/-- A number is negative with or without the sign of zero. -/
theorem Binary64.isNegative_withoutSignOfZero (value : Binary64) :
    value.withoutSignOfZero.isNegative = value.isNegative := by
  unfold withoutSignOfZero
  split
  · next hzero => cases value <;> simp_all [isZero, isNegative, zero]
  · rfl

namespace Expr

def withoutSignsOfZero : Expr → Expr
  | number value => number value.withoutSignOfZero
  | symbol name => symbol name
  | control name => control name
  | binary op lhs rhs grouped =>
    binary op lhs.withoutSignsOfZero rhs.withoutSignsOfZero grouped
  | signed sign operand grouped => signed sign operand.withoutSignsOfZero grouped
  | apply name argument => apply name argument.withoutSignsOfZero
  | subscript base index => subscript base.withoutSignsOfZero index.withoutSignsOfZero
  | equation lhs rhs => equation lhs.withoutSignsOfZero rhs.withoutSignsOfZero

/-- Equal formulas are the same but for the signs of zeros. -/
theorem withoutSignsOfZero_eq_of_equal {a b : Expr} (h : a.equal b = true) :
    a.withoutSignsOfZero = b.withoutSignsOfZero := by
  induction a generalizing b with
  | number value =>
    cases b with
    | number value' =>
      rw [withoutSignsOfZero, withoutSignsOfZero, Binary64.withoutSignOfZero_eq_of_equal h]
    | _ => contradiction
  | symbol name | control name =>
    cases b <;> simp_all [equal]
  | binary op lhs rhs grouped hlhs hrhs =>
    cases b with
    | binary op' lhs' rhs' grouped' =>
      simp only [equal, Bool.and_eq_true, decide_eq_true_eq, beq_iff_eq] at h
      obtain ⟨⟨⟨rfl, hl⟩, hr⟩, rfl⟩ := h
      rw [withoutSignsOfZero, withoutSignsOfZero, hlhs hl, hrhs hr]
    | _ => contradiction
  | signed sign operand grouped hoperand =>
    cases b with
    | signed sign' operand' grouped' =>
      simp only [equal, Bool.and_eq_true, decide_eq_true_eq, beq_iff_eq] at h
      obtain ⟨⟨rfl, ho⟩, rfl⟩ := h
      rw [withoutSignsOfZero, withoutSignsOfZero, hoperand ho]
    | _ => contradiction
  | apply name argument hargument =>
    cases b with
    | apply name' argument' =>
      simp only [equal, Bool.and_eq_true, beq_iff_eq] at h
      obtain ⟨rfl, ha⟩ := h
      rw [withoutSignsOfZero, withoutSignsOfZero, hargument ha]
    | _ => contradiction
  | subscript base index hbase hindex =>
    cases b with
    | subscript base' index' =>
      rw [equal, Bool.and_eq_true] at h
      rw [withoutSignsOfZero, withoutSignsOfZero, hbase h.1, hindex h.2]
    | _ => contradiction
  | equation lhs rhs hlhs hrhs =>
    cases b with
    | equation lhs' rhs' =>
      rw [equal, Bool.and_eq_true] at h
      rw [withoutSignsOfZero, withoutSignsOfZero, hlhs h.1, hrhs h.2]
    | _ => contradiction

/-! ## What the printers look at -/

section Looks

variable (expr : Expr) (op : Operator) (grouped : Bool)

@[simp] theorem operator?_withoutSignsOfZero :
    expr.withoutSignsOfZero.operator? = expr.operator? := by
  cases expr <;> rfl

@[simp] theorem isBinary_withoutSignsOfZero :
    expr.withoutSignsOfZero.isBinary = expr.isBinary := by
  cases expr <;> rfl

@[simp] theorem isSigned_withoutSignsOfZero :
    expr.withoutSignsOfZero.isSigned = expr.isSigned := by
  cases expr <;> rfl

@[simp] theorem isSubscript_withoutSignsOfZero :
    expr.withoutSignsOfZero.isSubscript = expr.isSubscript := by
  cases expr <;> rfl

@[simp] theorem isLetter_withoutSignsOfZero :
    expr.withoutSignsOfZero.isLetter = expr.isLetter := by
  cases expr <;> rfl

@[simp] theorem isNegativeNumber_withoutSignsOfZero :
    expr.withoutSignsOfZero.isNegativeNumber = expr.isNegativeNumber := by
  cases expr with
  | number value => exact value.isNegative_withoutSignOfZero
  | _ => rfl

@[simp] theorem needsBracketsLeft_withoutSignsOfZero :
    needsBracketsLeft op expr.withoutSignsOfZero = needsBracketsLeft op expr := by
  simp [needsBracketsLeft, isLooser]

@[simp] theorem needsBracketsRight_withoutSignsOfZero :
    needsBracketsRight op expr.withoutSignsOfZero grouped = needsBracketsRight op expr grouped := by
  simp [needsBracketsRight, isLooser]

@[simp] theorem nestsLeft_withoutSignsOfZero :
    nestsLeft op expr.withoutSignsOfZero = nestsLeft op expr := by
  simp [nestsLeft]

end Looks

theorem toLinear_withoutSignsOfZero (expr : Expr) :
    expr.withoutSignsOfZero.toLinear = expr.toLinear := by
  induction expr with
  | number value => rw [withoutSignsOfZero, toLinear, toLinear, Binary64.withoutSignOfZero_idem]
  | symbol | control => rfl
  | signed sign operand grouped ih => cases sign <;> simp [withoutSignsOfZero, toLinear, ih]
  | _ => simp_all [withoutSignsOfZero, toLinear]

theorem toLatex_withoutSignsOfZero (expr : Expr) :
    expr.withoutSignsOfZero.toLatex = expr.toLatex := by
  induction expr with
  | number value => rw [withoutSignsOfZero, toLatex, toLatex, Binary64.withoutSignOfZero_idem]
  | symbol | control => rfl
  | binary op lhs rhs grouped hlhs hrhs =>
    cases op <;> simp [withoutSignsOfZero, toLatex, hlhs, hrhs]
  | signed sign operand grouped ih => cases sign <;> simp [withoutSignsOfZero, toLatex, ih]
  | _ => simp_all [withoutSignsOfZero, toLatex]

/-! ## Equality -/

/-- A formula holds a value that is not a number if this is one of its nodes. -/
theorem hasNaN_eq_false_iff (expr : Expr) :
    expr.hasNaN = false ↔ number .nan ∉ expr.nodes := by
  induction expr with
  | number value => simp [hasNaN, nodes, eq_comm]
  | symbol | control => simp [hasNaN, nodes]
  | _ => simp_all [hasNaN, nodes]

/-- Equality of formulas is symmetric and transitive, a formula is equal to itself exactly if none of
its numbers is a value that is not a number, and equal formulas are printed alike in both notations
and count alike as negative numbers. -/
theorem equal_isRespected :
    (∀ a b : Expr, a.equal b = true → a.toLinear = b.toLinear ∧ a.toLatex = b.toLatex ∧
      a.isNegativeNumber = b.isNegativeNumber) ∧
    (∀ a b : Expr, a.equal b = true → b.equal a = true) ∧
    (∀ a b c : Expr, a.equal b = true → b.equal c = true → a.equal c = true) ∧
    ∀ a : Expr, a.equal a = true ↔ number .nan ∉ a.nodes := by
  refine ⟨fun a b h ↦ ?_, fun a b h ↦ ?_, fun a b c hab hbc ↦ equal_trans hab hbc, fun a ↦ ?_⟩
  · have hsame := withoutSignsOfZero_eq_of_equal h
    refine ⟨?_, ?_, ?_⟩
    · rw [← toLinear_withoutSignsOfZero a, hsame, toLinear_withoutSignsOfZero]
    · rw [← toLatex_withoutSignsOfZero a, hsame, toLatex_withoutSignsOfZero]
    · rw [← isNegativeNumber_withoutSignsOfZero a, hsame, isNegativeNumber_withoutSignsOfZero]
  · rw [equal_comm, h]
  · rw [equal_self_iff, hasNaN_eq_false_iff]

/-- Powers of zeros with different signs are different formulas, but equal ones. -/
theorem equal_isRespected_power :
    let power (base exponent : Binary64) : Expr :=
      .binary .exponent (.number base) (.number exponent) false
    let negative := Binary64.zero.neg
    power negative .zero ≠ power .zero negative ∧
      (power negative .zero).equal (power .zero negative) = true ∧
      (power .zero negative).equal (power negative .zero) = true ∧
      (power negative .zero).toLinear = (power .zero negative).toLinear ∧
      (power negative .zero).toLatex = (power .zero negative).toLatex ∧
      (number .nan).equal (number .nan) = false := by
  intro power negative
  have hne : power negative .zero ≠ power .zero negative := by decide
  have hleft : (power negative .zero).equal (power .zero .zero) = true := by decide
  have hright : (power .zero .zero).equal (power .zero negative) = true := by decide
  obtain ⟨hprint, hsymm, htrans, hself⟩ := equal_isRespected
  have hequal := htrans _ _ _ hleft hright
  have hnan : ¬(number .nan).equal (number .nan) = true := by
    rw [hself]
    exact not_not_intro List.mem_cons_self
  exact ⟨hne, hequal, hsymm _ _ hequal, (hprint _ _ hequal).1, (hprint _ _ hequal).2.1,
    Bool.eq_false_iff.2 hnan⟩

end Expr

end FormulaText
