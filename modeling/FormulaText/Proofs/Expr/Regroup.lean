import FormulaText.Proofs.Grammar.Shape
import FormulaText.Proofs.Grammar.Tiers
import FormulaText.Proofs.Number.Spelling

/-!
# Formulas that are printed and read again

A printed formula is read with the records of grouping that its text suggests: a minus is grouped
if what is printed on its right is an operation that ends in a closing bracket. Nothing else
changes but the sign of zero.
-/

namespace FormulaText

open Grammar

namespace Expr

/-- The tier of a printed formula, given the tiers of operations in print. -/
def printedCategory (tierOf : Operator → Category) : Expr → Category
  | binary op _ _ _ => tierOf op
  | subscript _ _ => .subscript
  | equation _ _ => .sum
  | _ => .operand

/-- What is no operation fits wherever something with an index does. -/
theorem rank_printedCategory {tierOf : Operator → Category} {tier : Category} {expr : Expr}
    (hequation : expr.isEquation = false) (htier : Category.subscript.rank ≤ tier.rank)
    (h : ∀ op, expr.operator? = some op → (tierOf op).rank ≤ tier.rank) :
    (expr.printedCategory tierOf).rank ≤ tier.rank := by
  have hoperand : Category.operand.rank ≤ Category.subscript.rank := by decide
  cases expr with
  | binary op lhs rhs grouped => exact h op rfl
  | subscript => exact htier
  | equation => contradiction
  | _ => exact Nat.le_trans hoperand htier

theorem rank_printedCategory_of_isBinary {tierOf : Operator → Category} {expr : Expr}
    (hequation : expr.isEquation = false) (h : (expr.isBinary || expr.isSubscript) = false) :
    (expr.printedCategory tierOf).rank ≤ Category.operand.rank := by
  cases expr with
  | binary | subscript | equation => contradiction
  | _ => exact Nat.le_refl _

/-- Whether a node is read back as it is printed: it is no plus sign, no minus sign right before
something with an index, and no infinite number. -/
def IsReadable (expr : Expr) : Prop :=
  expr.isPlusSign = false ∧ expr.isMinusOfSubscript = false ∧ expr.isNonfinite = false

/-- Whether a minus before an operand is read as grouped, where `kinds` are the tokens that are
printed for the operand. -/
def readsGrouped (op : Operator) (rhs : Expr) (kinds : List Token.Kind) : Bool :=
  op = .minus && (rhs.isBinary && endsClosed kinds)

/-- The formula that is read for a formula whose parts are printed as the tokens `kinds`. -/
def regroup (kinds : Expr → List Token.Kind) : Expr → Expr
  | number value => number value.withoutSignOfZero
  | symbol name => symbol name
  | control name => control name
  | binary op lhs rhs grouped =>
    binary op (lhs.regroup kinds) (rhs.regroup kinds)
      (readsGrouped op rhs (enclosedIf (needsBracketsRight op rhs grouped) (kinds rhs)))
  | signed sign operand grouped => signed sign (operand.regroup kinds) grouped
  | apply name argument => apply name (argument.regroup kinds)
  | subscript base index => subscript (base.regroup kinds) (index.regroup kinds)
  | equation lhs rhs => equation (lhs.regroup kinds) (rhs.regroup kinds)

section

variable (kinds : Expr → List Token.Kind) (expr : Expr)

@[simp] theorem operator?_regroup : (expr.regroup kinds).operator? = expr.operator? := by
  cases expr <;> rfl

@[simp] theorem isBinary_regroup : (expr.regroup kinds).isBinary = expr.isBinary := by
  cases expr <;> rfl

@[simp] theorem isSigned_regroup : (expr.regroup kinds).isSigned = expr.isSigned := by
  cases expr <;> rfl

@[simp] theorem isSubscript_regroup : (expr.regroup kinds).isSubscript = expr.isSubscript := by
  cases expr <;> rfl

@[simp] theorem isNumber_regroup : (expr.regroup kinds).isNumber = expr.isNumber := by
  cases expr <;> rfl

@[simp] theorem isLetter_regroup : (expr.regroup kinds).isLetter = expr.isLetter := by
  cases expr <;> rfl

@[simp] theorem isLooser_regroup (op : Operator) :
    (expr.regroup kinds).isLooser op = expr.isLooser op := by
  rw [isLooser, isLooser, operator?_regroup]

@[simp] theorem isNegativeNumber_regroup :
    (expr.regroup kinds).isNegativeNumber = expr.isNegativeNumber := by
  cases expr with
  | number value =>
    change value.withoutSignOfZero.isNegative = value.isNegative
    unfold Binary64.withoutSignOfZero
    split
    · next hzero => cases value <;> simp_all [Binary64.isZero, Binary64.isNegative, Binary64.zero]
    · rfl
  | _ => rfl

@[simp] theorem needsBracketsRight_regroup (op : Operator) (grouped : Bool) :
    needsBracketsRight op (expr.regroup kinds) grouped = needsBracketsRight op expr grouped := by
  simp only [needsBracketsRight, isLooser_regroup, isNegativeNumber_regroup, isBinary_regroup,
    isSigned_regroup]

end

/-- Only records of grouping and the sign of zero are changed. -/
theorem equal_clearGrouping_regroup (kinds : Expr → List Token.Kind) {expr : Expr}
    (h : ∀ node ∈ expr.nodes, node.isNonfinite = false) :
    (expr.regroup kinds).clearGrouping.equal expr.clearGrouping = true := by
  induction expr with
  | number value =>
    have hfinite := h _ (self_mem_nodes _)
    exact Binary64.equal_withoutSignOfZero (by simpa [isNonfinite] using hfinite)
  | symbol | control => simp [regroup, clearGrouping, equal]
  | binary op lhs rhs grouped hlhs hrhs =>
    rw [forall_nodes_binary] at h
    simp [regroup, clearGrouping, equal, hlhs h.2.1, hrhs h.2.2]
  | signed sign operand grouped hoperand =>
    rw [forall_nodes_signed] at h
    simp [regroup, clearGrouping, equal, hoperand h.2]
  | apply name argument hargument =>
    rw [forall_nodes_apply] at h
    simp [regroup, clearGrouping, equal, hargument h.2]
  | subscript base index hbase hindex =>
    rw [forall_nodes_subscript] at h
    simp [regroup, clearGrouping, equal, hbase h.2.1, hindex h.2.2]
  | equation lhs rhs hlhs hrhs =>
    rw [forall_nodes_equation] at h
    simp [regroup, clearGrouping, equal, hlhs h.2.1, hrhs h.2.2]

theorem needsBracketsRight_of_grouped (op : Operator) (rhs : Expr) :
    needsBracketsRight op rhs true = true := by
  simp [needsBracketsRight]

/-- A grouped node stays grouped, because its brackets are printed. -/
theorem groupingWithin_regroup (kinds : Expr → List Token.Kind) {expr : Expr}
    (h : ∀ node ∈ expr.nodes, node.isEquation = false → node.isShaped = true) :
    expr.groupingWithin (expr.regroup kinds) = true := by
  induction expr with
  | number | symbol | control => rfl
  | binary op lhs rhs grouped hlhs hrhs =>
    rw [forall_nodes_binary] at h
    have hshaped := h.1 rfl
    have hgrouped : grouped = true →
        readsGrouped op rhs (enclosedIf (needsBracketsRight op rhs grouped) (kinds rhs)) = true := by
      rintro rfl
      rw [needsBracketsRight_of_grouped, readsGrouped, endsClosed_enclosedIf_true, Bool.and_true]
      simpa [isShaped] using hshaped
    cases grouped with
    | false => simp [regroup, groupingWithin, hlhs h.2.1, hrhs h.2.2]
    | true => simp [regroup, groupingWithin, hlhs h.2.1, hrhs h.2.2, hgrouped rfl]
  | signed sign operand grouped hoperand =>
    rw [forall_nodes_signed] at h
    simp [regroup, groupingWithin, hoperand h.2]
  | apply name argument hargument =>
    rw [forall_nodes_apply] at h
    simp [regroup, groupingWithin, hargument h.2]
  | subscript base index hbase hindex =>
    rw [forall_nodes_subscript] at h
    simp [regroup, groupingWithin, hbase h.2.1, hindex h.2.2]
  | equation lhs rhs hlhs hrhs =>
    rw [forall_nodes_equation] at h
    simp [regroup, groupingWithin, hlhs h.2.1, hrhs h.2.2]

/-! ## Phrases of printed formulas -/

section Rereads

variable {kinds : Expr → List Token.Kind} {tierOf : Operator → Category} {op : Operator}
  {expr lhs rhs : Expr} {grouped needed : Bool}

/-- The tokens of a printed formula are a phrase of its tier, for the formula that is read. -/
def Rereads (kinds : Expr → List Token.Kind) (tierOf : Operator → Category) (expr : Expr) : Prop :=
  Derives .common (expr.printedCategory tierOf) (kinds expr) (expr.regroup kinds)

/-- An operation, if its operands have brackets where they are too loose for it. -/
theorem Rereads.operation (hlhs : lhs.Rereads kinds tierOf) (hrhs : rhs.Rereads kinds tierOf)
    (hleft : needed = false → (lhs.printedCategory tierOf).rank ≤ (leftCategory op).rank)
    (hright : needsBracketsRight op rhs grouped = false →
      (rhs.printedCategory tierOf).rank ≤ (rightCategory op).rank) :
    Derives .common (category op)
      (enclosedIf needed (kinds lhs) ++
        .operator op :: enclosedIf (needsBracketsRight op rhs grouped) (kinds rhs))
      ((binary op lhs rhs grouped).regroup kinds) := by
  have houter := hlhs.enclosed (Nat.le_of_lt (rank_leftCategory op)) hleft
  have hinner := hrhs.enclosed (Nat.le_of_lt (rank_rightCategory op)) hright
  have hoperation := houter.operation op hinner
  rw [isBinary_regroup] at hoperation
  exact hoperation

/-- A minus sign, before an operand that has brackets if it is an operation. -/
theorem Rereads.minus (h : expr.Rereads kinds tierOf)
    (hshaped : (signed .minus expr grouped).isShaped = true)
    (hequation : expr.isEquation = false) (hsubscript : expr.isSubscript = false) :
    Derives .common .operand (.operator .minus :: enclosedIf grouped (kinds expr))
      ((signed .minus expr grouped).regroup kinds) := by
  simp only [isShaped, Bool.and_eq_true, Bool.not_eq_true', beq_iff_eq] at hshaped
  obtain ⟨hnumber, hgrouped⟩ := hshaped
  have hbinary : grouped = expr.isBinary := by simpa using hgrouped
  have hoperand : Derives .common .operand (enclosedIf grouped (kinds expr))
      (expr.regroup kinds) := by
    refine h.enclosed (Nat.le_refl _) fun hopen ↦ ?_
    refine rank_printedCategory_of_isBinary hequation ?_
    rw [← hbinary, hopen, hsubscript, Bool.or_false]
  have hphrase := hoperand.signed .minus
  rw [withSign_minus (by rw [isNumber_regroup, hnumber]), isBinary_regroup, ← hbinary] at hphrase
  cases grouped with
  | false => exact hphrase
  | true =>
    rw [endsClosed_enclosedIf_true] at hphrase
    exact hphrase

end Rereads

/-! ## Reading a second time -/

theorem nodes_regroup (kinds : Expr → List Token.Kind) (expr : Expr) :
    (expr.regroup kinds).nodes = expr.nodes.map (regroup kinds) := by
  induction expr with
  | number | symbol | control => rfl
  | binary op lhs rhs grouped hlhs hrhs => simp [regroup, nodes, hlhs, hrhs]
  | signed sign operand grouped hoperand => simp [regroup, nodes, hoperand]
  | apply name argument hargument => simp [regroup, nodes, hargument]
  | subscript base index hbase hindex => simp [regroup, nodes, hbase, hindex]
  | equation lhs rhs hlhs hrhs => simp [regroup, nodes, hlhs, hrhs]

theorem isReadable_regroup (kinds : Expr → List Token.Kind) (expr : Expr) :
    (expr.regroup kinds).IsReadable ↔ expr.IsReadable := by
  cases expr with
  | number value =>
    simp [regroup, IsReadable, isPlusSign, isMinusOfSubscript, isNonfinite,
      Binary64.isFinite_withoutSignOfZero]
  | signed sign operand grouped =>
    cases sign <;> simp [regroup, IsReadable, isPlusSign, isMinusOfSubscript, isNonfinite]
  | _ => exact Iff.rfl

theorem forall_isReadable_regroup (kinds : Expr → List Token.Kind) {expr : Expr}
    (h : ∀ node ∈ expr.nodes, node.IsReadable) :
    ∀ node ∈ (expr.regroup kinds).nodes, node.IsReadable := by
  rw [nodes_regroup, List.forall_mem_map]
  intro node hnode
  exact (isReadable_regroup kinds node).2 (h node hnode)

theorem readsGrouped_regroup (kinds : Expr → List Token.Kind) (op : Operator) (rhs : Expr)
    {first second : List Token.Kind} (h : endsClosed first = endsClosed second) :
    readsGrouped op (rhs.regroup kinds) first = readsGrouped op rhs second := by
  rw [readsGrouped, readsGrouped, isBinary_regroup, h]

/-- The brackets of a right operand end it with a closing bracket the second time if they did so the
first time: those that the first reading adds stand around what ends in one already. -/
theorem endsClosed_right_regroup (kinds : Expr → List Token.Kind) {op : Operator} {lhs rhs : Expr}
    {grouped : Bool} (hshaped : (binary op lhs rhs grouped).isShaped = true)
    (h : endsClosed (kinds (rhs.regroup kinds)) = endsClosed (kinds rhs)) :
    endsClosed (enclosedIf (needsBracketsRight op (rhs.regroup kinds)
      (readsGrouped op rhs (enclosedIf (needsBracketsRight op rhs grouped) (kinds rhs))))
        (kinds (rhs.regroup kinds))) =
      endsClosed (enclosedIf (needsBracketsRight op rhs grouped) (kinds rhs)) := by
  rw [needsBracketsRight_regroup]
  cases grouped with
  | true =>
    have hminus : readsGrouped op rhs (enclosedIf true (kinds rhs)) = true := by
      rw [readsGrouped, endsClosed_enclosedIf_true, Bool.and_true]
      simpa [isShaped] using hshaped
    rw [needsBracketsRight_of_grouped, hminus, needsBracketsRight_of_grouped,
      endsClosed_enclosedIf_true, endsClosed_enclosedIf_true]
  | false =>
    cases hneeded : needsBracketsRight op rhs false with
    | true =>
      have hstill (again : Bool) : needsBracketsRight op rhs again = true := by
        cases again with
        | false => exact hneeded
        | true => exact needsBracketsRight_of_grouped op rhs
      rw [hstill, endsClosed_enclosedIf_true, endsClosed_enclosedIf_true]
    | false =>
      cases hreads : readsGrouped op rhs (enclosedIf false (kinds rhs)) with
      | false => rw [hneeded, enclosedIf_false, enclosedIf_false, h]
      | true =>
        rw [readsGrouped, Bool.and_eq_true, Bool.and_eq_true] at hreads
        rw [needsBracketsRight_of_grouped, endsClosed_enclosedIf_true, hreads.2.2]

end Expr

end FormulaText
