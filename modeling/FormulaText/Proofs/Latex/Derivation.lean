import FormulaText.Proofs.Latex.Printing

/-!
# The phrase of a printed formula

The tokens of a formula printed in LaTeX are a phrase of the grammar, and they stand for the formula
itself up to its records of grouping. Each bracket that is left out stands at a place where the tier
of the operand fits.
-/

namespace FormulaText

open Grammar

namespace Latex

/-- The tier of an operation printed in LaTeX. A fraction is as tight as a name. -/
def tierOf (op : Operator) : Category := if op = .divide then .named else category op

variable {op : Operator} {lhs rhs expr : Expr} {grouped : Bool} {name : String}

/-- A left operand without brackets is tight enough. -/
theorem rank_left (hequation : lhs.isEquation = false)
    (h : (Expr.needsBracketsLeft op lhs || Expr.nestsLeft op lhs) = false) :
    (lhs.printedCategory tierOf).rank ≤ (leftCategory op).rank := by
  refine Expr.rank_printedCategory hequation (rank_leftCategory op) fun inner hinner ↦ ?_
  simp only [Expr.needsBracketsLeft, Expr.isLooser, Expr.nestsLeft, hinner, Option.any_some,
    Bool.or_eq_false_iff] at h
  have hlooser := h.1.1
  have hnests := h.2
  revert hlooser hnests
  cases op <;> cases inner <;> decide

/-- A right operand without brackets is tight enough. -/
theorem rank_right (hequation : rhs.isEquation = false) (hdivide : op ≠ .divide)
    (hexponent : op ≠ .exponent) (h : Expr.needsBracketsRight op rhs grouped = false) :
    (rhs.printedCategory tierOf).rank ≤ (rightCategory op).rank := by
  refine Expr.rank_printedCategory hequation (rank_rightCategory op) fun inner hinner ↦ ?_
  simp only [Expr.needsBracketsRight, Expr.isLooser, hinner, Option.any_some,
    Bool.or_eq_false_iff] at h
  have hlooser := h.1.1.1.1
  revert hlooser hdivide hexponent
  cases op <;> cases inner <;> decide

theorem roleOf_ne_function_of_sqrt (h : Text.equalIgnoringAsciiCase name "sqrt" = true) :
    roleOf .common name ≠ .function := by
  unfold roleOf
  rw [if_pos h]
  split <;> exact Role.noConfusion

theorem rereads_symbol (name : String) : (Expr.symbol name).Rereads Expr.latexKinds tierOf := by
  unfold Expr.Rereads
  rw [Expr.latexKinds]
  split
  · next hletter =>
    have hphrase := Derives.plain false (roleOf_of_isGreekLetter hletter)
    rw [plainName, Bool.false_or, if_pos hletter] at hphrase
    exact hphrase.to_operand (by decide)
  · exact .symbol name

theorem rereads_control (h : (Expr.control name).IsSpelled .common) :
    (Expr.control name).Rereads Expr.latexKinds tierOf := by
  obtain ⟨-, hrole, hletter⟩ := h
  have hphrase := Derives.plain false hrole
  rw [plainName, Bool.false_or, if_neg (by simp [hletter])] at hphrase
  exact hphrase.to_operand (by decide)

section

variable {loose other : Category} {left right value : Expr}

/-- A printed operation is one of what its operands are read as. -/
theorem derives_binary (hlhs : Derives .common loose lhs.latexKinds left)
    (hrhs : Derives .common other rhs.latexKinds right) (hbinary : right.isBinary = rhs.isBinary)
    (hleft : (Expr.needsBracketsLeft op lhs || Expr.nestsLeft op lhs) = false →
      loose.rank ≤ (leftCategory op).rank)
    (hright : op ≠ .divide → op ≠ .exponent → Expr.needsBracketsRight op rhs grouped = false →
      other.rank ≤ (rightCategory op).rank) :
    Derives .common (tierOf op) (Expr.binary op lhs rhs grouped).latexKinds
      (.binary op left right (Expr.readsGrouped op rhs
        (enclosedIf (Expr.needsBracketsRight op rhs grouped) rhs.latexKinds))) := by
  by_cases hdivide : op = .divide
  · subst hdivide
    exact .fraction false (by decide) hlhs.inBraces hrhs.inBraces
  have houter := hlhs.enclosed (Nat.le_of_lt (rank_leftCategory op)) hleft
  by_cases hexponent : op = .exponent
  · subst hexponent
    exact .raised houter (hrhs.inBraces.to_power (by decide))
  have hinner := hrhs.enclosed (Nat.le_of_lt (rank_rightCategory op)) (hright hdivide hexponent)
  have hoperation := houter.operation op hinner
  have htier : tierOf op = category op := if_neg hdivide
  rw [hbinary, ← htier] at hoperation
  cases op with
  | divide | exponent => contradiction
  | plus | minus | multiply | modulus =>
    simpa only [Expr.latexKinds, Expr.readsGrouped] using hoperation

theorem derives_apply (hspelled : (Expr.apply name expr).IsSpelled .common)
    (h : Derives .common loose expr.latexKinds value) :
    Derives .common .operand (Expr.apply name expr).latexKinds (.apply name value) := by
  rw [Expr.latexKinds]
  split
  · next hsqrt =>
    have hroot : name = "sqrt" := by
      rcases hspelled with hroot | ⟨-, hrole⟩
      · exact hroot
      · exact absurd hrole (roleOf_ne_function_of_sqrt hsqrt)
    subst hroot
    have hroot := Derives.root false (by decide : roleOf .common "sqrt" = .root) h.inBraces
      (by rw [head?_inBraces]; decide)
    exact hroot.to_operand (by decide)
  · next hsqrt =>
    rcases hspelled with rfl | ⟨-, hrole⟩
    · exact absurd (by decide) hsqrt
    · exact (Derives.application false hrole (h.inParentheses.to_operand (by decide))).to_operand
        (by decide)

/-- An index has braces unless it is a letter. -/
theorem derives_index {index : Expr} (h : Derives .common loose index.latexKinds value)
    (hletter : index.isLetter = true → Derives .common .operand index.latexKinds value) :
    Derives .common .operand
      (if index.isLetter then index.latexKinds else inBraces index.latexKinds) value := by
  split
  · next hindex => exact hletter hindex
  · exact h.inBraces.to_operand (by decide)

end

theorem rereads_binary (hleft : lhs.isEquation = false) (hright : rhs.isEquation = false)
    (hlhs : lhs.Rereads Expr.latexKinds tierOf) (hrhs : rhs.Rereads Expr.latexKinds tierOf) :
    (Expr.binary op lhs rhs grouped).Rereads Expr.latexKinds tierOf :=
  derives_binary hlhs hrhs (Expr.isBinary_regroup _ rhs) (rank_left hleft) (rank_right hright)

theorem rereads_apply (hspelled : (Expr.apply name expr).IsSpelled .common)
    (h : expr.Rereads Expr.latexKinds tierOf) :
    (Expr.apply name expr).Rereads Expr.latexKinds tierOf :=
  derives_apply hspelled h

theorem rereads_subscript {base index : Expr} (hbase : base.isEquation = false)
    (h : base.Rereads Expr.latexKinds tierOf) (hindex : index.Rereads Expr.latexKinds tierOf) :
    (Expr.subscript base index).Rereads Expr.latexKinds tierOf := by
  have hleft : Derives .common .operand
      (enclosedIf (base.isBinary || base.isSubscript) base.latexKinds) _ :=
    h.enclosed (Nat.le_refl _) (Expr.rank_printedCategory_of_isBinary hbase)
  refine .indexed hleft (.subscript_of_operand (derives_index hindex fun hletter ↦ ?_))
  cases index with
  | symbol name => exact hindex
  | _ => contradiction

/-- The tokens of a printed formula are a phrase for the formula that is read. -/
theorem derives_latexKinds {expr : Expr} (htree : IsPhraseTree .common expr)
    (hreadable : ∀ node ∈ expr.nodes, node.IsReadable) :
    expr.Rereads Expr.latexKinds tierOf := by
  induction expr with
  | number value =>
    have hfinite := (hreadable _ (Expr.self_mem_nodes _)).2.2
    exact Binary64.derives_kinds (by simpa [Expr.isNonfinite] using hfinite)
  | symbol name => exact rereads_symbol name
  | control name => exact rereads_control (htree _ (Expr.self_mem_nodes _)).2
  | binary op lhs rhs grouped ihl ihr =>
    have hnodes := Expr.forall_nodes_binary.1 htree
    rw [Expr.forall_nodes_binary] at hreadable
    exact rereads_binary (IsPhraseTree.isEquation hnodes.2.1) (IsPhraseTree.isEquation hnodes.2.2)
      (ihl hnodes.2.1 hreadable.2.1) (ihr hnodes.2.2 hreadable.2.2)
  | signed sign operand grouped ih =>
    have hnodes := Expr.forall_nodes_signed.1 htree
    rw [Expr.forall_nodes_signed] at hreadable
    cases sign with
    | plus => exact absurd hreadable.1.1 (by simp [Expr.isPlusSign])
    | minus =>
      exact (ih hnodes.2 hreadable.2).minus hnodes.1.1 (IsPhraseTree.isEquation hnodes.2)
        hreadable.1.2.1
  | apply name argument ih =>
    have hnodes := Expr.forall_nodes_apply.1 htree
    rw [Expr.forall_nodes_apply] at hreadable
    exact rereads_apply hnodes.1.2 (ih hnodes.2 hreadable.2)
  | subscript base index ihbase ihindex =>
    have hnodes := Expr.forall_nodes_subscript.1 htree
    rw [Expr.forall_nodes_subscript] at hreadable
    exact rereads_subscript (IsPhraseTree.isEquation hnodes.2.1) (ihbase hnodes.2.1 hreadable.2.1)
      (ihindex hnodes.2.2 hreadable.2.2)
  | equation => exact absurd (htree _ (Expr.self_mem_nodes _)).1 (by simp [Expr.isShaped])

end Latex

end FormulaText
