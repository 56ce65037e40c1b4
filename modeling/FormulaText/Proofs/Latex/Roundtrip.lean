import FormulaText.Proofs.Latex.Derivation

/-!
# Reading what was printed in LaTeX

A formula that was read, printed in LaTeX and read again is the same up to its records of grouping,
of which none is lost. The second time the records stay as well, because the brackets that the first
reading adds do not change which tokens come last.
-/

namespace FormulaText.Latex

open Grammar

variable {op : Operator} {lhs rhs expr index : Expr} {grouped : Bool} {name : String}

theorem latexKinds_ne_nil (expr : Expr) : expr.latexKinds ≠ [] := by
  induction expr with
  | number value =>
    change value.kinds ≠ []
    unfold Binary64.kinds
    cases value <;> simp only <;> first | exact List.cons_ne_nil _ _ | (split <;> simp)
  | signed sign operand grouped ih =>
    cases sign with
    | plus => exact ih
    | minus => exact List.cons_ne_nil _ _
  | binary op lhs rhs grouped => cases op <;> simp [Expr.latexKinds]
  | apply name argument =>
    rw [Expr.latexKinds]
    split <;> exact List.cons_ne_nil _ _
  | symbol | control | subscript | equation => simp [Expr.latexKinds]

/-! ## The last token of a printed formula -/

theorem endsClosed_binary : endsClosed (Expr.binary op lhs rhs grouped).latexKinds =
    (decide (op = .divide ∨ op = .exponent) ||
      endsClosed (enclosedIf (Expr.needsBracketsRight op rhs grouped) rhs.latexKinds)) := by
  have hright {needed : Bool} : enclosedIf needed rhs.latexKinds ≠ [] :=
    enclosedIf_ne_nil (latexKinds_ne_nil rhs)
  have hbraces : inBraces rhs.latexKinds ≠ [] := List.cons_ne_nil _ _
  cases op with
  | divide =>
    simp only [Expr.latexKinds]
    exact (endsClosed_append _ hbraces).trans endsClosed_inBraces
  | exponent =>
    have hlast := (endsClosed_append [.operator .exponent] hbraces).trans endsClosed_inBraces
    simp only [Expr.latexKinds]
    exact (endsClosed_append _ (List.cons_ne_nil _ _)).trans hlast
  | plus | minus | multiply | modulus =>
    simp only [Expr.latexKinds]
    exact (endsClosed_append _ (List.cons_ne_nil _ _)).trans (endsClosed_append [_] hright)

theorem endsClosed_minus : endsClosed (Expr.signed .minus expr grouped).latexKinds =
    endsClosed (enclosedIf grouped expr.latexKinds) :=
  endsClosed_append [_] (enclosedIf_ne_nil (latexKinds_ne_nil expr))

theorem endsClosed_apply : endsClosed (Expr.apply name expr).latexKinds = true := by
  rw [Expr.latexKinds]
  split
  · exact (endsClosed_append [_] (List.cons_ne_nil _ _)).trans endsClosed_inBraces
  · exact (endsClosed_append [_] (List.cons_ne_nil _ _)).trans endsClosed_enclosedIf_true

/-- A letter is the only index without braces. -/
theorem endsClosed_subscript :
    endsClosed (Expr.subscript expr index).latexKinds = !index.isLetter := by
  rw [Expr.latexKinds]
  cases hletter : index.isLetter with
  | false =>
    refine (endsClosed_append _ (List.cons_ne_nil _ _)).trans ?_
    exact (endsClosed_append [_] (List.cons_ne_nil _ _)).trans endsClosed_inBraces
  | true =>
    refine (endsClosed_append _ (List.cons_ne_nil _ _)).trans ?_
    cases index with
    | symbol name =>
      refine (endsClosed_append [_] (latexKinds_ne_nil _)).trans ?_
      rw [Expr.latexKinds]
      split <;> rfl
    | _ => contradiction

theorem endsClosed_equation :
    endsClosed (Expr.equation lhs rhs).latexKinds = endsClosed rhs.latexKinds :=
  (endsClosed_append _ (List.cons_ne_nil _ _)).trans (endsClosed_append [_] (latexKinds_ne_nil rhs))

/-- A printed formula that is read and printed again ends in a closing bracket if it did before. -/
theorem endsClosed_latexKinds_regroup (h : ∀ node ∈ expr.nodes, node.isEquation = false →
    node.isShaped = true) :
    endsClosed (expr.regroup Expr.latexKinds).latexKinds = endsClosed expr.latexKinds := by
  induction expr with
  | number value =>
    change endsClosed value.withoutSignOfZero.kinds = endsClosed value.kinds
    rw [Binary64.endsClosed_kinds, Binary64.endsClosed_kinds]
  | symbol | control => rfl
  | binary op lhs rhs grouped ihl ihr =>
    rw [Expr.forall_nodes_binary] at h
    rw [Expr.regroup, endsClosed_binary, endsClosed_binary,
      Expr.endsClosed_right_regroup Expr.latexKinds (h.1 rfl) (ihr h.2.2)]
  | signed sign operand grouped ih =>
    rw [Expr.forall_nodes_signed] at h
    cases sign with
    | plus => exact ih h.2
    | minus =>
      rw [Expr.regroup, endsClosed_minus, endsClosed_minus]
      cases grouped with
      | false => exact ih h.2
      | true => rw [endsClosed_enclosedIf_true, endsClosed_enclosedIf_true]
  | apply name argument ih => rw [Expr.regroup, endsClosed_apply, endsClosed_apply]
  | subscript base index ihbase ihindex =>
    rw [Expr.regroup, endsClosed_subscript, endsClosed_subscript, Expr.isLetter_regroup]
  | equation lhs rhs ihl ihr =>
    rw [Expr.forall_nodes_equation] at h
    rw [Expr.regroup, endsClosed_equation, endsClosed_equation, ihr h.2.2]

/-- What is read the second time is what was read the first time. -/
theorem regroup_regroup (h : ∀ node ∈ expr.nodes, node.isEquation = false →
    node.isShaped = true) :
    (expr.regroup Expr.latexKinds).regroup Expr.latexKinds = expr.regroup Expr.latexKinds := by
  induction expr with
  | number value => rw [Expr.regroup, Expr.regroup, Binary64.withoutSignOfZero_idem]
  | symbol | control => rfl
  | binary op lhs rhs grouped ihl ihr =>
    rw [Expr.forall_nodes_binary] at h
    have hright := Expr.endsClosed_right_regroup Expr.latexKinds (h.1 rfl)
      (endsClosed_latexKinds_regroup h.2.2)
    rw [Expr.regroup, Expr.regroup, ihl h.2.1, ihr h.2.2,
      Expr.readsGrouped_regroup Expr.latexKinds op rhs hright]
  | signed sign operand grouped ih =>
    rw [Expr.forall_nodes_signed] at h
    rw [Expr.regroup, Expr.regroup, ih h.2]
  | apply name argument ih =>
    rw [Expr.forall_nodes_apply] at h
    rw [Expr.regroup, Expr.regroup, ih h.2]
  | subscript base index ihbase ihindex =>
    rw [Expr.forall_nodes_subscript] at h
    rw [Expr.regroup, Expr.regroup, ihbase h.2.1, ihindex h.2.2]
  | equation lhs rhs ihl ihr =>
    rw [Expr.forall_nodes_equation] at h
    rw [Expr.regroup, Expr.regroup, ihl h.2.1, ihr h.2.2]

/-! ## Printing and reading -/

theorem isFormula_latexKinds (h : expr.IsFormulaOf (IsPhraseTree .common))
    (hreadable : ∀ node ∈ expr.nodes, node.IsReadable) :
    IsFormula .common expr.latexKinds (some (expr.regroup Expr.latexKinds)) := by
  cases expr with
  | equation lhs rhs =>
    rw [Expr.forall_nodes_equation] at hreadable
    exact .equation (derives_latexKinds h.1 hreadable.2.1).to_sum
      (derives_latexKinds h.2 hreadable.2.2).to_sum
  | _ => exact .sum (derives_latexKinds h hreadable).to_sum

theorem parse_toLatex (h : expr.IsFormulaOf (IsPhraseTree .common))
    (hreadable : ∀ node ∈ expr.nodes, node.IsReadable) :
    parse expr.toLatex = .ok (some (expr.regroup Expr.latexKinds)) := by
  have hgives := gives_toLatex (forall_isSpelled h)
  exact parse_eq_ok_iff.2 ⟨expr.latexKinds, hgives, isFormula_latexKinds h hreadable⟩

/-- A formula that was read in either notation is read again from its LaTeX text. What is read
differs at most in records of grouping, none is lost, and from then on printing and reading changes
nothing at all. Plus signs, minus signs before something with an index, and infinite numbers are
not read as they are printed. -/
theorem parse_toLatex_of_parse {text : String}
    (hparse : parse text = .ok (some expr) ∨ Linear.parse text = .ok (some expr))
    (hreadable : ∀ node ∈ expr.nodes, node.isPlusSign = false ∧ node.isMinusOfSubscript = false ∧
      node.isNonfinite = false) :
    ∃ again, parse expr.toLatex = .ok (some again) ∧
      again.clearGrouping.equal expr.clearGrouping = true ∧
      expr.groupingWithin again = true ∧
      ∃ last, parse again.toLatex = .ok (some last) ∧ last.equal again = true := by
  have htree : expr.IsFormulaOf (IsPhraseTree .common) := by
    rcases hparse with hparse | hparse
    · exact isFormulaOf_of_parse hparse
    · exact Linear.isFormulaOf_of_parse hparse
  have hshaped := forall_isShaped htree
  have hfinite (node : Expr) (hnode : node ∈ expr.nodes) : node.isNonfinite = false :=
    (hreadable node hnode).2.2
  have hfirst := parse_toLatex htree hreadable
  refine ⟨expr.regroup Expr.latexKinds, hfirst, Expr.equal_clearGrouping_regroup _ hfinite,
    Expr.groupingWithin_regroup _ hshaped, ?_⟩
  have hagain := Expr.forall_isReadable_regroup Expr.latexKinds hreadable
  have hsecond := parse_toLatex (isFormulaOf_of_parse hfirst) hagain
  rw [regroup_regroup hshaped] at hsecond
  exact ⟨_, hsecond, Expr.equal_self_of_finite fun node hnode ↦ (hagain node hnode).2.2⟩

/-- The power ends in a brace once it is printed, so the minus before it becomes grouped. -/
theorem parse_toLatex_of_parse_power :
    let power := Expr.binary .exponent (.symbol "b") (.number .one) false
    let expr := Expr.binary .minus (.symbol "a") power false
    parse "a-b^1" = .ok (some expr) ∧ ∃ again, parse expr.toLatex = .ok (some again) ∧
      again.clearGrouping.equal expr.clearGrouping = true ∧
      expr.groupingWithin again = true ∧
      ∃ last, parse again.toLatex = .ok (some last) ∧ last.equal again = true := by
  intro power expr
  have hparse : parse "a-b^1" = .ok (some expr) := eq_ok_of_toOption (by decide +kernel)
  exact ⟨hparse, parse_toLatex_of_parse (.inl hparse) (by decide)⟩

end FormulaText.Latex
