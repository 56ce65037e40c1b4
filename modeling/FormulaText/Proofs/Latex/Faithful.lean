import FormulaText.Proofs.Latex.Rereading

/-!
# When printed LaTeX is read as it was

Reading a printed formula moves a minus sign from something with an index to its base. So fewer
nodes stand below the sign, and nowhere do more, which shows that the formula is then another one.
Where no sign is moved only records of grouping can change.
-/

namespace FormulaText

open Grammar

namespace Expr

/-- How many nodes stand below signs, where each counts once for each sign above it. -/
def belowSigns : Expr → Nat
  | number _ | symbol _ | control _ => 0
  | binary _ lhs rhs _ => lhs.belowSigns + rhs.belowSigns
  | signed _ operand _ => operand.nodes.length + operand.belowSigns
  | apply _ argument => argument.belowSigns
  | subscript base index => base.belowSigns + index.belowSigns
  | equation lhs rhs => lhs.belowSigns + rhs.belowSigns

/-- Equal formulas have equally many nodes, as many of them below signs. -/
theorem counts_eq_of_equal {a b : Expr} (h : a.equal b = true) :
    a.nodes.length = b.nodes.length ∧ a.belowSigns = b.belowSigns := by
  induction a generalizing b with
  | number | symbol | control => cases b <;> first | exact ⟨rfl, rfl⟩ | contradiction
  | binary op lhs rhs grouped ihl ihr =>
    cases b with
    | binary =>
      simp only [equal, Bool.and_eq_true] at h
      have hleft := ihl h.1.1.2
      have hright := ihr h.1.2
      simp [nodes, belowSigns, hleft, hright]
    | _ => contradiction
  | signed sign operand grouped ih =>
    cases b with
    | signed =>
      simp only [equal, Bool.and_eq_true] at h
      simp [nodes, belowSigns, ih h.1.2]
    | _ => contradiction
  | apply name argument ih =>
    cases b with
    | apply =>
      simp only [equal, Bool.and_eq_true] at h
      simp [nodes, belowSigns, ih h.2]
    | _ => contradiction
  | subscript base index ihbase ihindex =>
    cases b with
    | subscript =>
      simp only [equal, Bool.and_eq_true] at h
      simp [nodes, belowSigns, ihbase h.1, ihindex h.2]
    | _ => contradiction
  | equation lhs rhs ihl ihr =>
    cases b with
    | equation =>
      simp only [equal, Bool.and_eq_true] at h
      simp [nodes, belowSigns, ihl h.1, ihr h.2]
    | _ => contradiction

/-! ## Nodes and signs of what is read -/

section

variable (base other index : Expr) (indices : List Expr)

theorem length_nodes_indexed_concat : (indexed base (indices ++ [index])).nodes.length =
    (indexed base indices).nodes.length + index.nodes.length + 1 := by
  induction indices generalizing base with
  | nil => simp [indexed, nodes]
  | cons first indices ih =>
    simp only [List.cons_append, indexed, nodes, List.length_cons, List.length_append, ih]
    omega

theorem belowSigns_indexed_concat : (indexed base (indices ++ [index])).belowSigns =
    (indexed base indices).belowSigns + index.belowSigns := by
  induction indices generalizing base with
  | nil => rfl
  | cons first indices ih =>
    simp only [List.cons_append, indexed, belowSigns, ih]
    omega

/-- The same indices behind two formulas have equally many nodes. -/
theorem length_nodes_indexed_add : (indexed base indices).nodes.length + other.nodes.length =
    (indexed other indices).nodes.length + base.nodes.length := by
  cases indices with
  | nil => exact Nat.add_comm _ _
  | cons first indices =>
    simp only [indexed, nodes, List.length_cons, List.length_append]
    omega

theorem belowSigns_indexed_add : (indexed base indices).belowSigns + other.belowSigns =
    (indexed other indices).belowSigns + base.belowSigns := by
  cases indices with
  | nil => exact Nat.add_comm _ _
  | cons first indices =>
    simp only [indexed, belowSigns]
    omega

theorem length_nodes_le_indexed :
    base.nodes.length ≤ (indexed base indices).nodes.length := by
  cases indices with
  | nil => exact Nat.le_refl _
  | cons first indices =>
    simp only [indexed, nodes, List.length_cons, List.length_append]
    omega

end

theorem length_nodes_withSign_le (sign : Sign) (value : Expr) (closed : Bool) :
    (withSign sign value closed).nodes.length ≤ value.nodes.length + 1 := by
  cases sign <;> cases value <;> simp [withSign, nodes]

theorem belowSigns_withSign_le (sign : Sign) (value : Expr) (closed : Bool) :
    (withSign sign value closed).belowSigns ≤ value.nodes.length + value.belowSigns := by
  cases sign <;> cases value <;> simp [withSign, belowSigns]

section

variable {op : Operator} {lhs rhs base index operand argument : Expr} {grouped : Bool} {sign : Sign}
  {name : String}

theorem length_nodes_reread_subscript : (subscript base index).reread.nodes.length =
    base.reread.nodes.length + index.reread.nodes.length + 1 := by
  cases hneeded : base.isBinary || base.isSubscript with
  | true =>
    rw [reread, spine_subscript_of_bracketed hneeded]
    exact length_nodes_indexed_concat base.reread index.reread []
  | false =>
    rw [reread, spine_subscript hneeded]
    exact length_nodes_indexed_concat _ _ _

theorem belowSigns_reread_subscript : (subscript base index).reread.belowSigns =
    base.reread.belowSigns + index.reread.belowSigns := by
  cases hneeded : base.isBinary || base.isSubscript with
  | true =>
    rw [reread, spine_subscript_of_bracketed hneeded]
    exact belowSigns_indexed_concat base.reread index.reread []
  | false =>
    rw [reread, spine_subscript hneeded]
    exact belowSigns_indexed_concat _ _ _

theorem length_nodes_reread_signed_le : (signed sign operand grouped).reread.nodes.length ≤
    operand.reread.nodes.length + 1 := by
  have hsigned := length_nodes_withSign_le sign operand.spine.1 true
  have hindices := length_nodes_indexed_add (withSign sign operand.spine.1 true) operand.spine.1
    operand.spine.2
  rw [reread_signed, reread]
  omega

/-- The sign of something with indices is read as the sign of what begins it. -/
theorem belowSigns_reread_signed_le : (signed sign operand grouped).reread.belowSigns ≤
    operand.spine.1.nodes.length + operand.reread.belowSigns := by
  have hsigned := belowSigns_withSign_le sign operand.spine.1 true
  have hindices := belowSigns_indexed_add (withSign sign operand.spine.1 true) operand.spine.1
    operand.spine.2
  rw [reread_signed, reread]
  omega

end

theorem length_nodes_reread_le (expr : Expr) :
    expr.reread.nodes.length ≤ expr.nodes.length := by
  induction expr with
  | number | symbol | control => exact Nat.le_refl _
  | binary op lhs rhs grouped ihl ihr =>
    simp only [reread_binary, nodes, List.length_cons, List.length_append]
    omega
  | signed sign operand grouped ih =>
    refine Nat.le_trans length_nodes_reread_signed_le ?_
    simp only [nodes, List.length_cons]
    omega
  | apply name argument ih =>
    simp only [reread_apply, nodes, List.length_cons]
    omega
  | subscript base index ihbase ihindex =>
    rw [length_nodes_reread_subscript]
    simp only [nodes, List.length_cons, List.length_append]
    omega
  | equation lhs rhs ihl ihr =>
    simp only [reread_equation, nodes, List.length_cons, List.length_append]
    omega

theorem length_nodes_spine_le (expr : Expr) :
    expr.spine.1.nodes.length ≤ expr.nodes.length :=
  Nat.le_trans (length_nodes_le_indexed _ _) (length_nodes_reread_le expr)

/-- What begins something with indices has fewer nodes. -/
theorem length_nodes_spine_subscript_le {base index : Expr} :
    (subscript base index).spine.1.nodes.length ≤ base.nodes.length := by
  cases hneeded : base.isBinary || base.isSubscript with
  | true =>
    rw [spine_subscript_of_bracketed hneeded]
    exact length_nodes_reread_le base
  | false =>
    rw [spine_subscript hneeded]
    exact length_nodes_spine_le base

theorem belowSigns_reread_le (expr : Expr) : expr.reread.belowSigns ≤ expr.belowSigns := by
  induction expr with
  | number | symbol | control => exact Nat.le_refl _
  | binary op lhs rhs grouped ihl ihr => exact Nat.add_le_add ihl ihr
  | signed sign operand grouped ih =>
    exact Nat.le_trans belowSigns_reread_signed_le
      (Nat.add_le_add (length_nodes_spine_le operand) ih)
  | apply name argument ih => exact ih
  | subscript base index ihbase ihindex =>
    rw [belowSigns_reread_subscript]
    exact Nat.add_le_add ihbase ihindex
  | equation lhs rhs ihl ihr => exact Nat.add_le_add ihl ihr

/-- Where no fewer nodes stand below signs, no sign is moved. -/
theorem isMinusOfSubscript_of_belowSigns_eq {expr : Expr}
    (h : expr.reread.belowSigns = expr.belowSigns) :
    ∀ node ∈ expr.nodes, node.isMinusOfSubscript = false := by
  induction expr with
  | number | symbol | control => simp [nodes, isMinusOfSubscript]
  | binary op lhs rhs grouped ihl ihr =>
    have hleft := belowSigns_reread_le lhs
    have hright := belowSigns_reread_le rhs
    rw [reread_binary, belowSigns, belowSigns] at h
    exact forall_nodes_binary.2 ⟨rfl, ihl (by omega), ihr (by omega)⟩
  | signed sign operand grouped ih =>
    have hreread : (signed sign operand grouped).reread.belowSigns ≤ _ :=
      belowSigns_reread_signed_le
    have hspine := length_nodes_spine_le operand
    have hoperand := belowSigns_reread_le operand
    rw [h, belowSigns] at hreread
    refine forall_nodes_signed.2 ⟨?_, ih (by omega)⟩
    cases operand with
    | subscript base index =>
      have hfewer : (subscript base index).spine.1.nodes.length ≤ base.nodes.length :=
        length_nodes_spine_subscript_le
      simp only [nodes, List.length_cons, List.length_append] at hreread
      omega
    | _ => cases sign <;> rfl
  | apply name argument ih => exact forall_nodes_apply.2 ⟨rfl, ih h⟩
  | subscript base index ihbase ihindex =>
    have hbase := belowSigns_reread_le base
    have hindex := belowSigns_reread_le index
    rw [belowSigns_reread_subscript, belowSigns] at h
    exact forall_nodes_subscript.2 ⟨rfl, ihbase (by omega), ihindex (by omega)⟩
  | equation lhs rhs ihl ihr =>
    have hleft := belowSigns_reread_le lhs
    have hright := belowSigns_reread_le rhs
    rw [reread_equation, belowSigns, belowSigns] at h
    exact forall_nodes_equation.2 ⟨rfl, ihl (by omega), ihr (by omega)⟩

/-! ## Records of grouping -/

theorem needsBracketsRight_minus_of_isBinary {rhs : Expr} (h : rhs.isBinary = true) :
    needsBracketsRight .minus rhs false = false := by
  obtain ⟨op, left, right, grouped, rfl⟩ := isBinary_iff.1 h
  simp [needsBracketsRight, isLooser, operator?, Operator.tier, isSigned]

/-- A node keeps its record of grouping unless it gains one. -/
theorem readsGrouped_eq_iff {op : Operator} {lhs rhs : Expr} {grouped : Bool}
    (hshaped : (binary op lhs rhs grouped).isShaped = true) :
    readsGrouped op rhs (enclosedIf (needsBracketsRight op rhs grouped) rhs.latexKinds) = grouped ↔
      (binary op lhs rhs grouped).gainsGrouping = false := by
  cases grouped with
  | true =>
    have hgrouped : readsGrouped op rhs (enclosedIf true rhs.latexKinds) = true := by
      rw [readsGrouped, endsClosed_enclosedIf_true, Bool.and_true]
      simpa [isShaped] using hshaped
    rw [needsBracketsRight_of_grouped, hgrouped]
    exact ⟨fun _ ↦ rfl, fun _ ↦ rfl⟩
  | false =>
    rw [gainsGrouping, Bool.not_false, Bool.true_and]
    by_cases hminus : op = .minus ∧ rhs.isBinary = true
    · obtain ⟨rfl, hbinary⟩ := hminus
      rw [needsBracketsRight_minus_of_isBinary hbinary, enclosedIf_false]
    · have hnever (kinds : List Token.Kind) : readsGrouped op rhs kinds = false := by
        rw [readsGrouped, ← Bool.and_assoc, Bool.and_eq_false_iff]
        exact .inl (by simpa using hminus)
      rw [hnever, hnever]

/-- A formula that is read with other records of grouping equals itself exactly if no record is
gained. -/
theorem equal_regroup_iff {expr : Expr}
    (hshaped : ∀ node ∈ expr.nodes, node.isEquation = false → node.isShaped = true)
    (hfinite : ∀ node ∈ expr.nodes, node.isNonfinite = false) :
    (expr.regroup latexKinds).equal expr = true ↔
      ∀ node ∈ expr.nodes, node.gainsGrouping = false := by
  induction expr with
  | number value =>
    have hequal : (number value.withoutSignOfZero).equal (number value) = true :=
      Binary64.equal_withoutSignOfZero (by simpa [nodes, isNonfinite] using hfinite)
    simpa [regroup, nodes, gainsGrouping] using hequal
  | symbol | control => simp [regroup, equal, nodes, gainsGrouping]
  | binary op lhs rhs grouped ihl ihr =>
    rw [forall_nodes_binary] at hshaped hfinite ⊢
    rw [← ihl hshaped.2.1 hfinite.2.1, ← ihr hshaped.2.2 hfinite.2.2,
      ← readsGrouped_eq_iff (hshaped.1 rfl)]
    simp [regroup, equal, and_comm, and_assoc]
  | signed sign operand grouped ih =>
    rw [forall_nodes_signed] at hshaped hfinite ⊢
    rw [← ih hshaped.2 hfinite.2]
    simp [regroup, equal, gainsGrouping]
  | apply name argument ih =>
    rw [forall_nodes_apply] at hshaped hfinite ⊢
    rw [← ih hshaped.2 hfinite.2]
    simp [regroup, equal, gainsGrouping]
  | subscript base index ihbase ihindex =>
    rw [forall_nodes_subscript] at hshaped hfinite ⊢
    rw [← ihbase hshaped.2.1 hfinite.2.1, ← ihindex hshaped.2.2 hfinite.2.2]
    simp [regroup, equal, gainsGrouping]
  | equation lhs rhs ihl ihr =>
    rw [forall_nodes_equation] at hshaped hfinite ⊢
    rw [← ihl hshaped.2.1 hfinite.2.1, ← ihr hshaped.2.2 hfinite.2.2]
    simp [regroup, equal, gainsGrouping]

end Expr

namespace Latex

variable {expr : Expr}

/-- A formula without plus signs and infinite numbers that was read from LaTeX is always read again
from its LaTeX text. What is read equals it exactly if no minus sign stands right before something
with an index, and no minus without a record of grouping stands before an operation that is printed
with a closing bracket at its end. -/
theorem parse_toLatex_equal_iff {text : String} (hparse : parse text = .ok (some expr))
    (hprintable : ∀ node ∈ expr.nodes, node.isPlusSign = false ∧ node.isNonfinite = false) :
    ∃ again, parse expr.toLatex = .ok (some again) ∧
      (again.equal expr = true ↔
        ∀ node ∈ expr.nodes, node.isMinusOfSubscript = false ∧ node.gainsGrouping = false) := by
  have htree := isFormulaOf_of_parse hparse
  have hreread := parse_toLatex_eq_reread htree hprintable
  have hfinite (node : Expr) (hnode : node ∈ expr.nodes) : node.isNonfinite = false :=
    (hprintable node hnode).2
  -- where no sign is moved, only records of grouping can change
  have hregroup (h : ∀ node ∈ expr.nodes, node.isMinusOfSubscript = false) :
      expr.reread = expr.regroup Expr.latexKinds := by
    have hreadable (node : Expr) (hnode : node ∈ expr.nodes) : node.IsReadable :=
      ⟨(hprintable node hnode).1, h node hnode, hfinite node hnode⟩
    have hparsed := parse_toLatex htree hreadable
    rw [hreread] at hparsed
    exact Option.some.inj (Except.ok.inj hparsed)
  refine ⟨expr.reread, hreread, ?_⟩
  constructor
  · intro hequal
    have hsigns := Expr.isMinusOfSubscript_of_belowSigns_eq (Expr.counts_eq_of_equal hequal).2
    rw [hregroup hsigns, Expr.equal_regroup_iff (forall_isShaped htree) hfinite] at hequal
    exact fun node hnode ↦ ⟨hsigns node hnode, hequal node hnode⟩
  · intro h
    rw [hregroup fun node hnode ↦ (h node hnode).1,
      Expr.equal_regroup_iff (forall_isShaped htree) hfinite]
    exact fun node hnode ↦ (h node hnode).2

theorem parse_toLatex_equal_iff_difference :
    let expr := Expr.binary .minus (.symbol "a") (.binary .plus (.symbol "b") (.symbol "c") false)
      true
    parse "a-(b+c)" = .ok (some expr) ∧
      ∃ again, parse expr.toLatex = .ok (some again) ∧
        (again.equal expr = true ↔
          ∀ node ∈ expr.nodes, node.isMinusOfSubscript = false ∧ node.gainsGrouping = false) := by
  intro expr
  have hparse : parse "a-(b+c)" = .ok (some expr) := eq_ok_of_toOption (by decide +kernel)
  exact ⟨hparse, parse_toLatex_equal_iff hparse (by decide)⟩

/-- The minus of `a-b^c` becomes grouped, and the sign of `-(x_1)` moves to the base. -/
theorem parse_toLatex_not_equal :
    (∃ expr again, parse "a-b^c" = .ok (some expr) ∧
      (∀ node ∈ expr.nodes, node.isPlusSign = false ∧ node.isNonfinite = false) ∧
        parse expr.toLatex = .ok (some again) ∧ again.equal expr = false) ∧
    ∃ expr again, parse "-(x_1)" = .ok (some expr) ∧
      (∀ node ∈ expr.nodes, node.isPlusSign = false ∧ node.isNonfinite = false) ∧
        parse expr.toLatex = .ok (some again) ∧ again.equal expr = false := by
  refine ⟨⟨.binary .minus (.symbol "a") (.binary .exponent (.symbol "b") (.symbol "c") false) false,
    .binary .minus (.symbol "a") (.binary .exponent (.symbol "b") (.symbol "c") false) true,
    eq_ok_of_toOption (by decide +kernel), by decide, eq_ok_of_toOption (by decide +kernel), rfl⟩,
    ⟨.signed .minus (.subscript (.symbol "x") (.number .one)) false,
      .subscript (.signed .minus (.symbol "x") false) (.number .one),
      eq_ok_of_toOption (by decide +kernel), by decide, eq_ok_of_toOption (by decide +kernel), rfl⟩⟩

end Latex

end FormulaText
