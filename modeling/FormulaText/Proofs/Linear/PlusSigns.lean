import FormulaText.Proofs.Linear.Twins

/-!
# Plus signs in print

A plus sign is not printed, but it changes brackets. An operation behind a plus sign has none on the
left of an operator, even if it is looser than the operator, and it always has some on the right.
The plus signs of a formula are idle if these brackets are: then its text and that of the formula
without plus signs are read as equal formulas, and else they are not.

Two results say it of the formula itself, with no rows and no edges. Plus signs before single
operands are always idle (`arePlusSignsIdle_of_links`). A plus sign before an operation on the left
of an operator that it is too loose for never is (`arePlusSignsIdle_eq_false`).
-/

namespace FormulaText

open Grammar Linear

namespace Expr

/-- The same formula without its plus signs. -/
def withoutPlus : Expr → Expr
  | number value => number value
  | symbol name => symbol name
  | control name => control name
  | binary op lhs rhs grouped => binary op lhs.withoutPlus rhs.withoutPlus grouped
  | signed .plus operand _ => operand.withoutPlus
  | signed .minus operand grouped => signed .minus operand.withoutPlus grouped
  | apply name argument => apply name argument.withoutPlus
  | subscript base index => subscript base.withoutPlus index.withoutPlus
  | equation lhs rhs => equation lhs.withoutPlus rhs.withoutPlus

/-- An edge of what stands in brackets where these are needed. -/
def edgeIf (needed : Bool) (edge : Category) : Category := if needed then .sum else edge

/-- Whether the brackets are idle that plus signs take on the left of operators or add on the right.
In the text of the formula, `before` is the loosest phrase that may stand behind what comes before
it. In the text without plus signs, `behind` is the loosest phrase that may stand before what comes
behind it. -/
def arePlusSignsIdle (before behind : Category) : Expr → Bool
  | number _ | symbol _ | control _ => true
  | binary op lhs rhs grouped =>
    (lhs.arePlusSignsIdle (edgeIf (needsBracketsLeft op lhs) before)
        (edgeIf (needsBracketsLeft op lhs.withoutPlus) (leftCategory op)) &&
      (needsBracketsLeft op lhs == needsBracketsLeft op lhs.withoutPlus ||
        lhs.row.fits ⟨before, leftCategory op⟩)) &&
    (rhs.arePlusSignsIdle (edgeIf (needsBracketsRight op rhs grouped) (rightCategory op))
        (edgeIf (needsBracketsRight op rhs.withoutPlus grouped) behind) &&
      (needsBracketsRight op rhs grouped == needsBracketsRight op rhs.withoutPlus grouped ||
        rhs.withoutPlus.row.fits ⟨rightCategory op, behind⟩))
  | signed .plus operand _ => operand.arePlusSignsIdle before behind
  | signed .minus operand grouped =>
    operand.arePlusSignsIdle (edgeIf grouped .operand) (edgeIf grouped behind)
  | apply _ argument => argument.arePlusSignsIdle .sum .sum
  | subscript base index =>
    base.arePlusSignsIdle before .operand &&
      index.arePlusSignsIdle (edgeIf (!index.isLetter) .subscript)
        (edgeIf (!index.withoutPlus.isLetter) behind)
  | equation lhs rhs => lhs.arePlusSignsIdle .sum .sum && rhs.arePlusSignsIdle .sum .sum

variable {expr lhs rhs index : Expr} {op : Operator} {grouped grouped' : Bool}

/-! ## Brackets with and without plus signs -/

theorem needsBracketsLeft_withoutPlus (h : needsBracketsLeft op expr = true) :
    needsBracketsLeft op expr.withoutPlus = true := by
  cases expr with
  | signed sign =>
    cases sign <;> simp [needsBracketsLeft, isLooser, isNegativeNumber, operator?] at h
  | _ => exact h

theorem needsBracketsRight_withoutPlus
    (h : needsBracketsRight op expr.withoutPlus grouped = true) :
    needsBracketsRight op expr grouped = true := by
  cases expr with
  | signed sign operand => simp [needsBracketsRight, isSigned]
  | _ => exact h

theorem isLetter_withoutPlus (h : expr.isLetter = true) : expr.withoutPlus = expr := by
  cases expr <;> first | rfl | contradiction

theorem fits_row_of_isLetter (h : expr.isLetter = true) (edges : Edges) :
    expr.row.fits edges = true := by
  cases expr <;> first | rfl | contradiction

/-- A property of nodes holds without plus signs if no node loses it in this way. -/
theorem forall_nodes_withoutPlus {P : Expr → Prop}
    (hkeeps : ∀ node : Expr, node.isPlusSign = false → P node → P node.withoutPlus)
    (h : ∀ node ∈ expr.nodes, P node) : ∀ node ∈ expr.withoutPlus.nodes, P node := by
  induction expr with
  | number | symbol | control => exact h
  | binary op lhs rhs grouped ihl ihr =>
    obtain ⟨hnode, hlhs, hrhs⟩ := forall_nodes_binary.1 h
    exact forall_nodes_binary.2 ⟨hkeeps _ rfl hnode, ihl hlhs, ihr hrhs⟩
  | signed sign operand grouped ih =>
    obtain ⟨hnode, hoperand⟩ := forall_nodes_signed.1 h
    cases sign with
    | plus => exact ih hoperand
    | minus => exact forall_nodes_signed.2 ⟨hkeeps _ rfl hnode, ih hoperand⟩
  | apply name argument ih =>
    obtain ⟨hnode, hargument⟩ := forall_nodes_apply.1 h
    exact forall_nodes_apply.2 ⟨hkeeps _ rfl hnode, ih hargument⟩
  | subscript base index ihbase ihindex =>
    obtain ⟨hnode, hbase, hindex⟩ := forall_nodes_subscript.1 h
    exact forall_nodes_subscript.2 ⟨hkeeps _ rfl hnode, ihbase hbase, ihindex hindex⟩
  | equation lhs rhs ihl ihr =>
    obtain ⟨hnode, hlhs, hrhs⟩ := forall_nodes_equation.1 h
    exact forall_nodes_equation.2 ⟨hkeeps _ rfl hnode, ihl hlhs, ihr hrhs⟩

theorem isSpelled_withoutPlus {vocabulary : Vocabulary} (hplus : expr.isPlusSign = false)
    (h : expr.IsSpelled vocabulary) : expr.withoutPlus.IsSpelled vocabulary := by
  cases expr with
  | signed sign => cases sign <;> trivial
  | _ => exact h

theorem isEquation_withoutPlus (hplus : expr.isPlusSign = false)
    (h : expr.isEquation = false) : expr.withoutPlus.isEquation = false := by
  cases expr with
  | signed sign => cases sign <;> first | rfl | contradiction
  | _ => exact h

/-! ## Plus signs that are idle, and some that are not -/

theorem needsBracketsLeft_of_isPlusSign_eq_false (h : expr.isPlusSign = false) :
    needsBracketsLeft op expr.withoutPlus = needsBracketsLeft op expr := by
  cases expr with
  | signed sign => cases sign <;> first | rfl | contradiction
  | _ => rfl

theorem needsBracketsRight_of_isPlusSign_eq_false (h : expr.isPlusSign = false) :
    needsBracketsRight op expr.withoutPlus grouped = needsBracketsRight op expr grouped := by
  cases expr with
  | signed sign => cases sign <;> first | rfl | contradiction
  | _ => rfl

/-- Plus signs are idle where each stands before what is printed as one operand. -/
theorem arePlusSignsIdle_of_links
    (h : ∀ node ∈ expr.nodes, node.isPlusSign = true →
      node.row.links = [] ∧ node.withoutPlus.row.links = []) (before behind : Category) :
    expr.arePlusSignsIdle before behind = true := by
  induction expr generalizing before behind with
  | number | symbol | control => rfl
  | binary op lhs rhs grouped ihl ihr =>
    obtain ⟨-, hlhs, hrhs⟩ := forall_nodes_binary.1 h
    rw [arePlusSignsIdle, ihl hlhs, ihr hrhs, Bool.true_and, Bool.true_and, Bool.and_eq_true]
    constructor
    · cases hplus : lhs.isPlusSign with
      | false => simp [needsBracketsLeft_of_isPlusSign_eq_false hplus]
      | true => simp [Row.fits, (hlhs _ lhs.self_mem_nodes hplus).1]
    · cases hplus : rhs.isPlusSign with
      | false => simp [needsBracketsRight_of_isPlusSign_eq_false hplus]
      | true => simp [Row.fits, (hrhs _ rhs.self_mem_nodes hplus).2]
  | signed sign operand grouped ih =>
    have hoperand := ih (forall_nodes_signed.1 h).2
    cases sign with
    | plus => exact hoperand _ _
    | minus => exact hoperand _ _
  | apply name argument ih => exact ih (forall_nodes_apply.1 h).2 _ _
  | subscript base index ihbase ihindex =>
    obtain ⟨-, hbase, hindex⟩ := forall_nodes_subscript.1 h
    rw [arePlusSignsIdle, ihbase hbase, ihindex hindex, Bool.true_and]
  | equation lhs rhs ihl ihr =>
    obtain ⟨-, hlhs, hrhs⟩ := forall_nodes_equation.1 h
    rw [arePlusSignsIdle, ihl hlhs, ihr hrhs, Bool.true_and]

/-- The operator behind plus signs is a link of the row. -/
theorem mem_links_of_operator? {inner : Operator} (h : expr.withoutPlus.operator? = some inner) :
    .operator inner ∈ expr.row.links := by
  induction expr with
  | binary op lhs rhs grouped =>
    obtain rfl := Option.some.inj h
    simp [row, Row.links_append]
  | signed sign operand grouped ih =>
    cases sign with
    | plus => exact ih h
    | minus => contradiction
  | _ => contradiction

/-- A plus sign is never idle on the left of an operator, before an operation that needs brackets
there and is too loose to stand there without. -/
theorem arePlusSignsIdle_eq_false {inner : Operator}
    (hmem : binary op (signed .plus lhs grouped') rhs grouped ∈ expr.nodes)
    (hinner : lhs.withoutPlus.operator? = some inner)
    (hneeded : needsBracketsLeft op lhs.withoutPlus = true)
    (hloose : (leftCategory op).rank < (category inner).rank) (before behind : Category) :
    expr.arePlusSignsIdle before behind = false := by
  induction expr generalizing before behind with
  | number | symbol | control => simp [nodes] at hmem
  | binary op' lhs' rhs' grouped' ihl ihr =>
    rw [nodes, List.mem_cons, List.mem_append] at hmem
    rcases hmem with hself | hlhs | hrhs
    · obtain ⟨rfl, rfl, rfl, rfl⟩ := Expr.binary.inj hself
      have hbare : needsBracketsLeft op (signed .plus lhs grouped') = false := by
        simp [needsBracketsLeft, isLooser, isNegativeNumber, operator?]
      have hfits : lhs.row.fits ⟨before, leftCategory op⟩ = false := by
        rw [Bool.eq_false_iff]
        intro hfits
        have hlink := Row.fits_iff.1 hfits _ (mem_links_of_operator? hinner)
        exact absurd hlink.2 (Nat.not_le_of_lt hloose)
      rw [arePlusSignsIdle, hbare, withoutPlus, hneeded, row, hfits, Bool.or_false,
        (by rfl : (false == true) = false), Bool.and_false, Bool.false_and]
    · rw [arePlusSignsIdle, ihl hlhs, Bool.false_and, Bool.false_and]
    · rw [arePlusSignsIdle, ihr hrhs, Bool.false_and, Bool.and_false]
  | signed sign operand grouped ih =>
    rw [nodes, List.mem_cons] at hmem
    have hoperand := ih (hmem.resolve_left Expr.noConfusion)
    cases sign with
    | plus => exact hoperand _ _
    | minus => exact hoperand _ _
  | apply name argument ih =>
    rw [nodes, List.mem_cons] at hmem
    exact ih (hmem.resolve_left Expr.noConfusion) _ _
  | subscript base index ihbase ihindex =>
    rw [nodes, List.mem_cons, List.mem_append] at hmem
    rcases hmem.resolve_left Expr.noConfusion with hbase | hindex
    · rw [arePlusSignsIdle, ihbase hbase, Bool.false_and]
    · rw [arePlusSignsIdle, ihindex hindex, Bool.and_false]
  | equation lhs rhs ihl ihr =>
    rw [nodes, List.mem_cons, List.mem_append] at hmem
    rcases hmem.resolve_left Expr.noConfusion with hlhs | hrhs
    · rw [arePlusSignsIdle, ihl hlhs, Bool.false_and]
    · rw [arePlusSignsIdle, ihr hrhs, Bool.and_false]

/-! ## The two rows of a formula -/

/-- The row of a formula and that of the formula without plus signs. -/
def twin : Expr → TwinRow
  | number value =>
    match numberRow value with
    | .last operand | .more operand _ _ => .last (.plain operand)
  | symbol name | control name => .last (.plain (.symbol name))
  | binary op lhs rhs grouped =>
    (lhs.twin.bracketedIf (needsBracketsLeft op lhs)
        (needsBracketsLeft op lhs.withoutPlus)).append (.operator op)
      (rhs.twin.bracketedIf (needsBracketsRight op rhs grouped)
        (needsBracketsRight op rhs.withoutPlus grouped))
  | signed .plus operand _ => operand.twin
  | signed .minus operand grouped => (operand.twin.bracketedIf grouped grouped).negated
  | apply name argument => .last (.call name argument.twin)
  | subscript base index =>
    base.twin.append .index
      (index.twin.bracketedIf (!index.isLetter) (!index.withoutPlus.isLetter))
  | equation lhs _ => lhs.twin

theorem numberRow_eq_last (value : Binary64) : ∃ operand, numberRow value = .last operand := by
  cases value with
  | finite negative magnitude =>
    rw [numberRow]
    split <;> exact ⟨_, rfl⟩
  | infinite negative => cases negative <;> exact ⟨_, rfl⟩
  | nan => exact ⟨_, rfl⟩

theorem twin_number (value : Binary64) :
    ∃ operand, numberRow value = .last operand ∧ (number value).twin = .last (.plain operand) := by
  obtain ⟨operand, h⟩ := numberRow_eq_last value
  exact ⟨operand, h, by rw [twin, h]⟩

theorem on_twin (expr : Expr) :
    expr.twin.on .first = expr.row ∧ expr.twin.on .second = expr.withoutPlus.row := by
  induction expr with
  | number value =>
    obtain ⟨operand, hrow, htwin⟩ := twin_number value
    rw [htwin, withoutPlus, row, hrow]
    exact ⟨rfl, rfl⟩
  | symbol | control => exact ⟨rfl, rfl⟩
  | binary op lhs rhs grouped ihl ihr =>
    simp only [twin, withoutPlus, row, TwinRow.on_append, TwinRow.on_first_bracketedIf,
      TwinRow.on_second_bracketedIf, ihl, ihr, and_self]
  | signed sign operand grouped ih =>
    cases sign with
    | plus => exact ih
    | minus =>
      simp only [twin, withoutPlus, row, TwinRow.on_negated, TwinRow.on_first_bracketedIf,
        TwinRow.on_second_bracketedIf, ih, and_self]
  | apply name argument ih =>
    simp only [twin, withoutPlus, row, TwinRow.on, TwinOperand.on, ih, and_self]
  | subscript base index ihbase ihindex =>
    simp only [twin, withoutPlus, row, TwinRow.on_append, TwinRow.on_first_bracketedIf,
      TwinRow.on_second_bracketedIf, ihbase, ihindex, and_self]
  | equation lhs rhs ihl ihr => exact ihl

/-- Brackets of both rows are wide edges for what is in them, and those of one row have to fit. -/
theorem isIdle_bracketedIf_iff
    (h : ∀ edges, expr.twin.IsIdle edges ↔
      expr.arePlusSignsIdle (edges .first).before (edges .second).behind = true)
    (first second : Bool) (edges : Side → Edges) :
    (expr.twin.bracketedIf first second).IsIdle edges ↔
      expr.arePlusSignsIdle (edgeIf first (edges .first).before)
          (edgeIf second (edges .second).behind) = true ∧
        (first = true ∨ second = false ∨ expr.row.fits (edges .first) = true) ∧
        (first = false ∨ second = true ∨ expr.withoutPlus.row.fits (edges .second) = true) := by
  obtain ⟨hfirst, hsecond⟩ := on_twin expr
  cases first <;> cases second <;>
    simp [TwinRow.bracketedIf, TwinRow.IsIdle, TwinOperand.IsIdle, Side.other, edgeIf, h,
      Edges.wide, hfirst, hsecond]

/-- The two rows of a formula differ in idle brackets exactly if its plus signs are idle. -/
theorem isIdle_twin_iff (hequation : ∀ node ∈ expr.nodes, node.isEquation = false)
    (edges : Side → Edges) :
    expr.twin.IsIdle edges ↔
      expr.arePlusSignsIdle (edges .first).before (edges .second).behind = true := by
  induction expr generalizing edges with
  | number value =>
    obtain ⟨operand, -, htwin⟩ := twin_number value
    rw [htwin]
    exact iff_of_true trivial rfl
  | symbol | control => exact iff_of_true trivial rfl
  | binary op lhs rhs grouped ihl ihr =>
    obtain ⟨-, hlhs, hrhs⟩ := forall_nodes_binary.1 hequation
    have hleft := @needsBracketsLeft_withoutPlus lhs op
    have hright := @needsBracketsRight_withoutPlus rhs op grouped
    rw [twin, TwinRow.isIdle_append, isIdle_bracketedIf_iff (ihl hlhs),
      isIdle_bracketedIf_iff (ihr hrhs), arePlusSignsIdle]
    simp only [Bool.and_eq_true, Bool.or_eq_true, beq_iff_eq]
    -- on the left only the second row may have the brackets, and on the right only the first one
    refine and_congr (and_congr_right fun _ ↦ ?_) (and_congr_right fun _ ↦ ?_)
    · generalize needsBracketsLeft op lhs = first, needsBracketsLeft op lhs.withoutPlus = second
        at hleft
      cases first <;> cases second <;> simp_all [Link.tierBefore]
    · generalize needsBracketsRight op rhs grouped = first,
        needsBracketsRight op rhs.withoutPlus grouped = second at hright
      cases first <;> cases second <;> simp_all [Link.tierBehind]
  | signed sign operand grouped ih =>
    have hoperand := ih (forall_nodes_signed.1 hequation).2
    cases sign with
    | plus => exact hoperand edges
    | minus =>
      rw [twin, TwinRow.isIdle_negated, isIdle_bracketedIf_iff hoperand, arePlusSignsIdle]
      cases grouped <;> simp
  | apply name argument ih => exact ih (forall_nodes_apply.1 hequation).2 _
  | subscript base index ihbase ihindex =>
    obtain ⟨-, hbase, hindex⟩ := forall_nodes_subscript.1 hequation
    rw [twin, TwinRow.isIdle_append, ihbase hbase, isIdle_bracketedIf_iff (ihindex hindex),
      arePlusSignsIdle, Bool.and_eq_true]
    refine and_congr_right fun _ ↦ and_iff_left ⟨?_, ?_⟩
    · cases hletter : index.isLetter with
      | false => exact .inl rfl
      | true => exact .inr (.inl (by rw [isLetter_withoutPlus hletter, hletter]; rfl))
    · cases hletter : index.withoutPlus.isLetter with
      | false => exact .inr (.inl rfl)
      | true => exact .inr (.inr (fits_row_of_isLetter hletter _))
  | equation lhs rhs => exact absurd (hequation _ (self_mem_nodes _)) (by simp [isEquation])

/-! ## Reading both texts -/

/-- A formula with known names is printed as a legible row. -/
theorem isLegible_row (h : ∀ node ∈ expr.nodes, node.IsSpelled .common) : expr.row.IsLegible := by
  induction expr with
  | number value =>
    obtain ⟨negative, magnitude⟩ | negative | _ := value
    · rw [row, numberRow]
      split <;> rfl
    · cases negative <;> trivial
    · trivial
  | symbol | control => trivial
  | binary op lhs rhs grouped ihl ihr =>
    obtain ⟨-, hlhs, hrhs⟩ := forall_nodes_binary.1 h
    simp [row, ihl hlhs, ihr hrhs]
  | signed sign operand grouped ih =>
    have hoperand := ih (forall_nodes_signed.1 h).2
    cases sign with
    | plus => exact hoperand
    | minus => simpa [row] using hoperand
  | apply name argument ih =>
    obtain ⟨hname, hargument⟩ := forall_nodes_apply.1 h
    exact ⟨hname.imp_right And.right, ih hargument⟩
  | subscript base index ihbase ihindex =>
    obtain ⟨-, hbase, hindex⟩ := forall_nodes_subscript.1 h
    simp [row, ihbase hbase, ihindex hindex]
  | equation lhs rhs ihl => exact ihl (forall_nodes_equation.1 h).2.1

/-- The tokens of a formula and those of the formula without plus signs are phrases for formulas
that are equal exactly if the plus signs are idle. -/
theorem exists_derives_withoutPlus (htree : IsPhraseTree .common expr) :
    ∃ again unsigned, Derives .common .sum expr.linearKinds again ∧
      Derives .common .sum expr.withoutPlus.linearKinds unsigned ∧
      (again.clearGrouping.equal unsigned.clearGrouping = true ↔
        expr.arePlusSignsIdle .sum .sum = true) := by
  have hspelled (node : Expr) (hnode : node ∈ expr.nodes) := (htree node hnode).2
  have hequation (node : Expr) (hnode : node ∈ expr.nodes) :=
    isEquation_of_isShaped (htree node hnode).1
  have hlegible (side : Side) : (expr.twin.on side).IsLegible := by
    cases side with
    | first => rw [(on_twin expr).1]; exact isLegible_row hspelled
    | second =>
      rw [(on_twin expr).2]
      exact isLegible_row (forall_nodes_withoutPlus (fun _ ↦ isSpelled_withoutPlus) hspelled)
  obtain ⟨value, hmeans, hiff⟩ := TwinRow.exists_means_iff hlegible
  have hderives (side : Side) : ∃ found,
      Derives .common .sum (expr.twin.on side).kinds found ∧ found.clearGrouping = value side :=
    (hmeans side).exists_derives (by decide) fun link _ ↦ rank_le_wide link.tier
  obtain ⟨again, hagain, hfirst⟩ := hderives .first
  obtain ⟨unsigned, hunsigned, hsecond⟩ := hderives .second
  rw [(on_twin expr).1, ← linearKinds_eq hequation] at hagain
  rw [(on_twin expr).2, ← linearKinds_eq
    (forall_nodes_withoutPlus (fun _ ↦ isEquation_withoutPlus) hequation)] at hunsigned
  rw [isIdle_twin_iff hequation, ← hfirst, ← hsecond] at hiff
  exact ⟨again, unsigned, hagain, hunsigned, hiff⟩

/-- The same, with an equals sign between the sides of an equation. -/
theorem exists_isFormula_withoutPlus (htree : expr.IsFormulaOf (IsPhraseTree .common)) :
    ∃ again unsigned, IsFormula .common expr.linearKinds (some again) ∧
      IsFormula .common expr.withoutPlus.linearKinds (some unsigned) ∧
      (again.clearGrouping.equal unsigned.clearGrouping = true ↔
        expr.arePlusSignsIdle .sum .sum = true) := by
  cases expr with
  | equation lhs rhs =>
    obtain ⟨left, left', hleft, hleft', hleftiff⟩ := exists_derives_withoutPlus htree.1
    obtain ⟨right, right', hright, hright', hrightiff⟩ := exists_derives_withoutPlus htree.2
    refine ⟨_, _, .equation hleft hright, .equation hleft' hright', ?_⟩
    rw [clearGrouping, clearGrouping, equal, arePlusSignsIdle, Bool.and_eq_true, Bool.and_eq_true,
      hleftiff, hrightiff]
  | _ =>
    obtain ⟨again, unsigned, hagain, hunsigned, hiff⟩ := exists_derives_withoutPlus htree
    exact ⟨again, unsigned, .sum hagain, .sum hunsigned, hiff⟩

end Expr

namespace Linear

variable {expr : Expr} {text : String}

/-- The linear text of a formula that was read, and that of the formula without plus signs, can
always be read. They are read as formulas that are equal up to records of grouping exactly if the
plus signs are idle. -/
theorem parse_toLinear_withoutPlus_iff
    (hparse : Latex.parse text = .ok (some expr) ∨ parse text = .ok (some expr)) :
    ∃ again unsigned, parse expr.toLinear = .ok (some again) ∧
      parse expr.withoutPlus.toLinear = .ok (some unsigned) ∧
      (again.clearGrouping.equal unsigned.clearGrouping = true ↔
        expr.arePlusSignsIdle .sum .sum = true) := by
  have htree : expr.IsFormulaOf (IsPhraseTree .common) := by
    rcases hparse with hparse | hparse
    · exact Latex.isFormulaOf_of_parse hparse
    · exact isFormulaOf_of_parse hparse
  have hspelled := forall_isSpelled htree
  have hunspelled := Expr.forall_nodes_withoutPlus (fun _ ↦ Expr.isSpelled_withoutPlus) hspelled
  obtain ⟨again, unsigned, hagain, hunsigned, hiff⟩ := Expr.exists_isFormula_withoutPlus htree
  exact ⟨again, unsigned, (parse_eq_ok_iff_of_gives (gives_toLinear hspelled)).2 hagain,
    (parse_eq_ok_iff_of_gives (gives_toLinear hunspelled)).2 hunsigned, hiff⟩

/-- The brackets of an exponent and of the right operand of a minus are idle. -/
theorem parse_toLinear_withoutPlus_iff_difference :
    let product := Expr.binary .multiply (.symbol "b") (.symbol "c") false
    let power := Expr.binary .exponent (.signed .plus (.symbol "x") false)
      (.signed .plus (.symbol "y") false) false
    let expr := Expr.binary .minus power (.signed .plus product false) false
    Latex.parse "+x^+y-+(b*c)" = .ok (some expr) ∧
      expr.toLinear = "x^(y)-(b*c)" ∧ expr.withoutPlus.toLinear = "x^y-b*c" ∧
      ∃ again unsigned, parse expr.toLinear = .ok (some again) ∧
        parse expr.withoutPlus.toLinear = .ok (some unsigned) ∧
        again.clearGrouping.equal unsigned.clearGrouping = true := by
  intro product power expr
  have hparse : Latex.parse "+x^+y-+(b*c)" = .ok (some expr) :=
    eq_ok_of_toOption (by decide +kernel)
  obtain ⟨again, unsigned, hagain, hunsigned, hiff⟩ := parse_toLinear_withoutPlus_iff (.inl hparse)
  exact ⟨hparse, by decide, by decide, again, unsigned, hagain, hunsigned, hiff.2 (by decide)⟩

/-- The brackets of a sum behind a plus sign are lost on the left of a product. -/
theorem parse_toLinear_withoutPlus_ne :
    ∃ expr again unsigned, Latex.parse "+(a+b)c" = .ok (some expr) ∧
      parse expr.toLinear = .ok (some again) ∧
      parse expr.withoutPlus.toLinear = .ok (some unsigned) ∧
      again.clearGrouping.equal unsigned.clearGrouping = false := by
  let sum := Expr.binary .plus (.symbol "a") (.symbol "b") false
  let product := Expr.binary .multiply (.symbol "b") (.symbol "c") false
  exact ⟨.binary .multiply (.signed .plus sum false) (.symbol "c") false,
    .binary .plus (.symbol "a") product false, .binary .multiply sum (.symbol "c") false,
    eq_ok_of_toOption (by decide +kernel), eq_ok_of_toOption (by decide +kernel),
    eq_ok_of_toOption (by decide +kernel), rfl⟩

end Linear

end FormulaText
