import FormulaText.Proofs.Latex.Roundtrip

/-!
# What printed LaTeX is read as

A formula without plus signs and infinite numbers is always read again from its LaTeX text, but not
always as itself. A minus sign before something with an index is printed without brackets and read
as a sign of the base alone: `-(x_1)` comes back as `(-x)_1`. And a minus becomes grouped where the
operation on its right is printed with a closing bracket at its end: so does that of `a-b^c`. In all
other cases the formula comes back as it was.
-/

namespace FormulaText

open Grammar

namespace Expr

/-- Something with indices, each of which is an index of the one before it. -/
def indexed : Expr → List Expr → Expr
  | base, [] => base
  | base, index :: indices => subscript base (indexed index indices)

/-- What a printed formula is read as, apart into what begins it and the indices behind that. A sign
is read together with what begins its operand. -/
def spine : Expr → Expr × List Expr
  | number value => (number value.withoutSignOfZero, [])
  | symbol name => (symbol name, [])
  | control name => (control name, [])
  | binary op lhs rhs grouped =>
    (binary op (indexed lhs.spine.1 lhs.spine.2) (indexed rhs.spine.1 rhs.spine.2)
      (readsGrouped op rhs (enclosedIf (needsBracketsRight op rhs grouped) rhs.latexKinds)), [])
  | signed sign operand _ => (withSign sign operand.spine.1 true, operand.spine.2)
  | apply name argument => (apply name (indexed argument.spine.1 argument.spine.2), [])
  | subscript base index =>
    if base.isBinary || base.isSubscript then
      (indexed base.spine.1 base.spine.2, [indexed index.spine.1 index.spine.2])
    else (base.spine.1, base.spine.2 ++ [indexed index.spine.1 index.spine.2])
  | equation lhs rhs =>
    (equation (indexed lhs.spine.1 lhs.spine.2) (indexed rhs.spine.1 rhs.spine.2), [])

def reread (expr : Expr) : Expr := indexed expr.spine.1 expr.spine.2

theorem reread_binary (op : Operator) (lhs rhs : Expr) (grouped : Bool) :
    (binary op lhs rhs grouped).reread = binary op lhs.reread rhs.reread
      (readsGrouped op rhs (enclosedIf (needsBracketsRight op rhs grouped) rhs.latexKinds)) := rfl

theorem reread_signed (sign : Sign) (operand : Expr) (grouped : Bool) :
    (signed sign operand grouped).reread =
      indexed (withSign sign operand.spine.1 true) operand.spine.2 := rfl

theorem reread_apply (name : String) (argument : Expr) :
    (apply name argument).reread = apply name argument.reread := rfl

theorem reread_equation (lhs rhs : Expr) :
    (equation lhs rhs).reread = equation lhs.reread rhs.reread := rfl

theorem spine_subscript_of_bracketed {base index : Expr}
    (h : (base.isBinary || base.isSubscript) = true) :
    (subscript base index).spine = (base.reread, [index.reread]) := by
  rw [spine, if_pos h]
  rfl

theorem spine_subscript {base index : Expr} (h : (base.isBinary || base.isSubscript) = false) :
    (subscript base index).spine = (base.spine.1, base.spine.2 ++ [index.reread]) := by
  rw [spine, if_neg (by simp [h])]
  rfl

/-- Whether a node is a minus without a record of grouping that gets one when it is read again: the
operation on its right is printed with a closing bracket at its end. -/
def gainsGrouping : Expr → Bool
  | binary op _ rhs grouped => !grouped && readsGrouped op rhs rhs.latexKinds
  | _ => false

theorem isBinary_indexed (base : Expr) (indices : List Expr) :
    (indexed base indices).isBinary = (indices.isEmpty && base.isBinary) := by
  cases indices <;> rfl

theorem isBinary_withSign (sign : Sign) (value : Expr) (closed : Bool) :
    (withSign sign value closed).isBinary = false := by
  cases sign <;> cases value <;> rfl

@[simp] theorem isBinary_reread (expr : Expr) : expr.reread.isBinary = expr.isBinary := by
  cases expr with
  | signed sign operand grouped =>
    rw [reread, isBinary_indexed, spine, isBinary_withSign, Bool.and_false]
    rfl
  | subscript base index =>
    rw [reread, isBinary_indexed, spine]
    split <;> simp [isBinary, operator?]
  | _ => rfl

/-! ## The phrase that is read -/

/-- The tier of what a printed formula is read as. A sign may have indices behind its operand. -/
def rereadCategory : Expr → Category
  | binary op _ _ _ => Latex.tierOf op
  | equation _ _ => .sum
  | _ => .subscript

theorem rank_rereadCategory {expr : Expr} {tier : Category}
    (h : (expr.printedCategory Latex.tierOf).rank ≤ tier.rank)
    (htier : Category.subscript.rank ≤ tier.rank) : expr.rereadCategory.rank ≤ tier.rank := by
  cases expr with
  | binary | equation => exact h
  | _ => exact htier

/-- The tokens of a printed formula are those of an operand and of the indices behind it. -/
def HasSpine (expr : Expr) : Prop :=
  ∃ (left : List Token.Kind) (rest : List (List Token.Kind × Expr)),
    expr.latexKinds = left ++ rest.flatMap (fun part ↦ .underscore :: part.1) ∧
      Derives .common .operand left expr.spine.1 ∧
      (∀ part ∈ rest, Derives .common .operand part.1 part.2) ∧
        expr.spine.2 = rest.map Prod.snd

theorem derives_indexed {left : List Token.Kind} {base : Expr}
    {rest : List (List Token.Kind × Expr)} (hbase : Derives .common .operand left base)
    (hrest : ∀ part ∈ rest, Derives .common .operand part.1 part.2) :
    Derives .common .subscript (left ++ rest.flatMap (fun part ↦ .underscore :: part.1))
      (indexed base (rest.map Prod.snd)) := by
  induction rest generalizing left base with
  | nil =>
    rw [List.flatMap_nil, List.append_nil]
    exact .subscript_of_operand hbase
  | cons part rest ih =>
    rw [List.forall_mem_cons] at hrest
    exact .indexed hbase (ih hrest.1 hrest.2)

theorem HasSpine.derives {expr : Expr} (h : expr.HasSpine) :
    Derives .common .subscript expr.latexKinds expr.reread := by
  obtain ⟨left, rest, hkinds, hleft, hrest, hindices⟩ := h
  rw [hkinds, reread, hindices]
  exact derives_indexed hleft hrest

/-- An operand without indices. -/
theorem hasSpine_of_derives {expr : Expr} (hindices : expr.spine.2 = [])
    (h : Derives .common .operand expr.latexKinds expr.spine.1) : expr.HasSpine :=
  ⟨expr.latexKinds, [], by rw [List.flatMap_nil, List.append_nil], h,
    fun _ hpart ↦ absurd hpart List.not_mem_nil, hindices⟩

/-- A minus before an operand is grouped exactly if the operand is an operation. -/
theorem derives_minus {kinds : List Token.Kind} {value : Expr}
    (h : Derives .common .operand kinds value) :
    Derives .common .operand (.operator .minus :: kinds) (withSign .minus value true) := by
  have hsigned := h.signed .minus
  cases hbinary : value.isBinary with
  | true =>
    rw [h.endsClosed_of_isBinary hbinary] at hsigned
    exact hsigned
  | false =>
    have hsame (closed : Bool) :
        withSign .minus value closed = withSign .minus value true := by
      cases value <;> first | rfl | contradiction
    rw [hsame] at hsigned
    exact hsigned

structure IsReread (expr : Expr) : Prop where
  derives : Derives .common expr.rereadCategory expr.latexKinds expr.reread
  hasSpine (h : expr.isBinary = false) : expr.HasSpine

theorem isReread_of_hasSpine {expr : Expr} (hbinary : expr.isBinary = false)
    (hequation : expr.isEquation = false) (h : expr.HasSpine) : expr.IsReread where
  derives := by
    have hphrase := h.derives
    cases expr with
    | binary | equation => contradiction
    | _ => exact hphrase
  hasSpine _ := h

section

variable {op : Operator} {lhs rhs base index operand argument : Expr} {grouped : Bool}

theorem IsReread.binary (hlhs : lhs.IsReread) (hrhs : rhs.IsReread)
    (hleft : lhs.isEquation = false) (hright : rhs.isEquation = false) :
    (binary op lhs rhs grouped).IsReread where
  derives := by
    refine Latex.derives_binary hlhs.derives hrhs.derives (isBinary_reread rhs) ?_ ?_
    · exact fun h ↦ rank_rereadCategory (Latex.rank_left hleft h) (rank_leftCategory op)
    · exact fun hdivide hexponent h ↦
        rank_rereadCategory (Latex.rank_right hright hdivide hexponent h) (rank_rightCategory op)
  hasSpine h := Bool.noConfusion h

theorem IsReread.minus (h : operand.IsReread)
    (hshaped : (signed .minus operand grouped).isShaped = true) :
    (signed .minus operand grouped).IsReread := by
  refine isReread_of_hasSpine rfl rfl ?_
  simp only [isShaped, Bool.and_eq_true, beq_iff_eq] at hshaped
  have hgrouped : grouped = operand.isBinary := by simpa using hshaped.2
  cases hbinary : operand.isBinary with
  | true =>
    rw [hbinary] at hgrouped
    subst hgrouped
    have hindices : operand.spine.2 = [] := by cases operand <;> first | rfl | contradiction
    have hreread : operand.reread = operand.spine.1 := by rw [reread, hindices, indexed]
    have hinner := h.derives.inParentheses.to_operand (by decide)
    rw [hreread] at hinner
    exact hasSpine_of_derives hindices (derives_minus hinner)
  | false =>
    rw [hbinary] at hgrouped
    subst hgrouped
    obtain ⟨left, rest, hkinds, hleft, hrest, hindices⟩ := h.hasSpine hbinary
    refine ⟨.operator .minus :: left, rest, ?_, derives_minus hleft, hrest, hindices⟩
    rw [latexKinds, enclosedIf_false, hkinds, List.cons_append]

theorem IsReread.apply {name : String} (h : argument.IsReread)
    (hspelled : (apply name argument).IsSpelled .common) : (Expr.apply name argument).IsReread :=
  isReread_of_hasSpine rfl rfl (hasSpine_of_derives rfl (Latex.derives_apply hspelled h.derives))

theorem IsReread.subscript (hbase : base.IsReread) (hindex : index.IsReread) :
    (subscript base index).IsReread := by
  refine isReread_of_hasSpine rfl rfl ?_
  have hright := Latex.derives_index hindex.derives fun hletter ↦ by
    cases index with
    | symbol name => exact Latex.rereads_symbol name
    | _ => contradiction
  unfold HasSpine
  rw [latexKinds]
  generalize (if index.isLetter then index.latexKinds else inBraces index.latexKinds) = right
    at hright ⊢
  cases hneeded : base.isBinary || base.isSubscript with
  | true =>
    rw [spine_subscript_of_bracketed hneeded]
    refine ⟨_, [(right, index.reread)], ?_, hbase.derives.inParentheses.to_operand (by decide), ?_, rfl⟩
    · rw [List.flatMap_singleton]
      rfl
    · rw [List.forall_mem_singleton]
      exact hright
  | false =>
    obtain ⟨left, rest, hkinds, hleft, hrest, hindices⟩ :=
      hbase.hasSpine (Bool.or_eq_false_iff.1 hneeded).1
    rw [spine_subscript hneeded, enclosedIf_false]
    refine ⟨left, rest ++ [(right, index.reread)], ?_, hleft, ?_, ?_⟩
    · rw [hkinds, List.flatMap_append, List.flatMap_singleton, List.append_assoc]
    · rw [List.forall_mem_append, List.forall_mem_singleton]
      exact ⟨hrest, hright⟩
    · rw [hindices, List.map_append]
      rfl

end

/-- The tokens of a printed formula without plus signs and infinite numbers are a phrase for what it
is read as. -/
theorem isReread_of_isPhraseTree {expr : Expr} (htree : IsPhraseTree .common expr)
    (hprintable : ∀ node ∈ expr.nodes, node.isPlusSign = false ∧ node.isNonfinite = false) :
    expr.IsReread := by
  induction expr with
  | number value =>
    have hfinite := (hprintable _ (self_mem_nodes _)).2
    exact isReread_of_hasSpine rfl rfl
      (hasSpine_of_derives rfl (Binary64.derives_kinds (by simpa [isNonfinite] using hfinite)))
  | symbol name =>
    exact isReread_of_hasSpine rfl rfl (hasSpine_of_derives rfl (Latex.rereads_symbol name))
  | control name =>
    have hspelled := (htree _ (self_mem_nodes _)).2
    exact isReread_of_hasSpine rfl rfl (hasSpine_of_derives rfl (Latex.rereads_control hspelled))
  | binary op lhs rhs grouped ihl ihr =>
    have hnodes := forall_nodes_binary.1 htree
    rw [forall_nodes_binary] at hprintable
    exact (ihl hnodes.2.1 hprintable.2.1).binary (ihr hnodes.2.2 hprintable.2.2)
      (IsPhraseTree.isEquation hnodes.2.1) (IsPhraseTree.isEquation hnodes.2.2)
  | signed sign operand grouped ih =>
    have hnodes := forall_nodes_signed.1 htree
    rw [forall_nodes_signed] at hprintable
    cases sign with
    | plus => exact absurd hprintable.1.1 (by simp [isPlusSign])
    | minus => exact (ih hnodes.2 hprintable.2).minus hnodes.1.1
  | apply name argument ih =>
    have hnodes := forall_nodes_apply.1 htree
    rw [forall_nodes_apply] at hprintable
    exact (ih hnodes.2 hprintable.2).apply hnodes.1.2
  | subscript base index ihbase ihindex =>
    have hnodes := forall_nodes_subscript.1 htree
    rw [forall_nodes_subscript] at hprintable
    exact (ihbase hnodes.2.1 hprintable.2.1).subscript (ihindex hnodes.2.2 hprintable.2.2)
  | equation => exact absurd (htree _ (self_mem_nodes _)).1 (by simp [isShaped])

end Expr

namespace Latex

variable {expr : Expr}

/-- What the LaTeX text of a formula is read as. -/
theorem parse_toLatex_eq_reread (h : expr.IsFormulaOf (IsPhraseTree .common))
    (hprintable : ∀ node ∈ expr.nodes, node.isPlusSign = false ∧ node.isNonfinite = false) :
    parse expr.toLatex = .ok (some expr.reread) := by
  have hgives := gives_toLatex (forall_isSpelled h)
  refine parse_eq_ok_iff.2 ⟨expr.latexKinds, hgives, ?_⟩
  cases expr with
  | equation lhs rhs =>
    rw [Expr.forall_nodes_equation] at hprintable
    exact .equation (Expr.isReread_of_isPhraseTree h.1 hprintable.2.1).derives.to_sum
      (Expr.isReread_of_isPhraseTree h.2 hprintable.2.2).derives.to_sum
  | _ => exact .sum (Expr.isReread_of_isPhraseTree h hprintable).derives.to_sum

end Latex

end FormulaText
