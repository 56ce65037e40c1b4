import FormulaText.Proofs.Grammar.Chain
import FormulaText.Proofs.Latex.Derivation
import FormulaText.Proofs.Linear.Printing

/-!
# Printed formulas can be read

What either notation prints for a formula that was read is a chain of operands at each level of
brackets. So it can be read in that notation, also where it is read as another formula: plus signs
are dropped, infinite numbers become symbols, and some operands lose their brackets.
-/

namespace FormulaText

open Grammar

variable {expr argument : Expr} {name text : String}

/-- The tokens of a number are a chain, also where these are the symbol of no finite number. -/
theorem Binary64.isChain_kinds (vocabulary : Vocabulary) (value : Binary64) :
    IsChain vocabulary value.kinds := by
  have hsymbol (name : String) : IsChain vocabulary [.symbol name] := .operand ⟨_, .symbol name⟩
  cases hfinite : value.isFinite with
  | true => exact .operand ⟨_, Binary64.derives_kinds hfinite⟩
  | false =>
    obtain _ | negative | _ := value
    · contradiction
    · cases negative with
      | false => exact hsymbol "inf"
      | true => exact (hsymbol "inf").behindMinus
    · exact hsymbol "NaN"

namespace Linear

/-- The tokens of a call in the linear notation are an operand. -/
theorem isPhrase_apply (hspelled : (Expr.apply name argument).IsSpelled .common)
    (h : IsChain .common argument.linearKinds) :
    IsPhrase .common .operand (Expr.apply name argument).linearKinds := by
  obtain ⟨value, hvalue⟩ := h.enclosed
  rcases hspelled with rfl | ⟨-, hrole⟩
  · have hopen : (enclosedIf true argument.linearKinds).head? ≠ some (.bracket (.opening '[')) := by
      rw [head?_enclosedIf_true]
      decide
    have hroot : roleOf .common "sqrt" = .root := by decide
    exact ⟨_, .operand_of_named (.root true hroot hvalue hopen)⟩
  · exact ⟨_, .operand_of_named (.application true hrole (.operand_of_group hvalue))⟩

/-- The tokens of a printed formula are a chain. -/
theorem isChain_linearKinds (htree : IsPhraseTree .common expr) :
    IsChain .common expr.linearKinds := by
  induction expr with
  | number value => exact value.isChain_kinds .common
  | symbol name | control name => exact .operand ⟨_, .symbol name⟩
  | binary op lhs rhs grouped ihl ihr =>
    obtain ⟨-, hlhs, hrhs⟩ := Expr.forall_nodes_binary.1 htree
    exact ((ihl hlhs).enclosedIf _).append (.operator op) ((ihr hrhs).enclosedIf _)
  | signed sign operand grouped ih =>
    have hoperand := ih (Expr.forall_nodes_signed.1 htree).2
    cases sign with
    | plus => exact hoperand
    | minus => exact (hoperand.enclosedIf grouped).behindMinus
  | apply name argument ih =>
    obtain ⟨⟨-, hspelled⟩, hargument⟩ := Expr.forall_nodes_apply.1 htree
    exact .operand (isPhrase_apply hspelled (ih hargument))
  | subscript base index ihbase ihindex =>
    obtain ⟨-, hbase, hindex⟩ := Expr.forall_nodes_subscript.1 htree
    exact (ihbase hbase).append .index ((ihindex hindex).enclosedIf _)
  | equation => exact absurd (htree _ (Expr.self_mem_nodes _)).1 (by simp [Expr.isShaped])

end Linear

namespace Latex

/-- The tokens of an operation in LaTeX are a chain, if those of its operands are. -/
theorem isChain_binary {op : Operator} {lhs rhs : Expr} {grouped : Bool}
    (hlhs : IsChain .common lhs.latexKinds) (hrhs : IsChain .common rhs.latexKinds) :
    IsChain .common (Expr.binary op lhs rhs grouped).latexKinds := by
  have hleft := hlhs.enclosedIf (Expr.needsBracketsLeft op lhs || Expr.nestsLeft op lhs)
  cases op with
  | divide =>
    obtain ⟨above, habove⟩ := hlhs.braced
    obtain ⟨below, hbelow⟩ := hrhs.braced
    have hrole : roleOf .common "frac" = .fraction := by decide
    exact .operand ⟨_, .operand_of_named (.fraction false hrole habove hbelow)⟩
  | exponent => exact hleft.append (.operator .exponent) (.operand hrhs.braced.to_operand)
  | plus | minus | multiply | modulus =>
    exact hleft.append (.operator _) (hrhs.enclosedIf (Expr.needsBracketsRight _ rhs grouped))

/-- The tokens of a printed formula are a chain. -/
theorem isChain_latexKinds (htree : IsPhraseTree .common expr) :
    IsChain .common expr.latexKinds := by
  induction expr with
  | number value => exact value.isChain_kinds .common
  | symbol name => exact .operand ⟨_, rereads_symbol name⟩
  | control name => exact .operand ⟨_, rereads_control (htree _ (Expr.self_mem_nodes _)).2⟩
  | binary op lhs rhs grouped ihl ihr =>
    obtain ⟨-, hlhs, hrhs⟩ := Expr.forall_nodes_binary.1 htree
    exact isChain_binary (ihl hlhs) (ihr hrhs)
  | signed sign operand grouped ih =>
    have hoperand := ih (Expr.forall_nodes_signed.1 htree).2
    cases sign with
    | plus => exact hoperand
    | minus => exact (hoperand.enclosedIf grouped).behindMinus
  | apply name argument ih =>
    obtain ⟨⟨-, hspelled⟩, hargument⟩ := Expr.forall_nodes_apply.1 htree
    obtain ⟨value, hvalue⟩ := (ih hargument).isPhrase
    exact .operand ⟨_, derives_apply hspelled hvalue⟩
  | subscript base index ihbase ihindex =>
    obtain ⟨-, hbase, hindex⟩ := Expr.forall_nodes_subscript.1 htree
    refine ((ihbase hbase).enclosedIf _).append .index ?_
    split
    · exact ihindex hindex
    · exact .operand (ihindex hindex).braced.to_operand
  | equation => exact absurd (htree _ (Expr.self_mem_nodes _)).1 (by simp [Expr.isShaped])

end Latex

/-- A formula that is printed as chains, with an equals sign between the sides of an equation, is
printed as the tokens of a formula. -/
theorem exists_isFormula {kinds : Expr → List Token.Kind}
    (hequation : ∀ lhs rhs, kinds (.equation lhs rhs) = kinds lhs ++ .equal :: kinds rhs)
    (hchain : ∀ ⦃expr⦄, IsPhraseTree .common expr → IsChain .common (kinds expr))
    (h : expr.IsFormulaOf (IsPhraseTree .common)) :
    ∃ again, IsFormula .common (kinds expr) (some again) := by
  cases expr with
  | equation lhs rhs =>
    obtain ⟨left, hleft⟩ := (hchain h.1).isPhrase
    obtain ⟨right, hright⟩ := (hchain h.2).isPhrase
    rw [hequation]
    exact ⟨_, .equation hleft hright⟩
  | _ =>
    obtain ⟨value, hvalue⟩ := (hchain h).isPhrase
    exact ⟨_, .sum hvalue⟩

/-- A formula that was read in either notation can be read from what either notation prints for it,
whatever signs, control words, indices and infinite numbers are in it. -/
theorem parse_print_of_parse
    (hparse : Latex.parse text = .ok (some expr) ∨ Linear.parse text = .ok (some expr)) :
    (∃ again, Linear.parse expr.toLinear = .ok (some again)) ∧
      ∃ again, Latex.parse expr.toLatex = .ok (some again) := by
  have htree : expr.IsFormulaOf (IsPhraseTree .common) := by
    rcases hparse with hparse | hparse
    · exact Latex.isFormulaOf_of_parse hparse
    · exact Linear.isFormulaOf_of_parse hparse
  have hspelled := forall_isSpelled htree
  obtain ⟨linear, hlinear⟩ :=
    exists_isFormula (fun _ _ ↦ rfl) (fun _ ↦ Linear.isChain_linearKinds) htree
  obtain ⟨latex, hlatex⟩ :=
    exists_isFormula (fun _ _ ↦ rfl) (fun _ ↦ Latex.isChain_latexKinds) htree
  exact ⟨⟨linear, (parse_eq_ok_iff_of_gives (Linear.gives_toLinear hspelled)).2 hlinear⟩,
    latex, (parse_eq_ok_iff_of_gives (Latex.gives_toLatex hspelled)).2 hlatex⟩

/-- Plus signs, a control word, a negated index, an index below a sum, and the negative zero. -/
theorem parse_print_of_parse_signs :
    let sum := Expr.binary .plus (.symbol "a") (.control "infty") false
    let index := Expr.signed .minus (.subscript (.symbol "x") (.number (.finite true .zero))) false
    let expr := Expr.binary .minus (.signed .plus (.symbol "b") false)
      (.binary .multiply (.subscript sum (.signed .plus (.symbol "c") false)) index false) true
    Latex.parse "+b-((a+\\infty)_{+c}*(-(x_{-0})))" = .ok (some expr) ∧
      (∃ again, Linear.parse expr.toLinear = .ok (some again)) ∧
        ∃ again, Latex.parse expr.toLatex = .ok (some again) := by
  intro sum index expr
  have hparse : Latex.parse "+b-((a+\\infty)_{+c}*(-(x_{-0})))" = .ok (some expr) :=
    eq_ok_of_toOption (by decide +kernel)
  exact ⟨hparse, parse_print_of_parse (.inl hparse)⟩

end FormulaText
