import FormulaText.Proofs.Expr.Regroup
import FormulaText.Proofs.Latex.Scanning

/-!
# The tokens of a printed formula

A formula printed in LaTeX is read as the tokens given here, because each of its pieces ends where
the next one begins.
-/

namespace FormulaText

open Grammar

namespace Expr

def latexKinds : Expr → List Token.Kind
  | .number value => value.kinds
  | .symbol name => [if isGreekLetter name then .control name else .symbol name]
  | .control name => [.control name]
  | .binary op lhs rhs grouped =>
    let left := enclosedIf (needsBracketsLeft op lhs || nestsLeft op lhs) lhs.latexKinds
    match op with
    | .divide => .control "frac" :: inBraces lhs.latexKinds ++ inBraces rhs.latexKinds
    | .exponent => left ++ .operator .exponent :: inBraces rhs.latexKinds
    | _ => left ++ .operator op :: enclosedIf (needsBracketsRight op rhs grouped) rhs.latexKinds
  | .signed .minus operand grouped => .operator .minus :: enclosedIf grouped operand.latexKinds
  | .signed .plus operand _ => operand.latexKinds
  | .apply name argument =>
    if Text.equalIgnoringAsciiCase name "sqrt" then .control "sqrt" :: inBraces argument.latexKinds
    else .control name :: enclosedIf true argument.latexKinds
  | .subscript base index =>
    enclosedIf (base.isBinary || base.isSubscript) base.latexKinds ++ .underscore ::
      if index.isLetter then index.latexKinds else inBraces index.latexKinds
  | .equation lhs rhs => lhs.latexKinds ++ .equal :: rhs.latexKinds

end Expr

namespace Latex

open Scan

variable {text : String} {kinds : List Token.Kind}

theorem spells_bracketedIf (needed : Bool) (h : Spells (readToken table) endsPiece text kinds) :
    Spells (readToken table) endsPiece (bracketedIf needed text) (enclosedIf needed kinds) := by
  cases needed with
  | false => exact h
  | true => exact isMark_right.around readsAs_left h

theorem spells_braced (h : Spells (readToken table) endsPiece text kinds) :
    Spells (readToken table) endsPiece (braced text) (inBraces kinds) :=
  isMark_closing.around readsAs_opening h

theorem endsPiece_braced (text : String) (rest : List Char) :
    endsPiece ((braced text).toList ++ rest) = true := by
  rw [braced, String.toList_append, String.toList_append, List.append_assoc, List.append_assoc]
  rfl

theorem endsPiece_bracketed (text : String) (rest : List Char) :
    endsPiece ((bracketedIf true text).toList ++ rest) = true := by
  rw [bracketedIf_true, String.toList_append, String.toList_append, List.append_assoc,
    List.append_assoc]
  rfl

theorem spells_binary {op : Operator} {lhs rhs : Expr} {grouped : Bool}
    (hlhs : Spells (readToken table) endsPiece lhs.toLatex lhs.latexKinds)
    (hrhs : Spells (readToken table) endsPiece rhs.toLatex rhs.latexKinds) :
    Spells (readToken table) endsPiece (Expr.binary op lhs rhs grouped).toLatex
      (Expr.binary op lhs rhs grouped).latexKinds := by
  have hleft := spells_bracketedIf (Expr.needsBracketsLeft op lhs || Expr.nestsLeft op lhs) hlhs
  have hright := spells_bracketedIf (Expr.needsBracketsRight op rhs grouped) hrhs
  cases op with
  | divide =>
    have hname : Spells (readToken table) endsPiece "\\frac" [.control "frac"] :=
      @spells_control "frac" (by decide)
    have hnumerator := hname.append (spells_braced hlhs) (endsPiece_braced _)
    have hquotient := hnumerator.append (spells_braced hrhs) (endsPiece_braced _)
    simpa only [Expr.toLatex, Expr.latexKinds, List.cons_append, List.nil_append] using hquotient
  | exponent =>
    have htext : infixText .exponent = "^" := rfl
    have hpower := (isMark_infixText .exponent).between hleft (spells_braced hrhs)
    simpa only [Expr.toLatex, Expr.latexKinds, htext] using hpower
  | plus | minus | multiply | modulus =>
    simpa only [Expr.toLatex, Expr.latexKinds] using (isMark_infixText _).between hleft hright

/-- A printed formula is read as its tokens. -/
theorem spells_toLatex {expr : Expr} (h : ∀ node ∈ expr.nodes, node.IsSpelled .common) :
    Spells (readToken table) endsPiece expr.toLatex expr.latexKinds := by
  induction expr with
  | number value =>
    exact value.spells_kinds (isMark_infixText .minus).reads spells_magnitude fun _ ↦ spells_symbol
  | symbol name =>
    have hname : isWord name.toList = true := h _ (Expr.self_mem_nodes _)
    rw [Expr.toLatex, Expr.latexKinds]
    split
    · next hletter =>
      have hknown := List.mem_append_left ("sqrt" :: commonFunctions) (isGreekLetter_iff.1 hletter)
      exact spells_control (isControlName_of_lowerCase hname hknown)
    · exact spells_symbol hname
  | control name => exact spells_control (h _ (Expr.self_mem_nodes _)).1
  | binary op lhs rhs grouped ihl ihr =>
    rw [Expr.forall_nodes_binary] at h
    exact spells_binary (ihl h.2.1) (ihr h.2.2)
  | signed sign operand grouped ih =>
    rw [Expr.forall_nodes_signed] at h
    cases sign with
    | plus => exact ih h.2
    | minus => exact (isMark_infixText .minus).reads.before (spells_bracketedIf grouped (ih h.2))
  | apply name argument ih =>
    rw [Expr.forall_nodes_apply] at h
    rw [Expr.toLatex, Expr.latexKinds]
    split
    · have hname : Spells (readToken table) endsPiece "\\sqrt" [.control "sqrt"] :=
        @spells_control "sqrt" (by decide)
      exact hname.append (spells_braced (ih h.2)) (endsPiece_braced _)
    · next hsqrt =>
      rcases h.1 with rfl | ⟨hword, hrole⟩
      · exact absurd (by decide) hsqrt
      · have hname := isControlName_of_function hword hrole
        exact (spells_control hname).append (spells_bracketedIf true (ih h.2)) (endsPiece_bracketed _)
  | subscript base index ihbase ihindex =>
    rw [Expr.forall_nodes_subscript] at h
    have hbase := spells_bracketedIf (base.isBinary || base.isSubscript) (ihbase h.2.1)
    rw [Expr.toLatex, Expr.latexKinds]
    split
    · exact isMark_underscore.between hbase (ihindex h.2.2)
    · exact isMark_underscore.between hbase (spells_braced (ihindex h.2.2))
  | equation lhs rhs ihl ihr =>
    rw [Expr.forall_nodes_equation] at h
    exact isMark_equal.between (ihl h.2.1) (ihr h.2.2)

theorem gives_toLatex {expr : Expr} (h : ∀ node ∈ expr.nodes, node.IsSpelled .common) :
    Gives (scanner expr.toLatex) expr.latexKinds := by
  have hread := spells_toLatex h (by rfl) reads_nil
  rw [List.append_nil, List.append_nil] at hread
  exact gives_of_reads hread

end Latex

end FormulaText
