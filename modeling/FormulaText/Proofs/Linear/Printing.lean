import FormulaText.Proofs.Expr.Regroup
import FormulaText.Proofs.Linear.Scanning

/-!
# The tokens of a formula in the linear notation

A formula printed in the linear notation is read as the tokens given here. Control words are printed
without their backslash, so that they become symbols.
-/

namespace FormulaText

open Grammar

def Expr.linearKinds : Expr → List Token.Kind
  | .number value => value.kinds
  | .symbol name | .control name => [.symbol name]
  | .binary op lhs rhs grouped =>
    enclosedIf (needsBracketsLeft op lhs) lhs.linearKinds ++
      .operator op :: enclosedIf (needsBracketsRight op rhs grouped) rhs.linearKinds
  | .signed .minus operand grouped => .operator .minus :: enclosedIf grouped operand.linearKinds
  | .signed .plus operand _ => operand.linearKinds
  | .apply name argument => .call name :: enclosedIf true argument.linearKinds
  | .subscript base index =>
    base.linearKinds ++ .underscore :: enclosedIf (!index.isLetter) index.linearKinds
  | .equation lhs rhs => lhs.linearKinds ++ .equal :: rhs.linearKinds

namespace Linear

open Scan

theorem spells_bracketedIf {text : String} {kinds : List Token.Kind} (needed : Bool)
    (h : Spells (readToken table) endsName text kinds) :
    Spells (readToken table) endsName (bracketedIf needed text) (enclosedIf needed kinds) := by
  cases needed with
  | false => exact h
  | true => exact isMark_closing.around readsAs_opening h

/-- A printed formula is read as its tokens. -/
theorem spells_toLinear {vocabulary : Vocabulary} {expr : Expr}
    (h : ∀ node ∈ expr.nodes, node.IsSpelled vocabulary) :
    Spells (readToken table) endsName expr.toLinear expr.linearKinds := by
  induction expr with
  | number value =>
    exact value.spells_kinds (isMark_operator .minus).reads spells_magnitude fun _ ↦ spells_symbol
  | symbol name => exact spells_symbol (h _ (Expr.self_mem_nodes _))
  | control name =>
    have hname := (h _ (Expr.self_mem_nodes _)).1
    exact spells_symbol (Latex.isWord_of_isControlName hname)
  | binary op lhs rhs grouped ihl ihr =>
    rw [Expr.forall_nodes_binary] at h
    exact (isMark_operator op).between (spells_bracketedIf _ (ihl h.2.1))
      (spells_bracketedIf _ (ihr h.2.2))
  | signed sign operand grouped ih =>
    rw [Expr.forall_nodes_signed] at h
    cases sign with
    | plus => exact ih h.2
    | minus => exact (isMark_operator .minus).reads.before (spells_bracketedIf grouped (ih h.2))
  | apply name argument ih =>
    rw [Expr.forall_nodes_apply] at h
    have hname : isWord name.toList = true := by
      rcases h.1 with rfl | ⟨hword, -⟩
      · decide
      · exact hword
    exact spells_call hname (ih h.2)
  | subscript base index ihbase ihindex =>
    rw [Expr.forall_nodes_subscript] at h
    exact isMark_underscore.between (ihbase h.2.1) (spells_bracketedIf _ (ihindex h.2.2))
  | equation lhs rhs ihl ihr =>
    rw [Expr.forall_nodes_equation] at h
    exact isMark_equal.between (ihl h.2.1) (ihr h.2.2)

theorem gives_toLinear {vocabulary : Vocabulary} {expr : Expr}
    (h : ∀ node ∈ expr.nodes, node.IsSpelled vocabulary) :
    Gives (scanner expr.toLinear) expr.linearKinds := by
  have hread := spells_toLinear h (by rfl) reads_nil
  rw [List.append_nil, List.append_nil] at hread
  exact gives_of_reads hread

end Linear

end FormulaText
