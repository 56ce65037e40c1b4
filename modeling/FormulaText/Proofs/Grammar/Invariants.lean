import FormulaText.Proofs.Grammar.Pulls
import FormulaText.Proofs.Grammar.Shape

/-!
# What holds of each formula that is read

Whatever a source gives, a tree that is read from it has numbers with their signs folded in, an
equation at its root only, and records of grouping only where a minus stands before an operation.
-/

namespace FormulaText

namespace Expr

/-- Whether a node and those right below it are as a reading makes them. -/
def IsLawful : Expr → Prop
  | binary op _ rhs grouped => grouped = true → op = .minus ∧ rhs.isBinary = true
  | signed sign operand grouped =>
    operand.isNumber = false ∧ operand.isEquation = false ∧
      (grouped = true ↔ sign = .minus ∧ operand.isBinary = true)
  | equation lhs rhs => lhs.isEquation = false ∧ rhs.isEquation = false
  | _ => True

variable {expr : Expr}

theorem isLawful_of_isShaped (h : ∀ node ∈ expr.nodes, node.isShaped = true) :
    ∀ node ∈ expr.nodes, node.IsLawful := by
  induction expr with
  | number | symbol | control => simp [nodes, IsLawful]
  | binary op lhs rhs grouped ihl ihr =>
    rw [forall_nodes_binary] at h ⊢
    refine ⟨?_, ihl h.2.1, ihr h.2.2⟩
    rintro rfl
    simpa [isShaped] using h.1
  | signed sign operand grouped ih =>
    rw [forall_nodes_signed] at h ⊢
    have hequation := isEquation_of_isShaped (h.2 operand operand.self_mem_nodes)
    have hshaped := h.1
    simp only [isShaped, Bool.and_eq_true, Bool.not_eq_true', beq_iff_eq] at hshaped
    refine ⟨⟨hshaped.1, hequation, ?_⟩, ih h.2⟩
    rw [hshaped.2, Bool.and_eq_true, decide_eq_true_iff]
  | apply name argument ih =>
    rw [forall_nodes_apply] at h ⊢
    exact ⟨trivial, ih h.2⟩
  | subscript base index ihbase ihindex =>
    rw [forall_nodes_subscript] at h ⊢
    exact ⟨trivial, ihbase h.2.1, ihindex h.2.2⟩
  | equation lhs rhs => exact absurd (h _ (self_mem_nodes _)) Bool.false_ne_true

end Expr

namespace Grammar

open Reader

variable {σ : Type} [TokenSource σ] {vocabulary : Vocabulary} {source : σ} {expr : Expr}

theorem ComesTo.isFormula {history : List Event}
    (h : ComesTo vocabulary source (.ok (some expr)) history) :
    ∃ kinds, IsFormula vocabulary kinds (some expr) := by
  obtain ⟨depth, hresult, -⟩ := h
  obtain ⟨after, haccepts⟩ := Outcome.result?_eq_ok.1 hresult
  obtain ⟨kinds, -, hformula⟩ := isFormula_of_accepts haccepts
  exact ⟨kinds, hformula⟩

/-- Each node of a formula that is read from any source is lawful, and only the first of them, the
root, can be an equation. -/
theorem forall_nodes_isLawful (vocabulary : Vocabulary) (source : σ) (expr : Expr)
    (history : List Event) (h : ComesTo vocabulary source (.ok (some expr)) history) :
    (∀ node ∈ expr.nodes, node.IsLawful) ∧ ∀ node ∈ expr.nodes.tail, node.isEquation = false := by
  obtain ⟨kinds, hformula⟩ := h.isFormula
  cases hformula with
  | sum hphrase =>
    have hshaped := hphrase.isShaped
    exact ⟨Expr.isLawful_of_isShaped hshaped, fun node hnode ↦
      Expr.isEquation_of_isShaped (hshaped node (List.mem_of_mem_tail hnode))⟩
  | @equation left right lhs rhs hlhs hrhs =>
    have hequation {side : Expr} (hside : ∀ node ∈ side.nodes, node.isShaped = true) :
        ∀ node ∈ side.nodes, node.isEquation = false :=
      fun node hnode ↦ Expr.isEquation_of_isShaped (hside node hnode)
    have hleft := hequation hlhs.isShaped
    have hright := hequation hrhs.isShaped
    refine ⟨Expr.forall_nodes_equation.2 ⟨?_, Expr.isLawful_of_isShaped hlhs.isShaped,
      Expr.isLawful_of_isShaped hrhs.isShaped⟩, ?_⟩
    · exact ⟨hleft lhs lhs.self_mem_nodes, hright rhs rhs.self_mem_nodes⟩
    · rw [Expr.nodes, List.tail_cons, List.forall_mem_append]
      exact ⟨hleft, hright⟩

theorem forall_nodes_isLawful_minus :
    let brackets : List Token.Kind := [.operator .minus, .bracket (.opening '('), .symbol "x",
      .operator .plus, .symbol "y", .bracket (.closing ')'), .endOfInput]
    let source := Playback.ofList "-(x+y)" (brackets.map fun kind ↦ .ok ⟨kind, 0, 0, 0⟩)
    let expr := Expr.signed .minus (.binary .plus (.symbol "x") (.symbol "y") false) true
    (∃ history, ComesTo .common source (.ok (some expr)) history) ∧
      (∀ node ∈ expr.nodes, node.IsLawful) ∧
        ∀ node ∈ expr.nodes.tail, node.isEquation = false := by
  intro brackets source expr
  have hcomes := comesTo_read .common source
  have hparse : (read .common source).result = .ok (some expr) :=
    eq_ok_of_toOption (by decide +kernel)
  rw [hparse] at hcomes
  exact ⟨⟨_, hcomes⟩, forall_nodes_isLawful .common source expr _ hcomes⟩

end Grammar

end FormulaText
