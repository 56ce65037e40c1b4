import FormulaText.Latex.Formula
import FormulaText.Linear.Formula
import FormulaText.Proofs.Expr.Nodes
import FormulaText.Proofs.Grammar.Exact
import FormulaText.Proofs.Scan.Spelling

/-!
# The shape of the trees of phrases

No phrase stands for an equation or for a signed number, and only a minus before an operation is
grouped. The names in the tree of a phrase are those of its tokens.
-/

namespace FormulaText

namespace Expr

/-- Whether a node of a phrase may be as it is. -/
def isShaped : Expr → Bool
  | binary op _ rhs grouped => !grouped || (op = .minus && rhs.isBinary)
  | signed sign operand grouped =>
    !operand.isNumber && (grouped == (sign = .minus && operand.isBinary))
  | equation _ _ => false
  | _ => true

theorem isEquation_of_isShaped {expr : Expr} (h : expr.isShaped = true) :
    expr.isEquation = false := by
  cases expr <;> first | rfl | contradiction

def IsFormulaOf (P : Expr → Prop) : Expr → Prop
  | equation lhs rhs => P lhs ∧ P rhs
  | expr => P expr

/-- A name that is the name of a node for a vocabulary. -/
def IsSpelled (vocabulary : Vocabulary) : Expr → Prop
  | symbol name => Scan.isWord name.toList = true
  | control name => Latex.isControlName name.toList = true ∧
      Grammar.roleOf vocabulary name = .plain ∧ isGreekLetter name = false
  | apply name _ => name = "sqrt" ∨
      Scan.isWord name.toList = true ∧ Grammar.roleOf vocabulary name = .function
  | _ => True

end Expr

namespace Grammar

variable {vocabulary : Vocabulary} {category : Category} {kinds : List Token.Kind} {value : Expr}

/-- An operand that is an operation ends in a closing bracket. -/
theorem Derives.endsClosed_of_isBinary (h : Derives vocabulary .operand kinds value)
    (hbinary : value.isBinary = true) : endsClosed kinds = true := by
  cases h with
  | number | symbol => contradiction
  | @signed sign kinds operand h => cases sign <;> cases operand <;> contradiction
  | operand_of_group h => exact h.endsClosed_of_group
  | operand_of_named h =>
    cases h with
    | @plain isCall name hrole =>
      unfold plainName at hbinary
      split at hbinary <;> contradiction
    | fraction isCall hrole habove hbelow =>
      rw [endsClosed_append _ hbelow.ne_nil]
      exact hbelow.endsClosed_of_group
    | root | application => contradiction
    | indexedRoot isCall hrole hindex h =>
      rw [endsClosed_append _ (List.cons_ne_nil _ _)]
      exact (endsClosed_append [_] h.ne_nil).trans h.endsClosed_of_group

theorem forall_nodes_withSign {P : Expr → Prop} {sign : Sign} {closed : Bool}
    (h : ∀ node ∈ value.nodes, P node) (hnumber : ∀ value, P (.number value))
    (hsigned : value.isNumber = false →
      P (.signed sign value (sign = .minus && (value.isBinary && closed)))) :
    ∀ node ∈ (withSign sign value closed).nodes, P node := by
  cases value with
  | number value => cases sign <;> simp [withSign, Expr.nodes, hnumber]
  | _ =>
    cases sign <;> exact Expr.forall_nodes_signed.2 ⟨by simpa [Expr.isNumber] using hsigned, h⟩

theorem withSign_minus {closed : Bool} (hnumber : value.isNumber = false) :
    withSign .minus value closed = .signed .minus value (value.isBinary && closed) := by
  cases value with
  | number => contradiction
  | _ => rfl

theorem Derives.isShaped (h : Derives vocabulary category kinds value) :
    ∀ node ∈ value.nodes, node.isShaped = true := by
  induction h with
  | number | symbol => simp [Expr.nodes, Expr.isShaped]
  | @plain isCall name hrole =>
    unfold plainName
    split <;> simp [Expr.nodes, Expr.isShaped]
  | @signed sign kinds value h ih =>
    refine forall_nodes_withSign ih (fun _ ↦ rfl) fun hnumber ↦ ?_
    cases hbinary : value.isBinary with
    | false => simp [Expr.isShaped, hnumber, hbinary]
    | true => simp [Expr.isShaped, hnumber, hbinary, h.endsClosed_of_isBinary hbinary]
  | plus hlhs hrhs ihl ihr | times hlhs hrhs ihl ihr | divided hlhs hrhs ihl ihr
  | modulo hlhs hrhs ihl ihr | raised hlhs hrhs ihl ihr =>
    exact Expr.forall_nodes_binary.2 ⟨rfl, ihl, ihr⟩
  | juxtaposed hlhs hrhs hfactor ihl ihr => exact Expr.forall_nodes_binary.2 ⟨rfl, ihl, ihr⟩
  | fraction isCall hrole habove hbelow ihl ihr =>
    exact Expr.forall_nodes_binary.2 ⟨rfl, ihl, ihr⟩
  | @minus left right lhs rhs hlhs hrhs ihl ihr =>
    refine Expr.forall_nodes_binary.2 ⟨?_, ihl, ihr⟩
    cases hbinary : rhs.isBinary <;> simp [Expr.isShaped, hbinary]
  | indexed hbase hindex ihbase ihindex =>
    exact Expr.forall_nodes_subscript.2 ⟨rfl, ihbase, ihindex⟩
  | root isCall hrole h hopen ih => exact Expr.forall_nodes_apply.2 ⟨rfl, ih⟩
  | application isCall hrole h ih => exact Expr.forall_nodes_apply.2 ⟨rfl, ih⟩
  | indexedRoot isCall hrole hindex h ihindex ih =>
    refine Expr.forall_nodes_binary.2 ⟨rfl, ih, Expr.forall_nodes_binary.2 ⟨rfl, ?_, ihindex⟩⟩
    simp [Expr.nodes, Expr.isShaped]
  | _ => assumption

theorem isWord_of_nameToken {isCall : Bool} {name : String}
    (h : (nameToken isCall name).IsSpelled) : Scan.isWord name.toList = true := by
  cases isCall with
  | false => exact Latex.isWord_of_isControlName h
  | true => exact h

/-- Each name in the tree of a phrase is spelled as its token. -/
theorem Derives.isSpelled (h : Derives vocabulary category kinds value)
    (hkinds : ∀ kind ∈ kinds, kind.IsSpelled) :
    ∀ node ∈ value.nodes, node.IsSpelled vocabulary := by
  induction h with
  | number => simp [Expr.nodes, Expr.IsSpelled]
  | symbol name => simpa [Expr.nodes, Expr.IsSpelled, Token.Kind.IsSpelled] using hkinds
  | @plain isCall name hrole =>
    have hname : (nameToken isCall name).IsSpelled := by simpa using hkinds
    have hword := isWord_of_nameToken hname
    unfold plainName
    split
    · simpa [Expr.nodes, Expr.IsSpelled] using hword
    · next hletter =>
      rw [Bool.not_eq_true, Bool.or_eq_false_iff] at hletter
      rw [hletter.1] at hname
      have hcontrol : Latex.isControlName name.toList = true := hname
      simpa [Expr.nodes, Expr.IsSpelled, hrole, hletter.2] using hcontrol
  | @signed sign kinds value h ih =>
    rw [List.forall_mem_cons] at hkinds
    exact forall_nodes_withSign (ih hkinds.2) (fun _ ↦ trivial) fun _ ↦ trivial
  | plus hlhs hrhs ihl ihr | minus hlhs hrhs ihl ihr | times hlhs hrhs ihl ihr
  | divided hlhs hrhs ihl ihr | modulo hlhs hrhs ihl ihr | raised hlhs hrhs ihl ihr =>
    rw [List.forall_mem_append, List.forall_mem_cons] at hkinds
    exact Expr.forall_nodes_binary.2 ⟨trivial, ihl hkinds.1, ihr hkinds.2.2⟩
  | juxtaposed hlhs hrhs hfactor ihl ihr =>
    rw [List.forall_mem_append] at hkinds
    exact Expr.forall_nodes_binary.2 ⟨trivial, ihl hkinds.1, ihr hkinds.2⟩
  | indexed hbase hindex ihbase ihindex =>
    rw [List.forall_mem_append, List.forall_mem_cons] at hkinds
    exact Expr.forall_nodes_subscript.2 ⟨trivial, ihbase hkinds.1, ihindex hkinds.2.2⟩
  | fraction isCall hrole habove hbelow ihl ihr =>
    rw [List.forall_mem_append, List.forall_mem_cons] at hkinds
    exact Expr.forall_nodes_binary.2 ⟨trivial, ihl hkinds.1.2, ihr hkinds.2⟩
  | root isCall hrole h hopen ih =>
    rw [List.forall_mem_cons] at hkinds
    exact Expr.forall_nodes_apply.2 ⟨.inl rfl, ih hkinds.2⟩
  | indexedRoot isCall hrole hindex h ihindex ih =>
    simp only [List.forall_mem_append, List.forall_mem_cons] at hkinds
    refine Expr.forall_nodes_binary.2 ⟨trivial, ih hkinds.2.2, ?_⟩
    refine Expr.forall_nodes_binary.2 ⟨trivial, ?_, ihindex hkinds.1.2.2⟩
    simp [Expr.nodes, Expr.IsSpelled]
  | application isCall hrole h ih =>
    rw [List.forall_mem_cons] at hkinds
    have hword := isWord_of_nameToken hkinds.1
    exact Expr.forall_nodes_apply.2 ⟨.inr ⟨hword, hrole⟩, ih hkinds.2⟩
  | group hpartner h ih =>
    rw [List.forall_mem_append, List.forall_mem_cons] at hkinds
    exact ih hkinds.1.2
  | _ => simp_all

def IsPhraseTree (vocabulary : Vocabulary) (expr : Expr) : Prop :=
  ∀ node ∈ expr.nodes, node.isShaped = true ∧ node.IsSpelled vocabulary

theorem IsPhraseTree.isEquation {expr : Expr} (h : IsPhraseTree vocabulary expr) :
    expr.isEquation = false :=
  Expr.isEquation_of_isShaped (h expr expr.self_mem_nodes).1

theorem Derives.isPhraseTree (h : Derives vocabulary category kinds value)
    (hkinds : ∀ kind ∈ kinds, kind.IsSpelled) : IsPhraseTree vocabulary value :=
  fun node hnode ↦ ⟨h.isShaped node hnode, h.isSpelled hkinds node hnode⟩

/-- The tree of a formula is that of a phrase, or an equation of two such trees. -/
theorem IsFormula.isFormulaOf (h : IsFormula vocabulary kinds (some value))
    (hkinds : ∀ kind ∈ kinds, kind.IsSpelled) : value.IsFormulaOf (IsPhraseTree vocabulary) := by
  cases h with
  | sum h =>
    have htree := h.isPhraseTree hkinds
    have hequation := htree.isEquation
    cases value <;> first | exact htree | contradiction
  | equation hlhs hrhs =>
    rw [List.forall_mem_append, List.forall_mem_cons] at hkinds
    exact ⟨hlhs.isPhraseTree hkinds.1, hrhs.isPhraseTree hkinds.2.2⟩

/-- Each name in the tree of a formula is spelled as a name of a node. -/
theorem forall_isSpelled (h : value.IsFormulaOf (IsPhraseTree vocabulary)) :
    ∀ node ∈ value.nodes, node.IsSpelled vocabulary := by
  cases value with
  | equation lhs rhs =>
    exact Expr.forall_nodes_equation.2 ⟨trivial, fun node hnode ↦ (h.1 node hnode).2,
      fun node hnode ↦ (h.2 node hnode).2⟩
  | _ => exact fun node hnode ↦ (h node hnode).2

theorem forall_isShaped (h : value.IsFormulaOf (IsPhraseTree vocabulary)) :
    ∀ node ∈ value.nodes, node.isEquation = false → node.isShaped = true := by
  cases value with
  | equation lhs rhs =>
    exact Expr.forall_nodes_equation.2 ⟨fun hequation ↦ Bool.noConfusion hequation,
      fun node hnode _ ↦ (h.1 node hnode).1, fun node hnode _ ↦ (h.2 node hnode).1⟩
  | _ => exact fun node hnode _ ↦ (h node hnode).1

end Grammar

open Grammar

theorem Latex.isFormulaOf_of_parse {text : String} {expr : Expr}
    (h : Latex.parse text = .ok (some expr)) : expr.IsFormulaOf (IsPhraseTree .common) := by
  obtain ⟨kinds, hgives, hformula⟩ := parse_eq_ok_iff.1 h
  exact hformula.isFormulaOf (isSpelled_of_gives hgives)

theorem Linear.isFormulaOf_of_parse {text : String} {expr : Expr}
    (h : Linear.parse text = .ok (some expr)) : expr.IsFormulaOf (IsPhraseTree .common) := by
  obtain ⟨kinds, hgives, hformula⟩ := parse_eq_ok_iff.1 h
  exact hformula.isFormulaOf (isSpelled_of_gives hgives)

end FormulaText
