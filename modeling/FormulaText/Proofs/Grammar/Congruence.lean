import FormulaText.Proofs.Grammar.Completeness
import FormulaText.Proofs.Grammar.Lookahead

/-!
# Relations that the rules keep

The rules are put together from a few readers that look ahead, consume, log and reject. So a
relation between readers that holds between these, and that is kept where one reader goes on after
another, holds between all rules of two vocabularies. A vocabulary matters only for the role of the
name ahead, so the vocabularies may differ in names that no token ahead has. Of the faults only those
matter that a rule comes to find. The rules are looked at together, by induction on their depth.
-/

namespace FormulaText

/-- Whether a rule comes to reject a token for a fault. No rule does so for an empty group. -/
def Fault.isOfRule : Fault → Bool
  | trailingToken _ | missingRightSide | unexpectedToken _ | missingOperand _ | notASign _ |
    openIndex _ | missingGroup _ | openGroup _ _ => true
  | unknownSymbol _ | bareDelimiter _ | invalidNumber _ | emptyGroup | other _ => false

namespace Grammar

open Reader

variable {σ τ : Type} [TokenSource σ] [TokenSource τ]

/-- A relation between readers of two sources that the rules are built with. What follows a look
ahead has to be in it only for the tokens that are known to come. -/
structure IsCongruence (Known : Token → Prop) (R : ∀ α : Type, Reader σ α → Reader τ α → Prop) :
    Prop where
  giveUp {α : Type} (twin : Reader τ α) : R α giveUp twin
  pure {α : Type} (value : α) : R α (Pure.pure value) (Pure.pure value)
  bind {α β : Type} {reader : Reader σ α} {twin : Reader τ α} {next : α → Reader σ β}
    {twinNext : α → Reader τ β} (h : R α reader twin)
    (hnext : ∀ value, R β (next value) (twinNext value)) :
    R β (reader >>= next) (twin >>= twinNext)
  peek {α : Type} {next : Token → Reader σ α} {twinNext : Token → Reader τ α}
    (hnext : ∀ token, Known token → R α (next token) (twinNext token)) :
    R α (peek >>= next) (peek >>= twinNext)
  enter (rule : Rule) : R Unit (enter rule) (enter rule)
  advance : R Token advance advance
  staysGrouped (operand : Expr) : R Bool (staysGrouped operand) (staysGrouped operand)
  reject {α : Type} (fault : Fault) (hfault : fault.isOfRule = true) :
    R α (reject fault) (reject fault)

/-- Whether a token stands for the same in two vocabularies: if it is a name, the name has the same
role. -/
def SameRole (vocabulary other : Vocabulary) (token : Token) : Prop :=
  ∀ isCall name, token.kind = nameToken isCall name → roleOf vocabulary name = roleOf other name

structure RulesRelated (R : ∀ α : Type, Reader σ α → Reader τ α → Prop)
    (vocabulary other : Vocabulary) (depth deeper : Nat) : Prop where
  expr : R _ (expr vocabulary depth) (expr other deeper)
  sum : R _ (sum vocabulary depth) (sum other deeper)
  product : R _ (product vocabulary depth) (product other deeper)
  quotient : R _ (quotient vocabulary depth) (quotient other deeper)
  quotientFrom (lhs : Expr) :
    R _ (quotientFrom vocabulary depth lhs) (quotientFrom other deeper lhs)
  remainder : R _ (remainder vocabulary depth) (remainder other deeper)
  power : R _ (power vocabulary depth) (power other deeper)
  subscript : R _ (subscript vocabulary depth) (subscript other deeper)
  operand : R _ (operand vocabulary depth) (operand other deeper)
  signed : R _ (signed vocabulary depth) (signed other deeper)
  named (name : String) (isCall : Bool) (hrole : roleOf vocabulary name = roleOf other name) :
    R _ (named vocabulary depth name isCall) (named other deeper name isCall)
  fraction : R _ (fraction vocabulary depth) (fraction other deeper)
  root : R _ (root vocabulary depth) (root other deeper)
  application (name : String) :
    R _ (application vocabulary depth name) (application other deeper name)
  group : R _ (group vocabulary depth) (group other deeper)

namespace RulesRelated

variable {Known : Token → Prop} {R : ∀ α : Type, Reader σ α → Reader τ α → Prop}
  {vocabulary other : Vocabulary} {depth deeper : Nat} (h : IsCongruence Known R)

include h

theorem zero : RulesRelated R vocabulary other 0 deeper where
  expr := h.giveUp _
  sum := h.giveUp _
  product := h.giveUp _
  quotient := h.giveUp _
  quotientFrom _ := h.giveUp _
  remainder := h.giveUp _
  power := h.giveUp _
  subscript := h.giveUp _
  operand := h.giveUp _
  signed := h.giveUp _
  named _ _ _ := h.giveUp _
  fraction := h.giveUp _
  root := h.giveUp _
  application _ := h.giveUp _
  group := h.giveUp _

variable (ih : RulesRelated R vocabulary other depth deeper)

include ih

theorem expr_succ :
    R _ (Grammar.expr vocabulary (depth + 1)) (Grammar.expr other (deeper + 1)) := by
  rw [Grammar.expr, Grammar.expr]
  refine h.bind (h.enter _) fun _ ↦ h.peek fun ahead _ ↦ ?_
  split
  · exact h.pure _
  iterate 2 exact h.bind h.advance fun _ ↦ h.reject _ rfl
  · exact h.bind ih.sum fun _ ↦ h.pure _

theorem sum_succ : R _ (Grammar.sum vocabulary (depth + 1)) (Grammar.sum other (deeper + 1)) := by
  rw [Grammar.sum, Grammar.sum]
  refine h.bind (h.enter _) fun _ ↦ h.bind ih.product fun lhs ↦ h.peek fun ahead _ ↦ ?_
  split
  · exact h.bind h.advance fun _ ↦ h.bind ih.sum fun _ ↦ h.pure _
  · exact h.bind h.advance fun _ ↦ h.bind ih.sum fun rhs ↦
      h.bind (h.staysGrouped rhs) fun _ ↦ h.pure _
  · exact h.pure _

theorem product_succ :
    R _ (Grammar.product vocabulary (depth + 1)) (Grammar.product other (deeper + 1)) := by
  rw [Grammar.product, Grammar.product]
  refine h.bind (h.enter _) fun _ ↦ h.bind ih.quotient fun lhs ↦ h.peek fun ahead _ ↦ ?_
  split
  iterate 2 exact h.bind h.advance fun _ ↦ h.bind ih.product fun _ ↦ h.pure _
  · split
    · exact h.bind ih.product fun _ ↦ h.pure _
    · exact h.pure _

theorem quotient_succ :
    R _ (Grammar.quotient vocabulary (depth + 1)) (Grammar.quotient other (deeper + 1)) := by
  rw [Grammar.quotient, Grammar.quotient]
  exact h.bind (h.enter _) fun _ ↦ h.bind ih.remainder fun lhs ↦ ih.quotientFrom lhs

theorem quotientFrom_succ (lhs : Expr) :
    R _ (Grammar.quotientFrom vocabulary (depth + 1) lhs)
      (Grammar.quotientFrom other (deeper + 1) lhs) := by
  rw [Grammar.quotientFrom, Grammar.quotientFrom]
  refine h.peek fun ahead _ ↦ ?_
  split
  · exact h.bind h.advance fun _ ↦ h.bind ih.remainder fun _ ↦ ih.quotientFrom _
  · exact h.pure _

theorem remainder_succ :
    R _ (Grammar.remainder vocabulary (depth + 1)) (Grammar.remainder other (deeper + 1)) := by
  rw [Grammar.remainder, Grammar.remainder]
  refine h.bind (h.enter _) fun _ ↦ h.bind ih.power fun lhs ↦ h.peek fun ahead _ ↦ ?_
  split
  · exact h.bind h.advance fun _ ↦ h.bind ih.remainder fun _ ↦ h.pure _
  · exact h.pure _

theorem power_succ :
    R _ (Grammar.power vocabulary (depth + 1)) (Grammar.power other (deeper + 1)) := by
  rw [Grammar.power, Grammar.power]
  refine h.bind (h.enter _) fun _ ↦ h.bind ih.subscript fun lhs ↦ h.peek fun ahead _ ↦ ?_
  split
  · exact h.bind h.advance fun _ ↦ h.bind ih.power fun _ ↦ h.pure _
  · exact h.pure _

theorem subscript_succ :
    R _ (Grammar.subscript vocabulary (depth + 1)) (Grammar.subscript other (deeper + 1)) := by
  rw [Grammar.subscript, Grammar.subscript]
  refine h.bind (h.enter _) fun _ ↦ h.bind ih.operand fun base ↦ h.peek fun ahead _ ↦ ?_
  split
  · exact h.bind h.advance fun _ ↦ h.bind ih.subscript fun _ ↦ h.pure _
  · exact h.pure _

theorem operand_succ (hroles : ∀ token, Known token → SameRole vocabulary other token) :
    R _ (Grammar.operand vocabulary (depth + 1)) (Grammar.operand other (deeper + 1)) := by
  rw [Grammar.operand, Grammar.operand]
  refine h.bind (h.enter _) fun _ ↦ h.peek fun ahead hahead ↦ ?_
  have hrole := hroles ahead hahead
  split
  · exact h.bind h.advance fun _ ↦ h.pure _
  · exact ih.signed
  · exact h.bind h.advance fun _ ↦ h.pure _
  · next name hkind => exact ih.named name false (hrole false name hkind)
  · next name hkind => exact ih.named name true (hrole true name hkind)
  · exact ih.group
  iterate 3 exact h.bind h.advance fun _ ↦ h.reject _ rfl

theorem signed_succ :
    R _ (Grammar.signed vocabulary (depth + 1)) (Grammar.signed other (deeper + 1)) := by
  rw [Grammar.signed, Grammar.signed]
  refine h.bind (h.enter _) fun _ ↦ h.bind h.advance fun found ↦ ?_
  split
  · refine h.bind ih.operand fun value ↦ ?_
    split <;> exact h.pure _
  · refine h.bind ih.operand fun value ↦ ?_
    split
    · exact h.pure _
    · exact h.bind (h.staysGrouped _) fun _ ↦ h.pure _
  · exact h.reject _ rfl

theorem named_succ (name : String) (isCall : Bool)
    (hrole : roleOf vocabulary name = roleOf other name) :
    R _ (Grammar.named vocabulary (depth + 1) name isCall)
      (Grammar.named other (deeper + 1) name isCall) := by
  rw [named_eq_role, named_eq_role, ← hrole]
  refine h.bind (h.enter _) fun _ ↦ ?_
  cases roleOf vocabulary name with
  | fraction => exact ih.fraction
  | root => exact ih.root
  | function => exact ih.application name
  | plain => exact h.bind h.advance fun _ ↦ h.pure _

theorem fraction_succ :
    R _ (Grammar.fraction vocabulary (depth + 1)) (Grammar.fraction other (deeper + 1)) := by
  rw [Grammar.fraction, Grammar.fraction]
  exact h.bind (h.enter _) fun _ ↦ h.bind h.advance fun _ ↦ h.bind ih.group fun _ ↦
    h.bind ih.group fun _ ↦ h.pure _

theorem root_succ :
    R _ (Grammar.root vocabulary (depth + 1)) (Grammar.root other (deeper + 1)) := by
  rw [Grammar.root, Grammar.root]
  refine h.bind (h.enter _) fun _ ↦ h.bind h.advance fun _ ↦ h.peek fun ahead _ ↦ ?_
  split
  · refine h.bind h.advance fun _ ↦ h.bind ih.operand fun _ ↦ h.bind h.advance fun found ↦ ?_
    split
    · exact h.bind ih.group fun _ ↦ h.pure _
    · exact h.reject _ rfl
  · exact h.bind ih.group fun _ ↦ h.pure _

theorem application_succ (name : String) :
    R _ (Grammar.application vocabulary (depth + 1) name)
      (Grammar.application other (deeper + 1) name) := by
  rw [Grammar.application, Grammar.application]
  refine h.bind (h.enter _) fun _ ↦ h.bind h.advance fun _ ↦ h.peek fun ahead _ ↦ ?_
  split
  · exact h.bind ih.group fun _ ↦ h.pure _
  · exact h.bind ih.operand fun _ ↦ h.pure _

theorem group_succ :
    R _ (Grammar.group vocabulary (depth + 1)) (Grammar.group other (deeper + 1)) := by
  -- nothing is ever found between two brackets, so it does not matter what would be done there
  rw [group_eq_groupWith vocabulary depth giveUp, group_eq_groupWith other deeper giveUp,
    groupWith, groupWith]
  refine h.bind (h.enter _) fun _ ↦ h.bind h.advance fun found ↦ ?_
  dsimp only
  split
  · exact h.reject _ rfl
  · refine h.bind ih.expr fun content? ↦ h.bind h.advance fun found ↦ ?_
    split
    · cases content? with
      | some content => exact h.pure _
      | none => exact h.giveUp _
    · exact h.reject _ rfl

theorem succ (hroles : ∀ token, Known token → SameRole vocabulary other token) :
    RulesRelated R vocabulary other (depth + 1) (deeper + 1) where
  expr := expr_succ h ih
  sum := sum_succ h ih
  product := product_succ h ih
  quotient := quotient_succ h ih
  quotientFrom := quotientFrom_succ h ih
  remainder := remainder_succ h ih
  power := power_succ h ih
  subscript := subscript_succ h ih
  operand := operand_succ h ih hroles
  signed := signed_succ h ih
  named := named_succ h ih
  fraction := fraction_succ h ih
  root := root_succ h ih
  application := application_succ h ih
  group := group_succ h ih

end RulesRelated

namespace IsCongruence

variable {Known : Token → Prop} {R : ∀ α : Type, Reader σ α → Reader τ α → Prop}
  {vocabulary other : Vocabulary} {depth deeper : Nat}

theorem rulesRelated (h : IsCongruence Known R)
    (hroles : ∀ token, Known token → SameRole vocabulary other token) (hdepth : depth ≤ deeper) :
    RulesRelated R vocabulary other depth deeper := by
  induction depth generalizing deeper with
  | zero => exact .zero h
  | succ depth ih =>
    obtain ⟨deeper, rfl⟩ := Nat.exists_eq_add_one_of_ne_zero (Nat.ne_of_gt
      (Nat.lt_of_lt_of_le (Nat.succ_pos depth) hdepth))
    exact .succ h (ih (Nat.le_of_succ_le_succ hdepth)) hroles

/-- The readers of whole formulas are related, where the second one may nest its rules deeper. -/
theorem formula (h : IsCongruence Known R)
    (hroles : ∀ token, Known token → SameRole vocabulary other token) (hdepth : depth ≤ deeper) :
    R _ (formula vocabulary depth) (formula other deeper) := by
  have hexpr := (h.rulesRelated hroles hdepth).expr
  have hequation : R _ (equation vocabulary depth) (equation other deeper) := by
    refine h.bind hexpr fun lhs? ↦ ?_
    split
    · exact h.pure _
    · refine h.peek fun ahead _ ↦ ?_
      split
      · refine h.bind h.advance fun _ ↦ h.bind hexpr fun rhs? ↦ ?_
        split
        · exact h.pure _
        · exact h.bind h.advance fun _ ↦ h.reject _ rfl
      · exact h.pure _
  refine h.bind hequation fun expr? ↦ h.bind h.advance fun found ↦ ?_
  split
  · exact h.pure _
  · exact h.reject _ rfl

end IsCongruence

end Grammar

end FormulaText
