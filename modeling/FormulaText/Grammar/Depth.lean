import FormulaText.Grammar.Rules

/-!
# How deep rules nest

Each rule goes down the tiers until it consumes a token, and there are fewer tiers than sixteen. So
a depth of sixteen for each token that is left is enough for every rule, and a reading of a
finite source never gives up (`formula_ne_tooDeep`).
-/

namespace FormulaText.Grammar

variable {σ : Type} [FiniteTokenSource σ]

namespace State

/-- A bound on the number of tokens before the end of the input that are not consumed. -/
def tokensLeft (state : State σ) : Nat :=
  match state.ahead with
  | none => FiniteTokenSource.bound state.source
  | some token =>
    if token.kind = .endOfInput then 0 else FiniteTokenSource.bound state.source + 1

end State

namespace Reader

/-- A look ahead leaves all tokens and shows the next one. -/
theorem peek_ensures (state : State σ) :
    Ensures peek state fun token after ↦
      after.ahead = some token ∧ after.tokensLeft ≤ state.tokensLeft := by
  simp only [peek, ensures_bind, ensures_get]
  cases hahead : state.ahead with
  | some token => exact ⟨hahead, Nat.le_refl _⟩
  | none =>
    simp only [ensures_bind, ensures_pull, ensures_modify, ensures_pure, true_and]
    intro token source hnext
    simp only [State.tokensLeft, hahead]
    split
    · exact Nat.zero_le _
    · next hkind => exact FiniteTokenSource.bound_lt hnext hkind

/-- Consuming a token other than the end of the input leaves fewer. -/
theorem advance_ensures (state : State σ) :
    Ensures advance state fun token after ↦
      token.kind ≠ .endOfInput → after.tokensLeft < state.tokensLeft := by
  refine (peek_ensures state).bind fun token after h hkind ↦ ?_
  obtain ⟨hahead, hle⟩ := h
  refine Nat.lt_of_lt_of_le ?_ hle
  simp [State.tokensLeft, hahead, hkind]

/-- The token ahead is the one that is consumed. -/
theorem advance_ensures_of_ahead {state : State σ} {token : Token} (h : state.ahead = some token) :
    Ensures advance state fun found after ↦
      found = token ∧ (token.kind ≠ .endOfInput → after.tokensLeft < state.tokensLeft) := by
  simp only [advance, peek, ensures_bind, ensures_get, h, ensures_pure, ensures_modify, true_and]
  intro hkind
  simp [State.tokensLeft, h, hkind]

@[simp] theorem tokensLeft_enter (rule : Rule) (state : State σ) :
    State.tokensLeft { state with events := .entered rule :: state.events } = state.tokensLeft :=
  rfl

end Reader

/-- A reader does not give up, and leaves fewer tokens if it accepts. -/
abbrev Consumes {α : Type} (reader : Reader σ α) (state : State σ) : Prop :=
  reader.Ensures state fun _ after ↦ after.tokensLeft < state.tokensLeft

/-- The token ahead is known, and it is not the end of the input. -/
abbrev HasAhead (state : State σ) : Prop :=
  ∃ token, state.ahead = some token ∧ token.kind ≠ .endOfInput

omit [FiniteTokenSource σ] in
theorem hasAhead_enter {rule : Rule} {state : State σ} :
    HasAhead { state with events := .entered rule :: state.events } ↔ HasAhead state := Iff.rfl

/-- Sixteen for each token left, and a little more for the rules above the current one, is depth
enough for each rule. -/
structure DepthSuffices (vocabulary : Vocabulary) (σ : Type) [FiniteTokenSource σ] (depth : Nat) :
    Prop where
  expr (state : State σ) (h : 16 * state.tokensLeft + 12 ≤ depth) :
    (expr vocabulary depth).Ensures state fun _ after ↦ after.tokensLeft ≤ state.tokensLeft
  sum (state : State σ) (h : 16 * state.tokensLeft + 11 ≤ depth) :
    Consumes (sum vocabulary depth) state
  product (state : State σ) (h : 16 * state.tokensLeft + 10 ≤ depth) :
    Consumes (product vocabulary depth) state
  quotient (state : State σ) (h : 16 * state.tokensLeft + 9 ≤ depth) :
    Consumes (quotient vocabulary depth) state
  quotientFrom (state : State σ) (lhs : Expr) (h : 16 * state.tokensLeft + 1 ≤ depth) :
    (quotientFrom vocabulary depth lhs).Ensures state fun _ after ↦
      after.tokensLeft ≤ state.tokensLeft
  remainder (state : State σ) (h : 16 * state.tokensLeft + 8 ≤ depth) :
    Consumes (remainder vocabulary depth) state
  power (state : State σ) (h : 16 * state.tokensLeft + 7 ≤ depth) :
    Consumes (power vocabulary depth) state
  subscript (state : State σ) (h : 16 * state.tokensLeft + 6 ≤ depth) :
    Consumes (subscript vocabulary depth) state
  operand (state : State σ) (h : 16 * state.tokensLeft + 5 ≤ depth) :
    Consumes (operand vocabulary depth) state
  signed (state : State σ) (hahead : HasAhead state) (h : 16 * state.tokensLeft + 4 ≤ depth) :
    Consumes (signed vocabulary depth) state
  named (state : State σ) (name : String) (isCall : Bool) (hahead : HasAhead state)
    (h : 16 * state.tokensLeft + 4 ≤ depth) : Consumes (named vocabulary depth name isCall) state
  fraction (state : State σ) (hahead : HasAhead state) (h : 16 * state.tokensLeft + 3 ≤ depth) :
    Consumes (fraction vocabulary depth) state
  root (state : State σ) (hahead : HasAhead state) (h : 16 * state.tokensLeft + 3 ≤ depth) :
    Consumes (root vocabulary depth) state
  application (state : State σ) (name : String) (hahead : HasAhead state)
    (h : 16 * state.tokensLeft + 3 ≤ depth) : Consumes (application vocabulary depth name) state
  group (state : State σ) (h : 16 * state.tokensLeft + 1 ≤ depth) :
    Consumes (group vocabulary depth) state

namespace DepthSuffices

open Reader

variable {vocabulary : Vocabulary} {depth : Nat}

theorem zero : DepthSuffices vocabulary σ 0 := by
  constructor <;> intros <;> omega

theorem advance_of_hasAhead {state : State σ} (h : HasAhead state) : Consumes advance state := by
  obtain ⟨token, hahead, hkind⟩ := h
  exact (advance_ensures_of_ahead hahead).mono fun _ _ h ↦ h.2 hkind

theorem expr_succ (ih : DepthSuffices vocabulary σ depth) (state : State σ)
    (h : 16 * state.tokensLeft + 12 ≤ depth + 1) :
    (Grammar.expr vocabulary (depth + 1)).Ensures state fun _ after ↦
      after.tokensLeft ≤ state.tokensLeft := by
  rw [Grammar.expr, ensures_bind, ensures_enter]
  refine (peek_ensures _).bind fun token peeked ⟨hahead, hle⟩ ↦ ?_
  rw [tokensLeft_enter] at hle
  split
  · exact hle
  iterate 2
    exact (advance_of_hasAhead ⟨token, hahead, by simp_all⟩).bind fun _ _ _ ↦ ensures_reject _ _ _
  · rw [ensures_map]
    refine (ih.sum peeked (by omega)).mono fun _ after hlt ↦ ?_
    omega

theorem sum_succ (ih : DepthSuffices vocabulary σ depth) (state : State σ)
    (h : 16 * state.tokensLeft + 11 ≤ depth + 1) :
    Consumes (Grammar.sum vocabulary (depth + 1)) state := by
  rw [Consumes, Grammar.sum, ensures_bind, ensures_enter]
  refine (ih.product _ (by rw [tokensLeft_enter]; omega)).bind fun lhs read hlhs ↦ ?_
  rw [tokensLeft_enter] at hlhs
  refine (peek_ensures read).bind fun token peeked ⟨hahead, hle⟩ ↦ ?_
  split
  iterate 2
    refine (advance_of_hasAhead ⟨token, hahead, by simp_all⟩).bind fun _ after hlt ↦ ?_
    refine (ih.sum after (by omega)).bind fun rhs last hrhs ↦ ?_
    first
    | rw [ensures_pure]; omega
    | rw [ensures_bind, ensures_staysGrouped, ensures_pure]; omega
  · rw [ensures_pure]
    omega

theorem product_succ (ih : DepthSuffices vocabulary σ depth) (state : State σ)
    (h : 16 * state.tokensLeft + 10 ≤ depth + 1) :
    Consumes (Grammar.product vocabulary (depth + 1)) state := by
  rw [Consumes, Grammar.product, ensures_bind, ensures_enter]
  refine (ih.quotient _ (by rw [tokensLeft_enter]; omega)).bind fun lhs read hlhs ↦ ?_
  rw [tokensLeft_enter] at hlhs
  refine (peek_ensures read).bind fun token peeked ⟨hahead, hle⟩ ↦ ?_
  split
  iterate 2
    refine (advance_of_hasAhead ⟨token, hahead, by simp_all⟩).bind fun _ after hlt ↦ ?_
    refine (ih.product after (by omega)).bind fun rhs last hrhs ↦ ?_
    rw [ensures_pure]
    omega
  · split
    · refine (ih.product peeked (by omega)).bind fun rhs last hrhs ↦ ?_
      rw [ensures_pure]
      omega
    · rw [ensures_pure]
      omega

theorem quotient_succ (ih : DepthSuffices vocabulary σ depth) (state : State σ)
    (h : 16 * state.tokensLeft + 9 ≤ depth + 1) :
    Consumes (Grammar.quotient vocabulary (depth + 1)) state := by
  rw [Consumes, Grammar.quotient, ensures_bind, ensures_enter]
  refine (ih.remainder _ (by rw [tokensLeft_enter]; omega)).bind fun lhs read hlhs ↦ ?_
  rw [tokensLeft_enter] at hlhs
  refine (ih.quotientFrom read lhs (by omega)).mono fun _ after hle ↦ ?_
  omega

theorem quotientFrom_succ (ih : DepthSuffices vocabulary σ depth) (state : State σ) (lhs : Expr)
    (h : 16 * state.tokensLeft + 1 ≤ depth + 1) :
    (Grammar.quotientFrom vocabulary (depth + 1) lhs).Ensures state fun _ after ↦
      after.tokensLeft ≤ state.tokensLeft := by
  rw [Grammar.quotientFrom]
  refine (peek_ensures state).bind fun token peeked ⟨hahead, hle⟩ ↦ ?_
  split
  · refine (advance_of_hasAhead ⟨token, hahead, by simp_all⟩).bind fun _ after hlt ↦ ?_
    refine (ih.remainder after (by omega)).bind fun rhs read hrhs ↦ ?_
    refine (ih.quotientFrom read _ (by omega)).mono fun _ last hlast ↦ ?_
    omega
  · exact hle

theorem remainder_succ (ih : DepthSuffices vocabulary σ depth) (state : State σ)
    (h : 16 * state.tokensLeft + 8 ≤ depth + 1) :
    Consumes (Grammar.remainder vocabulary (depth + 1)) state := by
  rw [Consumes, Grammar.remainder, ensures_bind, ensures_enter]
  refine (ih.power _ (by rw [tokensLeft_enter]; omega)).bind fun lhs read hlhs ↦ ?_
  rw [tokensLeft_enter] at hlhs
  refine (peek_ensures read).bind fun token peeked ⟨hahead, hle⟩ ↦ ?_
  split
  · refine (advance_of_hasAhead ⟨token, hahead, by simp_all⟩).bind fun _ after hlt ↦ ?_
    refine (ih.remainder after (by omega)).bind fun rhs last hrhs ↦ ?_
    rw [ensures_pure]
    omega
  · rw [ensures_pure]
    omega

theorem power_succ (ih : DepthSuffices vocabulary σ depth) (state : State σ)
    (h : 16 * state.tokensLeft + 7 ≤ depth + 1) :
    Consumes (Grammar.power vocabulary (depth + 1)) state := by
  rw [Consumes, Grammar.power, ensures_bind, ensures_enter]
  refine (ih.subscript _ (by rw [tokensLeft_enter]; omega)).bind fun lhs read hlhs ↦ ?_
  rw [tokensLeft_enter] at hlhs
  refine (peek_ensures read).bind fun token peeked ⟨hahead, hle⟩ ↦ ?_
  split
  · refine (advance_of_hasAhead ⟨token, hahead, by simp_all⟩).bind fun _ after hlt ↦ ?_
    refine (ih.power after (by omega)).bind fun rhs last hrhs ↦ ?_
    rw [ensures_pure]
    omega
  · rw [ensures_pure]
    omega

theorem subscript_succ (ih : DepthSuffices vocabulary σ depth) (state : State σ)
    (h : 16 * state.tokensLeft + 6 ≤ depth + 1) :
    Consumes (Grammar.subscript vocabulary (depth + 1)) state := by
  rw [Consumes, Grammar.subscript, ensures_bind, ensures_enter]
  refine (ih.operand _ (by rw [tokensLeft_enter]; omega)).bind fun base read hbase ↦ ?_
  rw [tokensLeft_enter] at hbase
  refine (peek_ensures read).bind fun token peeked ⟨hahead, hle⟩ ↦ ?_
  split
  · refine (advance_of_hasAhead ⟨token, hahead, by simp_all⟩).bind fun _ after hlt ↦ ?_
    refine (ih.subscript after (by omega)).bind fun index last hindex ↦ ?_
    rw [ensures_pure]
    omega
  · rw [ensures_pure]
    omega

theorem operand_succ (ih : DepthSuffices vocabulary σ depth) (state : State σ)
    (h : 16 * state.tokensLeft + 5 ≤ depth + 1) :
    Consumes (Grammar.operand vocabulary (depth + 1)) state := by
  rw [Consumes, Grammar.operand, ensures_bind, ensures_enter]
  refine (peek_ensures _).bind fun token peeked ⟨hahead, hle⟩ ↦ ?_
  rw [tokensLeft_enter] at hle
  have hnext : token.kind ≠ .endOfInput → HasAhead peeked := fun hkind ↦ ⟨token, hahead, hkind⟩
  split
  · refine (advance_of_hasAhead (hnext (by simp_all))).bind fun _ after hlt ↦ ?_
    rw [ensures_pure]
    omega
  · exact (ih.signed peeked (hnext (by simp_all)) (by omega)).mono fun _ _ _ ↦ by omega
  · refine (advance_of_hasAhead (hnext (by simp_all))).bind fun _ after hlt ↦ ?_
    rw [ensures_pure]
    omega
  · exact (ih.named peeked _ _ (hnext (by simp_all)) (by omega)).mono fun _ _ _ ↦ by omega
  · exact (ih.named peeked _ _ (hnext (by simp_all)) (by omega)).mono fun _ _ _ ↦ by omega
  · exact (ih.group peeked (by omega)).mono fun _ _ _ ↦ by omega
  iterate 3 exact (advance_ensures peeked).bind fun _ _ _ ↦ ensures_reject _ _ _

theorem signed_succ (ih : DepthSuffices vocabulary σ depth) (state : State σ)
    (hahead : HasAhead state) (h : 16 * state.tokensLeft + 4 ≤ depth + 1) :
    Consumes (Grammar.signed vocabulary (depth + 1)) state := by
  rw [Consumes, Grammar.signed, ensures_bind, ensures_enter]
  refine (advance_of_hasAhead (hasAhead_enter.2 hahead)).bind fun found after hlt ↦ ?_
  rw [tokensLeft_enter] at hlt
  split
  · refine (ih.operand after (by omega)).bind fun value last hvalue ↦ ?_
    split <;> rw [ensures_pure] <;> omega
  · refine (ih.operand after (by omega)).bind fun value last hvalue ↦ ?_
    split
    · rw [ensures_pure]
      omega
    · rw [ensures_bind, ensures_staysGrouped, ensures_pure]
      omega
  · exact ensures_reject _ _ _

theorem named_succ (ih : DepthSuffices vocabulary σ depth) (state : State σ) (name : String)
    (isCall : Bool) (hahead : HasAhead state) (h : 16 * state.tokensLeft + 4 ≤ depth + 1) :
    Consumes (Grammar.named vocabulary (depth + 1) name isCall) state := by
  rw [Consumes, Grammar.named, ensures_bind, ensures_enter]
  split
  · exact ih.fraction _ hahead (by rw [tokensLeft_enter]; omega)
  split
  · exact ih.root _ hahead (by rw [tokensLeft_enter]; omega)
  split
  · exact ih.application _ name hahead (by rw [tokensLeft_enter]; omega)
  · refine (advance_of_hasAhead (hasAhead_enter.2 hahead)).bind fun _ after hlt ↦ ?_
    split <;> exact hlt

theorem fraction_succ (ih : DepthSuffices vocabulary σ depth) (state : State σ)
    (hahead : HasAhead state) (h : 16 * state.tokensLeft + 3 ≤ depth + 1) :
    Consumes (Grammar.fraction vocabulary (depth + 1)) state := by
  rw [Consumes, Grammar.fraction, ensures_bind, ensures_enter]
  refine (advance_of_hasAhead (hasAhead_enter.2 hahead)).bind fun _ after hlt ↦ ?_
  rw [tokensLeft_enter] at hlt
  refine (ih.group after (by omega)).bind fun numerator mid hmid ↦ ?_
  refine (ih.group mid (by omega)).bind fun denominator last hlast ↦ ?_
  rw [ensures_pure]
  omega

theorem root_succ (ih : DepthSuffices vocabulary σ depth) (state : State σ)
    (hahead : HasAhead state) (h : 16 * state.tokensLeft + 3 ≤ depth + 1) :
    Consumes (Grammar.root vocabulary (depth + 1)) state := by
  rw [Consumes, Grammar.root, ensures_bind, ensures_enter]
  refine (advance_of_hasAhead (hasAhead_enter.2 hahead)).bind fun _ after hlt ↦ ?_
  rw [tokensLeft_enter] at hlt
  refine (peek_ensures after).bind fun token peeked ⟨hnext, hle⟩ ↦ ?_
  split
  · refine (advance_of_hasAhead ⟨token, hnext, by simp_all⟩).bind fun _ opened hopened ↦ ?_
    refine (ih.operand opened (by omega)).bind fun index read hread ↦ ?_
    refine (advance_ensures read).bind fun found closed hclosed ↦ ?_
    split
    · have := hclosed (by simp_all)
      refine (ih.group closed (by omega)).bind fun radicand last hlast ↦ ?_
      rw [ensures_pure]
      omega
    · exact ensures_reject _ _ _
  · refine (ih.group peeked (by omega)).bind fun radicand last hlast ↦ ?_
    rw [ensures_pure]
    omega

theorem application_succ (ih : DepthSuffices vocabulary σ depth) (state : State σ) (name : String)
    (hahead : HasAhead state) (h : 16 * state.tokensLeft + 3 ≤ depth + 1) :
    Consumes (Grammar.application vocabulary (depth + 1) name) state := by
  rw [Consumes, Grammar.application, ensures_bind, ensures_enter]
  refine (advance_of_hasAhead (hasAhead_enter.2 hahead)).bind fun _ after hlt ↦ ?_
  rw [tokensLeft_enter] at hlt
  refine (peek_ensures after).bind fun token peeked ⟨hnext, hle⟩ ↦ ?_
  split
  · refine (ih.group peeked (by omega)).bind fun argument last hlast ↦ ?_
    rw [ensures_pure]
    omega
  · refine (ih.operand peeked (by omega)).bind fun argument last hlast ↦ ?_
    rw [ensures_pure]
    omega

theorem group_succ (ih : DepthSuffices vocabulary σ depth) (state : State σ)
    (h : 16 * state.tokensLeft + 1 ≤ depth + 1) :
    Consumes (Grammar.group vocabulary (depth + 1)) state := by
  rw [Consumes, Grammar.group, ensures_bind, ensures_enter]
  refine (advance_ensures _).bind fun found opened hopened ↦ ?_
  rw [tokensLeft_enter] at hopened
  cases hfound : found.kind with
  | bracket bracket =>
    have hlt := hopened (by simp [hfound])
    simp only
    split
    · exact ensures_reject _ _ _
    · next partner _ =>
      refine (ih.expr opened (by omega)).bind fun content? read hread ↦ ?_
      refine (advance_ensures read).bind fun found closed hclosed ↦ ?_
      split
      · have := hclosed (by simp_all)
        split
        · rw [ensures_pure]
          omega
        · exact ensures_reject _ _ _
      · exact ensures_reject _ _ _
  | _ => exact ensures_reject _ _ _

theorem succ (ih : DepthSuffices vocabulary σ depth) : DepthSuffices vocabulary σ (depth + 1) where
  expr := ih.expr_succ
  sum := ih.sum_succ
  product := ih.product_succ
  quotient := ih.quotient_succ
  quotientFrom := ih.quotientFrom_succ
  remainder := ih.remainder_succ
  power := ih.power_succ
  subscript := ih.subscript_succ
  operand := ih.operand_succ
  signed := ih.signed_succ
  named := ih.named_succ
  fraction := ih.fraction_succ
  root := ih.root_succ
  application := ih.application_succ
  group := ih.group_succ

end DepthSuffices

theorem depthSuffices (vocabulary : Vocabulary) (depth : Nat) :
    DepthSuffices vocabulary σ depth := by
  induction depth with
  | zero => exact .zero
  | succ depth ih => exact ih.succ

theorem formula_ensures (vocabulary : Vocabulary) (state : State σ) {depth : Nat}
    (h : 16 * state.tokensLeft + 12 ≤ depth) :
    (formula vocabulary depth).Ensures state fun _ _ ↦ True := by
  rw [formula]
  refine (?_ : Reader.Ensures _ state fun _ _ ↦ True).bind fun _ read _ ↦ ?_
  · rw [equation]
    refine ((depthSuffices vocabulary depth).expr state h).bind fun lhs? read hread ↦ ?_
    split
    · trivial
    · refine (Reader.peek_ensures read).bind fun token peeked ⟨hahead, hle⟩ ↦ ?_
      split
      · refine (DepthSuffices.advance_of_hasAhead ⟨token, hahead, by simp_all⟩).bind
          fun _ after hlt ↦ ?_
        refine ((depthSuffices vocabulary depth).expr after (by omega)).bind fun rhs? last _ ↦ ?_
        split
        · trivial
        · exact (Reader.advance_ensures last).bind fun _ _ _ ↦ Reader.ensures_reject _ _ _
      · trivial
  · refine (Reader.advance_ensures read).bind fun _ _ _ ↦ ?_
    split
    · trivial
    · exact Reader.ensures_reject _ _ _

/-- A reading of a whole formula does not give up. -/
theorem formula_ne_tooDeep (vocabulary : Vocabulary) (state : State σ) {depth : Nat}
    (h : 16 * state.tokensLeft + 12 ≤ depth) (after : State σ) :
    formula vocabulary depth state ≠ .tooDeep after := by
  intro hdeep
  have := formula_ensures vocabulary state h
  rwa [Reader.Ensures, hdeep] at this

end FormulaText.Grammar
