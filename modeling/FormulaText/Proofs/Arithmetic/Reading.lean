import FormulaText.Proofs.Arithmetic.Phrases

/-!
# Phrases that are written sums

A phrase whose tokens belong to sums and products, without a sign before an operand, is a written
sum, and its tree is the one that is read.
-/

namespace FormulaText

open Grammar

/-! ## Parts of arithmetic tokens -/

section

variable {behindOperand : Bool} {first rest : List Token.Kind}

/-- The rest begins behind some token, or where the whole begins. -/
theorem signsBetween_append (h : signsBetween behindOperand (first ++ rest) = true) :
    signsBetween behindOperand first = true ∧ ∃ behindOther, signsBetween behindOther rest = true := by
  induction first generalizing behindOperand with
  | nil => exact ⟨rfl, behindOperand, h⟩
  | cons kind first ih =>
    rw [List.cons_append, signsBetween, Bool.and_eq_true] at h
    obtain ⟨hfirst, hrest⟩ := ih h.2
    rw [signsBetween, Bool.and_eq_true]
    exact ⟨⟨h.1, hfirst⟩, hrest⟩

/-- Only a sign needs an operand before it. -/
theorem signsBetween_of_head {kind : Token.Kind} (hplus : kind ≠ .operator .plus)
    (hminus : kind ≠ .operator .minus) (h : signsBetween behindOperand (kind :: rest) = true) :
    signsBetween false (kind :: rest) = true := by
  rw [signsBetween, Bool.and_eq_true] at h
  rw [signsBetween, h.2]
  simp [hplus, hminus]

theorem all_append_of_isArithmetic (h : isArithmetic (first ++ rest) = true) :
    (first.all Token.Kind.isArithmetic = true ∧ rest.all Token.Kind.isArithmetic = true) ∧
      signsBetween false (first ++ rest) = true := by
  rwa [isArithmetic, List.all_append, Bool.and_eq_true, Bool.and_eq_true] at h

/-- The operands of an operator. -/
theorem isArithmetic_operands {op : Operator}
    (h : isArithmetic (first ++ .operator op :: rest) = true) :
    isArithmetic first = true ∧ isArithmetic rest = true := by
  obtain ⟨⟨hfirst, hrest⟩, hsigns⟩ := all_append_of_isArithmetic h
  rw [List.all_cons, Bool.and_eq_true] at hrest
  obtain ⟨hleft, behindOther, hright⟩ := signsBetween_append hsigns
  rw [signsBetween, Bool.and_eq_true] at hright
  have hafter : signsBetween false rest = true := hright.2
  rw [isArithmetic, isArithmetic, hfirst, hleft, hrest.2, hafter]
  exact ⟨rfl, rfl⟩

/-- The factors of a product without its sign. -/
theorem isArithmetic_factors (hfactor : rest.head?.any Token.Kind.beginsFactor)
    (h : isArithmetic (first ++ rest) = true) :
    isArithmetic first = true ∧ isArithmetic rest = true := by
  obtain ⟨⟨hfirst, hrest⟩, hsigns⟩ := all_append_of_isArithmetic h
  obtain ⟨hleft, behindOther, hright⟩ := signsBetween_append hsigns
  have hafter : signsBetween false rest = true := by
    cases rest with
    | nil => rfl
    | cons kind rest =>
      apply signsBetween_of_head _ _ hright
      · rintro rfl
        contradiction
      · rintro rfl
        contradiction
  rw [isArithmetic, isArithmetic, hfirst, hleft, hrest, hafter]
  exact ⟨rfl, rfl⟩

/-- What stands in brackets. -/
theorem isArithmetic_inside {mark partner : Char}
    (h : isArithmetic (.bracket (.opening mark) :: rest ++ [.bracket (.closing partner)]) = true) :
    isArithmetic rest = true := by
  obtain ⟨⟨hcontent, -⟩, hsigns⟩ := all_append_of_isArithmetic h
  rw [List.all_cons, Bool.and_eq_true] at hcontent
  have hopening := (signsBetween_append hsigns).1
  rw [signsBetween, Bool.and_eq_true] at hopening
  have hafter : signsBetween false rest = true := hopening.2
  rw [isArithmetic, hcontent.2, hafter]
  rfl

theorem isArithmetic_head {kind : Token.Kind} (h : isArithmetic (kind :: rest) = true) :
    kind.isArithmetic = true := by
  rw [isArithmetic, List.all_cons, Bool.and_eq_true, Bool.and_eq_true] at h
  exact h.1.1

end

namespace Arithmetic

def tierOf : Category → Tier
  | .sum => .sum
  | .product => .term
  | _ => .factor

variable {vocabulary : Vocabulary} {category : Category} {kinds : List Token.Kind} {expr : Expr}

/-- A phrase of arithmetic tokens is written as a sum, a term or a factor. -/
theorem exists_written (h : Derives vocabulary category kinds expr)
    (harithmetic : isArithmetic kinds = true) :
    ∃ written : Written Atom (tierOf category), written.kinds = kinds ∧ written.expr = expr := by
  induction h with
  | sum_of_product h ih =>
    obtain ⟨term, hkinds, hexpr⟩ := ih harithmetic
    exact ⟨.ofTerm term, hkinds, hexpr⟩
  | plus hlhs hrhs ihlhs ihrhs =>
    obtain ⟨hleft, hright⟩ := isArithmetic_operands harithmetic
    obtain ⟨first, rfl, rfl⟩ := ihlhs hleft
    obtain ⟨rest, rfl, rfl⟩ := ihrhs hright
    exact ⟨.sum .plus first rest, rfl, rfl⟩
  | minus hlhs hrhs ihlhs ihrhs =>
    obtain ⟨hleft, hright⟩ := isArithmetic_operands harithmetic
    obtain ⟨first, rfl, rfl⟩ := ihlhs hleft
    obtain ⟨rest, rfl, rfl⟩ := ihrhs hright
    rw [rest.isBinary_expr, rest.endsClosed_kinds]
    exact ⟨.sum .minus first rest, rfl, rfl⟩
  | product_of_quotient h ih =>
    obtain ⟨factor, hkinds, hexpr⟩ := ih harithmetic
    exact ⟨.ofFactor factor, hkinds, hexpr⟩
  | times hlhs hrhs ihlhs ihrhs =>
    obtain ⟨hleft, hright⟩ := isArithmetic_operands harithmetic
    obtain ⟨first, rfl, rfl⟩ := ihlhs hleft
    obtain ⟨rest, rfl, rfl⟩ := ihrhs hright
    exact ⟨.product true first rest, rfl, rfl⟩
  | juxtaposed hlhs hrhs hfactor ihlhs ihrhs =>
    obtain ⟨hleft, hright⟩ := isArithmetic_factors hfactor harithmetic
    obtain ⟨first, rfl, rfl⟩ := ihlhs hleft
    obtain ⟨rest, rfl, rfl⟩ := ihrhs hright
    exact ⟨.product false first rest, rfl, rfl⟩
  | quotient_of_remainder h ih => exact ih harithmetic
  | remainder_of_power h ih => exact ih harithmetic
  | power_of_subscript h ih => exact ih harithmetic
  | subscript_of_operand h ih => exact ih harithmetic
  | operand_of_named h ih => exact ih harithmetic
  | operand_of_group h ih => exact ih harithmetic
  | number value =>
    obtain ⟨magnitude, rfl⟩ : ∃ magnitude, value = .finite false magnitude := by
      have hatom := isArithmetic_head harithmetic
      match value, hatom with
      | .finite false magnitude, _ => exact ⟨magnitude, rfl⟩
    exact ⟨.leaf (.number magnitude), rfl, rfl⟩
  | symbol name => exact ⟨.leaf (.name name), rfl, rfl⟩
  | @group mark partner _ _ hpartner h ih =>
    obtain ⟨content, rfl, rfl⟩ := ih (isArithmetic_inside harithmetic)
    exact ⟨.group mark partner content, rfl, rfl⟩
  | signed sign h ih =>
    -- A sign that begins a phrase has no operand before it.
    cases sign <;> simp [isArithmetic, signToken, signsBetween] at harithmetic
  | divided | modulo | raised | indexed =>
    have hmark := (all_append_of_isArithmetic harithmetic).1.2
    rw [List.all_cons, Bool.and_eq_true] at hmark
    exact absurd hmark.1 (by decide)
  | plain isCall | fraction isCall | root isCall | indexedRoot isCall | application isCall =>
    have hname := isArithmetic_head harithmetic
    cases isCall <;> exact absurd hname Bool.false_ne_true

end Arithmetic

end FormulaText
