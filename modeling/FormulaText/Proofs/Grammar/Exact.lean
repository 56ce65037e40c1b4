import FormulaText.Proofs.Grammar.Completeness
import FormulaText.Proofs.Grammar.Soundness
import FormulaText.Token.Playback

/-!
# Readings and the grammar

A source is read as a formula exactly if its tokens are one in the grammar. A reading has one
result, so no tokens stand for two trees.
-/

namespace FormulaText.Grammar

open Reader

variable {σ : Type} [FiniteTokenSource σ] {vocabulary : Vocabulary}

theorem parse_eq_ok_iff_accepts {source : σ} {value? : Option Expr} :
    parse vocabulary source = .ok value? ↔
      ∃ after, Accepts (formula vocabulary (depthFor source)) (.start source) value? after := by
  have hdeep := formula_ne_tooDeep vocabulary (.start source) (Nat.le_refl (depthFor source))
  change (Outcome.reading _ hdeep).result = _ ↔ _
  unfold Accepts
  generalize formula vocabulary (depthFor source) (.start source) = outcome at hdeep
  cases outcome with
  | accepted found after => simp [Outcome.reading]
  | rejected error after => simp [Outcome.reading]
  | tooDeep after => exact absurd rfl (hdeep after)

/-- A source is read as what its tokens stand for in the grammar. -/
theorem parse_eq_ok_iff {source : σ} {value? : Option Expr} :
    parse vocabulary source = .ok value? ↔
      ∃ kinds, Gives source kinds ∧ IsFormula vocabulary kinds value? := by
  rw [parse_eq_ok_iff_accepts]
  constructor
  · rintro ⟨after, haccepts⟩
    exact isFormula_of_accepts haccepts
  · rintro ⟨kinds, hgives, hformula⟩
    have hreaches : Reaches (formula vocabulary (depthFor source)) (.start source)
        fun found? _ ↦ found? = value? := reaches_formula hformula hgives
    have hdeep := formula_ne_tooDeep vocabulary (.start source) (Nat.le_refl (depthFor source))
    unfold Reaches at hreaches
    unfold Accepts
    cases houtcome : formula vocabulary (depthFor source) (.start source) with
    | accepted found? after =>
      rw [houtcome] at hreaches
      exact ⟨after, congrArg (fun value? ↦ Outcome.accepted value? after) hreaches⟩
    | rejected error after =>
      rw [houtcome] at hreaches
      exact hreaches.elim
    | tooDeep after => exact absurd houtcome (hdeep after)

/-- A source that gives known tokens is read as what they stand for. -/
theorem parse_eq_ok_iff_of_gives {source : σ} {kinds : List Token.Kind} {value? : Option Expr}
    (h : Gives source kinds) :
    parse vocabulary source = .ok value? ↔ IsFormula vocabulary kinds value? := by
  rw [parse_eq_ok_iff]
  constructor
  · rintro ⟨others, hothers, hformula⟩
    rwa [answers_unique h hothers] at hformula
  · intro hformula
    exact ⟨kinds, h, hformula⟩

/-- What a reading gives can be found by computing it. -/
theorem eq_ok_of_toOption {ε α : Type} {result : Except ε α} {value : α}
    (h : result.toOption = some value) : result = .ok value := by
  cases result with
  | error error => contradiction
  | ok found => exact congrArg Except.ok (Option.some.inj h)

/-- An error can be found by computing it. -/
theorem eq_error_of_match {α : Type} {result : Except SyntaxError α} {error : SyntaxError}
    (h : (match result with | .error found => some found | .ok _ => none) = some error) :
    result = .error error := by
  cases result with
  | error found => exact congrArg Except.error (Option.some.inj h)
  | ok value => contradiction

/-- A list of tokens gives all tokens before the first end of input. -/
theorem gives_playback (playback : Playback) (tokens : List Token)
    (h : playback.upcoming = tokens.map .ok) :
    Gives playback ((tokens.map Token.kind).takeWhile (· ≠ .endOfInput)) := by
  induction tokens generalizing playback with
  | nil =>
    have hnext : TokenSource.next playback = playback.next := rfl
    rw [Gives, hnext, Playback.next, h]
    exact ⟨_, rfl, rfl⟩
  | cons token tokens ih =>
    have hnext : TokenSource.next playback = playback.next := rfl
    rw [Gives, hnext, Playback.next, h, List.map_cons, List.map_cons]
    by_cases hkind : token.kind = .endOfInput
    · rw [List.takeWhile_cons_of_neg (by simpa using hkind)]
      exact ⟨token, rfl, hkind⟩
    · rw [List.takeWhile_cons_of_pos (by simpa using hkind)]
      exact ⟨token, rfl, rfl, hkind, ih _ rfl⟩

/-- A list of tokens is accepted exactly if the tokens before its end are a formula of the grammar,
the tree that is built is the one of the grammar, and the grammar gives the tokens no other tree. -/
theorem parse_playback_iff_isFormula (vocabulary : Vocabulary) (text : String)
    (tokens : List Token) :
    (∀ value?, parse vocabulary (Playback.ofList text (tokens.map .ok)) = .ok value? ↔
      IsFormula vocabulary ((tokens.map Token.kind).takeWhile (· ≠ .endOfInput)) value?) ∧
    (∀ value? other?,
      IsFormula vocabulary ((tokens.map Token.kind).takeWhile (· ≠ .endOfInput)) value? →
      IsFormula vocabulary ((tokens.map Token.kind).takeWhile (· ≠ .endOfInput)) other? →
        value? = other?) := by
  have hgives := gives_playback (Playback.ofList text (tokens.map .ok)) tokens rfl
  refine ⟨fun value? ↦ parse_eq_ok_iff_of_gives hgives, fun value? other? hvalue hother ↦ ?_⟩
  have hparse := (parse_eq_ok_iff_of_gives hgives).2 hvalue
  rw [(parse_eq_ok_iff_of_gives hgives).2 hother] at hparse
  exact (Except.ok.inj hparse).symm

end FormulaText.Grammar
