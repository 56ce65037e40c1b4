import FormulaText.Proofs.Grammar.Pulls
import FormulaText.Proofs.Scan.Numerals

/-!
# What a reading is rejected for

A reading fails with an error that its source gave, or for a fault that a rule comes to find. As no
group with nothing in it is ever closed, none of them is the fault of such a group. A source may
still give an error with the same message, but the scanners do not.
-/

namespace FormulaText

/-- Two texts differ if one of them begins with what the other one does not begin with. -/
theorem append_ne_of_not_begins {front rest text : String} (h : ¬front.toList <+: text.toList) :
    front ++ rest ≠ text := by
  rintro rfl
  rw [String.toList_append] at h
  exact h (List.prefix_append _ _)

/-- The message for an empty group tells it from all other faults but those with a message of their
own. -/
theorem Fault.eq_emptyGroup_of_message {fault : Fault}
    (h : fault.message = "Expected expression in group") :
    fault = .emptyGroup ∨ ∃ message, fault = .other message := by
  unfold message at h
  cases fault with
  | emptyGroup => exact .inl rfl
  | other message => exact .inr ⟨message, rfl⟩
  | bareDelimiter opens => cases opens <;> exact absurd h (by decide +kernel)
  | missingRightSide => exact absurd h (by decide +kernel)
  | invalidNumber text =>
    dsimp only at h
    rw [String.append_assoc] at h
    exact absurd h (append_ne_of_not_begins (by decide))
  | openGroup partner found =>
    dsimp only at h
    rw [String.append_assoc, String.append_assoc] at h
    exact absurd h (append_ne_of_not_begins (by decide))
  | _ => exact absurd h (append_ne_of_not_begins (by decide))

/-- Neither a rule nor a scanner has the message for an empty group. -/
theorem Fault.message_ne_emptyGroup {fault : Fault}
    (h : fault.isOfRule = true ∨ fault.isOfScanner = true) :
    fault.message ≠ "Expected expression in group" := by
  intro hmessage
  obtain rfl | ⟨message, rfl⟩ := eq_emptyGroup_of_message hmessage
  all_goals
    exact h.elim nofun nofun

namespace Grammar

open Reader TokenSource

variable {σ : Type} [TokenSource σ] {vocabulary : Vocabulary}

/-- An error was pulled from the source, or a rule came to find its fault. -/
def State.Explains (state : State σ) (error : SyntaxError) : Prop :=
  .pulled (.error error) ∈ state.events ∨ error.fault.isOfRule = true

def IsExplained {α : Type} (reader : Reader σ α) : Prop :=
  ∀ state error after, reader state = .rejected error after → after.Explains error

section IsExplained

variable {α β : Type}

omit [TokenSource σ] in
theorem IsExplained.bind {reader : Reader σ α} {next : α → Reader σ β} (h : IsExplained reader)
    (hnext : ∀ value, IsExplained (next value)) : IsExplained (reader >>= next) := by
  intro state error after hrejects
  rw [bind_apply] at hrejects
  cases hreader : reader state with
  | accepted value mid =>
    rw [hreader] at hrejects
    exact hnext value mid error after hrejects
  | rejected found mid =>
    rw [hreader] at hrejects
    cases hrejects
    exact h state error after hreader
  | tooDeep mid =>
    rw [hreader] at hrejects
    contradiction

theorem isExplained_peek : IsExplained (peek (σ := σ)) := by
  intro state error after hrejects
  cases hahead : state.ahead with
  | some token =>
    rw [peek_of_ahead hahead] at hrejects
    contradiction
  | none =>
    rcases hnext : next state.source with ⟨found | token, rest⟩
    · rw [peek_of_failure hahead hnext] at hrejects
      cases hrejects
      exact .inl List.mem_cons_self
    · rw [peek_of_next hahead hnext] at hrejects
      contradiction

theorem isExplained_reject {fault : Fault} (h : fault.isOfRule = true) :
    IsExplained (reject fault : Reader σ α) := by
  intro state error after hrejects
  cases hrejects
  exact .inr h

theorem isExplained_advance : IsExplained (advance (σ := σ)) := by
  rw [advance]
  refine isExplained_peek.bind fun token state error after hrejects ↦ ?_
  cases hrejects

theorem isCongruence_isExplained :
    IsCongruence (σ := σ) (τ := σ) (fun _ ↦ True) fun _ reader _ ↦ IsExplained reader where
  giveUp _ _ _ _ h := nomatch h
  pure _ _ _ _ h := nomatch h
  bind h hnext := h.bind hnext
  peek hnext := isExplained_peek.bind fun token ↦ hnext token trivial
  enter _ _ _ _ h := nomatch h
  advance := isExplained_advance
  staysGrouped _ _ _ _ h := nomatch h
  reject _ h := isExplained_reject h

end IsExplained

/-- An error that a reading comes to was pulled, or a rule came to find its fault. -/
theorem ComesTo.explained {source : σ} {error : SyntaxError} {history : List Event}
    (h : ComesTo vocabulary source (.error error) history) :
    .error error ∈ Event.answers history ∨ error.fault.isOfRule = true := by
  obtain ⟨depth, hresult, rfl⟩ := h
  obtain ⟨after, hrejects⟩ := Outcome.result?_eq_error.1 hresult
  have hexplained : IsExplained (formula (σ := σ) vocabulary depth) :=
    isCongruence_isExplained.formula (fun _ _ _ _ _ ↦ rfl) (Nat.le_refl depth)
  rw [hrejects]
  refine (hexplained _ error after hrejects).imp_left fun hpulled ↦ ?_
  exact List.mem_filterMap.2 ⟨_, List.mem_reverse.2 hpulled, rfl⟩

/-- Where a reading comes to the message for an empty group, the source gave the error. -/
theorem ComesTo.pulled_of_message {source : σ} {error : SyntaxError} {history : List Event}
    (h : ComesTo vocabulary source (.error error) history)
    (hmessage : error.message = "Expected expression in group") :
    .error error ∈ Event.answers history :=
  h.explained.resolve_right fun hrule ↦ Fault.message_ne_emptyGroup (.inl hrule) hmessage

/-- A source whose own errors are those of a scanner is never read to the message for an empty
group. -/
theorem ComesTo.message_ne {source : σ} {error : SyntaxError} {history : List Event}
    (h : ComesTo vocabulary source (.error error) history)
    (hscanner : ∀ (state : σ) (found : SyntaxError), (next state).1 = .error found →
      found.fault.isOfScanner = true) :
    error.message ≠ "Expected expression in group" := by
  intro hmessage
  have hpulled := h.pulled_of_message hmessage
  rw [← h.answers_eq] at hpulled
  obtain ⟨count, -, hanswer⟩ := List.mem_map.1 hpulled
  exact Fault.message_ne_emptyGroup (.inr (hscanner _ _ hanswer)) hmessage

theorem message_ne_of_parse {τ : Type} [FiniteTokenSource τ] {source : τ} {error : SyntaxError}
    (h : parse vocabulary source = .error error)
    (hscanner : ∀ (state : τ) (found : SyntaxError), (next state).1 = .error found →
      found.fault.isOfScanner = true) :
    error.message ≠ "Expected expression in group" := by
  have hread := comesTo_read vocabulary source
  rw [← parse, h] at hread
  exact hread.message_ne hscanner

/-- Each tier takes all that it can. So in the rule of products it does not matter what would be
done with a division sign ahead, and in the rule of groups not what would be done with a closing
bracket behind nothing. A reading comes to the message for an empty group only where its source
gives it, and no scanner does, whatever its table holds. -/
theorem tiers_take_all (vocabulary : Vocabulary) (σ : Type) [TokenSource σ] (M : Type)
    [PrefixMap M Lexeme] :
    (∀ depth, TakesAll vocabulary σ depth) ∧
    (∀ depth atDivision,
      product (σ := σ) vocabulary (depth + 1) = productWith vocabulary depth atDivision) ∧
    (∀ depth atNothing,
      group (σ := σ) vocabulary (depth + 1) = groupWith vocabulary depth atNothing) ∧
    (∀ (source : σ) error history, ComesTo vocabulary source (.error error) history →
      error.message = "Expected expression in group" →
        .error error ∈ Event.answers history) ∧
    (∀ (scanner : Latex.Scanner M) error, parse vocabulary scanner = .error error →
      error.message ≠ "Expected expression in group") ∧
    ∀ (scanner : Linear.Scanner M) error, parse vocabulary scanner = .error error →
      error.message ≠ "Expected expression in group" := by
  refine ⟨takesAll vocabulary, product_eq_productWith vocabulary, group_eq_groupWith vocabulary,
    fun _ _ _ ↦ ComesTo.pulled_of_message, fun scanner error h ↦ ?_, fun scanner error h ↦ ?_⟩
  · exact message_ne_of_parse h fun state _ ↦ Latex.isOfScanner_of_next state
  · exact message_ne_of_parse h fun state _ ↦ Linear.isOfScanner_of_next state

/-- Behind a symbol a quotient leaves the bracket ahead. A failure that says what an empty group
would be rejected for was pulled, and an empty group of LaTeX is rejected for another fault. -/
theorem tiers_take_all_emptyGroup :
    let failure := ⟨1, 2, "(", .other "Expected expression in group"⟩
    let source := Playback.ofList "x(" [.ok ⟨.symbol "x", 0, 0, 1⟩,
      .ok ⟨.bracket (.opening '('), 0, 1, 2⟩, .error failure]
    (∃ token ∈ (quotient .common 8 (.start source)).state.ahead, token.kind ∉
      [.underscore, .operator .exponent, .operator .modulus, .operator .divide]) ∧
    (∃ history, ComesTo .common source (.error failure) history ∧
      .error failure ∈ Event.answers history) ∧
    ∃ error, parse .common (Latex.scanner "()") = .error error ∧
      error.message ≠ "Expected expression in group" := by
  intro failure source
  obtain ⟨htakes, -, -, hpulled, hlatex, -⟩ :=
    tiers_take_all .common Playback (Trie Lexeme)
  obtain ⟨after, hquotient⟩ :
      ∃ after, quotient .common 8 (.start source) = .accepted (.symbol "x") after := ⟨_, rfl⟩
  have hread : ComesTo .common source (.error failure) _ := ⟨20, rfl, rfl⟩
  have hparse : parse .common (Latex.scanner "()") =
      .error ⟨1, 3, "()", .missingGroup (.bracket (.closing ')'))⟩ :=
    eq_error_of_match (by decide +kernel)
  refine ⟨?_, ⟨_, hread, hpulled source _ _ hread rfl⟩, _, hparse, hlatex _ _ hparse⟩
  rw [hquotient]
  exact (htakes 8).quotient hquotient

end Grammar

end FormulaText
