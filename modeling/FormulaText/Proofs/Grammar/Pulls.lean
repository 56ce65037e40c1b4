import FormulaText.Proofs.Grammar.Agreement
import FormulaText.Proofs.Grammar.Viable
import FormulaText.Token.Playback

/-!
# What a reading takes from its source

A reading of a formula pulls only what it uses: an answer is pulled when all answers before it have
been consumed, and none is pulled behind the end of the input or behind a failure. What the source
would have given after that does not matter. This holds of every source, also of one that never
ends.
-/

namespace FormulaText.Grammar

open Reader

variable {σ τ : Type}

/-- What a reader comes to, unless its rules are nested too deep. -/
def Outcome.result? {α : Type} : Outcome σ α → Option (Except SyntaxError α)
  | .accepted value _ => some (.ok value)
  | .rejected error _ => some (.error error)
  | .tooDeep _ => none

theorem Outcome.result?_eq_ok {α : Type} {outcome : Outcome σ α} {value : α} :
    outcome.result? = some (.ok value) ↔ ∃ after, outcome = .accepted value after := by
  cases outcome <;> simp [result?]

theorem Outcome.result?_eq_error {α : Type} {outcome : Outcome σ α} {error : SyntaxError} :
    outcome.result? = some (.error error) ↔ ∃ after, outcome = .rejected error after := by
  cases outcome <;> simp [result?]

/-- A reading has consumed all that it pulled, and `last` as the last of it. -/
def State.StoppedAt (state : State σ) (last : Token) : Prop :=
  state.ahead = none ∧ ∃ front, Event.tokens state.history = front ++ [last] ∧
    Event.answers state.history = (front ++ [last]).map .ok ∧
      ∀ token ∈ front, token.kind ≠ .endOfInput

variable [TokenSource σ] [TokenSource τ] {vocabulary : Vocabulary} {depth : Nat} {source : σ}
  {other : τ}

/-- A reading takes from its source only what it uses. It pulls frugally, and a failure that it pulls
is its result. If it accepts, it has consumed all up to the end of the input. If it rejects by
itself, the fault lies at the token that it pulled and consumed last. -/
structure Thrifty (source : σ) (outcome : Outcome σ (Option Expr)) : Prop
    extends State.Draws source outcome.state.source outcome.state.history where
  records : (Event.log outcome.state.history).filter Event.tellsConsumed =
    (Event.tokens outcome.state.history).map fun token ↦ "next token " ++ token.record
  failure (error : SyntaxError) (h : .error error ∈ Event.answers outcome.state.history) :
    outcome.result? = some (.error error)
  accepted (value? : Option Expr) (h : outcome.result? = some (.ok value?)) :
    ∃ last, outcome.state.StoppedAt last ∧ last.kind = .endOfInput
  rejected (error : SyntaxError) (h : outcome.result? = some (.error error))
    (hanswers : ∀ failure, .error failure ∉ Event.answers outcome.state.history) :
    ∃ last fault, outcome.state.StoppedAt last ∧
      error = .inText (TokenSource.text outcome.state.source) last.line last.endColumn fault

namespace State

variable {state after : State σ} {token : Token} {error : SyntaxError}

/-- The token that is consumed is the last one pulled. -/
theorem Underway.stoppedAt (h : state.Underway source)
    (hadvance : Accepts advance state token after) :
    Draws source after.source after.history ∧ after.StoppedAt token := by
  obtain ⟨hkeeps, hahead, htokens⟩ := h.of_advance hadvance
  refine ⟨hkeeps.draws, hahead, Event.tokens state.history, htokens, ?_, h.going⟩
  rw [hkeeps.answers, hahead, htokens, Option.toList_none, List.append_nil]

omit [TokenSource σ] in
theorem StoppedAt.not_failure (h : state.StoppedAt token) (error : SyntaxError) :
    .error error ∉ Event.answers state.history := by
  obtain ⟨-, front, -, hanswers, -⟩ := h
  simp [hanswers]

/-- What is pulled where all is spent is pulled frugally, whatever it is. -/
theorem Underway.draws_failure (h : state.Underway source) (hahead : state.ahead = none)
    {rest : σ} (hnext : TokenSource.next state.source = (.error error, rest)) :
    Draws source rest (state.history ++ [.pulled (.error error)]) := by
  have hdraws := h.draws.pull (h.isSpent hahead)
  rwa [hnext] at hdraws

end State

/-- A reading that a failure of its source ends. -/
theorem thrifty_of_failure {state : State σ} {error : SyntaxError} {rest : σ}
    (h : state.Underway source) (hahead : state.ahead = none)
    (hnext : TokenSource.next state.source = (.error error, rest)) :
    Thrifty source (.rejected error
      ⟨rest, none, state.last, .pulled (.error error) :: state.events⟩) := by
  have hhistory : State.history ⟨rest, none, state.last, .pulled (.error error) :: state.events⟩ =
      state.history ++ [.pulled (.error error)] := List.reverse_cons
  have hanswers : Event.answers (state.history ++ [.pulled (.error error)]) =
      (Event.tokens state.history).map .ok ++ [.error error] := by
    rw [Event.answers_pulled, (h.isSpent hahead).1]
  refine ⟨?_, Event.filter_log _, ?_, ?_, ?_⟩
  · rw [Outcome.state, hhistory]
    exact h.draws_failure hahead hnext
  · intro found hfound
    rw [Outcome.state, hhistory, hanswers] at hfound
    have heq : found = error := by simpa using hfound
    rw [heq, Outcome.result?]
  · exact fun _ haccepted ↦ absurd haccepted (by simp [Outcome.result?])
  · intro _ _ hnone
    refine absurd ?_ (hnone error)
    rw [Outcome.state, hhistory, hanswers]
    simp

/-- Each reading of a formula takes from its source only what it uses. -/
theorem formula_thrifty (vocabulary : Vocabulary) (depth : Nat) (source : σ) :
    Thrifty source (formula vocabulary depth (.start source)) := by
  have hends := formula_ends vocabulary depth source
  generalize formula vocabulary depth (.start source) = outcome at hends
  cases outcome with
  | accepted value? after =>
    obtain ⟨mid, token, hmid, hadvance, hend⟩ := hends
    obtain ⟨hdraws, hstopped⟩ := hmid.stoppedAt hadvance
    refine ⟨hdraws, Event.filter_log _, ?_, ?_, ?_⟩
    · exact fun error h ↦ absurd h (hstopped.not_failure error)
    · exact fun _ _ ↦ ⟨token, hstopped, hend⟩
    · exact fun _ h ↦ absurd h (by simp [Outcome.result?])
  | rejected error after =>
    obtain ⟨mid, hmid, -, hrefuses⟩ := hends
    cases hrefuses with
    | failure hahead hnext => exact thrifty_of_failure hmid hahead hnext
    | token fault hadvance =>
      obtain ⟨hdraws, hstopped⟩ := hmid.stoppedAt hadvance
      refine ⟨hdraws, Event.filter_log _, ?_, ?_, ?_⟩
      · exact fun error h ↦ absurd h (hstopped.not_failure error)
      · exact fun _ h ↦ absurd h (by simp [Outcome.result?])
      · intro error h _
        cases h
        exact ⟨_, fault, hstopped, rfl⟩
  | tooDeep after =>
    refine ⟨hends.draws, Event.filter_log _, ?_, ?_, ?_⟩
    · intro error h
      rw [Outcome.state, hends.answers] at h
      simp at h
    · exact fun _ h ↦ absurd h (by simp [Outcome.result?])
    · exact fun _ h ↦ absurd h (by simp [Outcome.result?])

/-! ## What a source is read as -/

/-- At some depth a source is read with this result, and this is what happens on the way. -/
def ComesTo (vocabulary : Vocabulary) (source : σ) (result : Except SyntaxError (Option Expr))
    (history : List Event) : Prop :=
  ∃ depth, (formula vocabulary depth (.start source)).result? = some result ∧
    (formula vocabulary depth (.start source)).state.history = history

/-- Two sources agree on their first answers, and on the text that an error after them points
into. -/
def Agree (source : σ) (other : τ) (count : Nat) : Prop :=
  TokenSource.answers other count = TokenSource.answers source count ∧
    TokenSource.text (TokenSource.after other count) =
      TokenSource.text (TokenSource.after source count)

/-- A reading goes the same way on a source that agrees on what is pulled, at each depth that is no
smaller. -/
theorem formula_eq_of_agree {deeper : Nat} {result : Except SyntaxError (Option Expr)}
    (hdepth : depth ≤ deeper)
    (hresult : (formula vocabulary depth (.start source)).result? = some result)
    (hagree : Agree source other (formula vocabulary depth (.start source)).state.pulls) :
    (formula vocabulary deeper (.start other)).result? = some result ∧
      (formula vocabulary deeper (.start other)).state.history =
        (formula vocabulary depth (.start source)).state.history := by
  have hfollows := (tracks_formula vocabulary source other hdepth).follows
    (State.matches_start source other) hagree.1
  revert hfollows hagree hresult
  cases formula vocabulary depth (.start source) with
  | accepted value? after =>
    rintro hresult - ⟨last, hother, hmatches⟩
    rw [hother]
    exact ⟨hresult, congrArg List.reverse hmatches.events⟩
  | rejected error after =>
    rintro hresult hagree ⟨fault, last, hother, hmatches, hfault⟩
    have htext : TokenSource.text last.source = TokenSource.text after.source := by
      rw [hmatches.source, hmatches.twinSource]
      exact hagree.2
    rw [hother, hfault htext]
    exact ⟨hresult, congrArg List.reverse hmatches.events⟩
  | tooDeep after => exact fun hresult ↦ absurd hresult (by simp [Outcome.result?])

theorem agree_refl (source : σ) (count : Nat) : Agree source source count := ⟨rfl, rfl⟩

/-- The depth does not matter for what a source is read as. -/
theorem ComesTo.unique {result found : Except SyntaxError (Option Expr)}
    {history events : List Event} (h : ComesTo vocabulary source result history)
    (hfound : ComesTo vocabulary source found events) : found = result ∧ events = history := by
  obtain ⟨depth, hresult, rfl⟩ := h
  obtain ⟨other, hother, rfl⟩ := hfound
  rcases Nat.le_total depth other with hle | hle
  · obtain ⟨hsame, hhistory⟩ := formula_eq_of_agree hle hresult (agree_refl source _)
    rw [hother] at hsame
    exact ⟨Option.some.inj hsame, hhistory⟩
  · obtain ⟨hsame, hhistory⟩ := formula_eq_of_agree hle hother (agree_refl source _)
    rw [hresult] at hsame
    exact ⟨(Option.some.inj hsame).symm, hhistory.symm⟩

theorem ComesTo.of_agree {result : Except SyntaxError (Option Expr)} {history : List Event}
    (h : ComesTo vocabulary source result history)
    (hagree : Agree source other (Event.answers history).length) :
    ComesTo vocabulary other result history := by
  obtain ⟨depth, hresult, rfl⟩ := h
  exact ⟨depth, formula_eq_of_agree (Nat.le_refl depth) hresult hagree⟩

/-- The pulled answers are the first ones of the source. -/
theorem ComesTo.answers_eq {result : Except SyntaxError (Option Expr)} {history : List Event}
    (h : ComesTo vocabulary source result history) :
    TokenSource.answers source (Event.answers history).length = Event.answers history := by
  obtain ⟨depth, -, rfl⟩ := h
  exact (formula_thrifty vocabulary depth source).answers.symm

/-- What is read as an error is stuck where a formula could go on. -/
theorem ComesTo.stuck {error : SyntaxError} {history : List Event}
    (h : ComesTo vocabulary source (.error error) history) :
    ∃ after, State.Stuck source (IsText vocabulary) (.start source) error after ∧
      after.history = history := by
  obtain ⟨depth, hresult, rfl⟩ := h
  have hends := formula_ends vocabulary depth source
  obtain ⟨after, houtcome⟩ := Outcome.result?_eq_error.1 hresult
  rw [houtcome] at hends ⊢
  exact ⟨after, hends, rfl⟩

/-- Each reading of a formula takes from its source only what it uses, and it knows nothing else of
the source: another source that agrees on what is pulled is read with the same result, the same
history and so the same log, and with no other. -/
theorem formula_knows_pulled (vocabulary : Vocabulary) (source : σ) (other : τ) :
    (∀ depth, Thrifty source (formula vocabulary depth (.start source))) ∧
    ∀ result history, ComesTo vocabulary source result history →
      Agree source other (Event.answers history).length →
        ∀ found events, ComesTo vocabulary other found events ↔
          found = result ∧ events = history := by
  refine ⟨fun depth ↦ formula_thrifty vocabulary depth source, fun result history h hagree ↦ ?_⟩
  intro found events
  constructor
  · exact (h.of_agree hagree).unique
  · rintro ⟨rfl, rfl⟩
    exact h.of_agree hagree

theorem formula_knows_pulled_symbol :
    ∃ history,
      ComesTo .common (Playback.ofList "x" [.ok ⟨.symbol "x", 0, 0, 1⟩, .ok ⟨.endOfInput, 0, 1, 1⟩])
        (.ok (some (.symbol "x"))) history ∧
      ∀ found events,
        ComesTo .common
          (Playback.ofList "x" [.ok ⟨.symbol "x", 0, 0, 1⟩, .ok ⟨.endOfInput, 0, 1, 1⟩,
            .ok ⟨.equal, 0, 1, 2⟩]) found events ↔
          found = .ok (some (.symbol "x")) ∧ events = history := by
  have hreads : ComesTo .common
      (Playback.ofList "x" [.ok ⟨.symbol "x", 0, 0, 1⟩, .ok ⟨.endOfInput, 0, 1, 1⟩])
      (.ok (some (.symbol "x"))) _ := ⟨12, rfl, rfl⟩
  exact ⟨_, hreads, (formula_knows_pulled .common _ _).2 _ _ hreads ⟨rfl, rfl⟩⟩

/-! ## Finite sources -/

section Finite

variable {σ τ : Type} [FiniteTokenSource σ] [FiniteTokenSource τ]

theorem comesTo_read (vocabulary : Vocabulary) (source : σ) :
    ComesTo vocabulary source (read vocabulary source).result
      (read vocabulary source).state.history := by
  have hdeep := formula_ne_tooDeep vocabulary (.start source) (Nat.le_refl (depthFor source))
  refine ⟨depthFor source, ?_⟩
  change Outcome.result? _ = some (Outcome.reading _ hdeep).result ∧
    _ = (Outcome.reading _ hdeep).state.history
  generalize formula vocabulary (depthFor source) (.start source) = outcome at hdeep
  cases outcome with
  | accepted value? after => exact ⟨rfl, rfl⟩
  | rejected error after => exact ⟨rfl, rfl⟩
  | tooDeep after => exact absurd rfl (hdeep after)

end Finite

end FormulaText.Grammar
