import FormulaText.Proofs.Grammar.Congruence
import FormulaText.Proofs.Grammar.Underway

/-!
# Readings of two sources

A reading knows of its source only the answers that it pulls. So it goes the same way on every other
source that gives the same answers to these pulls, and at every depth that is no smaller.
-/

namespace FormulaText

theorem TokenSource.take_answers {σ : Type} [TokenSource σ] (source : σ) {few many : Nat}
    (h : few ≤ many) : (answers source many).take few = answers source few := by
  rw [answers, ← List.map_take, List.take_range, Nat.min_eq_left h]
  rfl

namespace Grammar

open Reader

variable {σ τ α β : Type}

def Outcome.state : Outcome σ α → State σ
  | .accepted _ state | .rejected _ state | .tooDeep state => state

namespace State

def pulls (state : State σ) : Nat := (Event.answers state.history).length

section

variable (state : State σ) (source : σ) (ahead last : Option Token)

@[simp] theorem pulls_entered (rule : Rule) :
    pulls ⟨source, ahead, last, .entered rule :: state.events⟩ = state.pulls := by
  simp [pulls, history]

@[simp] theorem pulls_consumed (token : Token) :
    pulls ⟨source, ahead, last, .consumed token :: state.events⟩ = state.pulls := by
  simp [pulls, history]

@[simp] theorem pulls_pulled (answer : Except SyntaxError Token) :
    pulls ⟨source, ahead, last, .pulled answer :: state.events⟩ = state.pulls + 1 := by
  simp [pulls, history]

end

variable [TokenSource σ] [TokenSource τ]

/-- Two readings, each of its own source, have come to the same point. -/
structure Matches (origin : σ) (other : τ) (state : State σ) (twin : State τ) : Prop where
  ahead : twin.ahead = state.ahead
  last : twin.last = state.last
  events : twin.events = state.events
  source : state.source = TokenSource.after origin state.pulls
  twinSource : twin.source = TokenSource.after other state.pulls

theorem matches_start (origin : σ) (other : τ) :
    Matches origin other (start origin) (start other) := ⟨rfl, rfl, rfl, rfl, rfl⟩

/-- Two readings pull the same answer where their sources agree. -/
theorem Matches.pull {origin source : σ} {other : τ} {state : State σ} {twin : State τ}
    {answer : Except SyntaxError Token} (h : Matches origin other state twin)
    (hnext : TokenSource.next state.source = (answer, source))
    (hagree : TokenSource.answers other (state.pulls + 1) =
      TokenSource.answers origin (state.pulls + 1)) (ahead : Option Token) :
    ∃ twinSource, TokenSource.next twin.source = (answer, twinSource) ∧
      Matches origin other ⟨source, ahead, state.last, .pulled answer :: state.events⟩
        ⟨twinSource, ahead, twin.last, .pulled answer :: twin.events⟩ := by
  rw [TokenSource.answers_succ, TokenSource.answers_succ, TokenSource.answer, TokenSource.answer,
    ← h.source, ← h.twinSource, hnext] at hagree
  have hanswer : (TokenSource.next twin.source).1 = answer :=
    List.singleton_inj.1 (List.append_inj' hagree rfl).2
  refine ⟨_, Prod.ext hanswer rfl, rfl, h.last, congrArg _ h.events, ?_, ?_⟩
  · rw [pulls_pulled, TokenSource.after, ← h.source, hnext]
  · rw [pulls_pulled, TokenSource.after, ← h.twinSource]

end State

section Tracks

variable [TokenSource σ] [TokenSource τ] {origin : σ} {other : τ}

/-- What comes of a reading comes of its twin too. Only the text that an error points into may
differ. -/
def Follows (origin : σ) (other : τ) (outcome : Outcome σ α) (twin : Outcome τ α) : Prop :=
  match outcome with
  | .accepted value after => ∃ last, twin = .accepted value last ∧ after.Matches origin other last
  | .rejected error after =>
    ∃ fault last, twin = .rejected fault last ∧ after.Matches origin other last ∧
      (TokenSource.text last.source = TokenSource.text after.source → fault = error)
  | .tooDeep _ => True

/-- A reader and its twin on another source come to the same, if the sources agree on what the
reader pulls. -/
structure Tracks (origin : σ) (other : τ) (reader : Reader σ α) (twin : Reader τ α) : Prop where
  grows (state : State σ) : state.pulls ≤ (reader state).state.pulls
  follows {state : State σ} {twinState : State τ} (h : state.Matches origin other twinState)
    (hagree : TokenSource.answers other (reader state).state.pulls =
      TokenSource.answers origin (reader state).state.pulls) :
    Follows origin other (reader state) (twin twinState)

theorem tracks_giveUp (twin : Reader τ α) : Tracks origin other (giveUp : Reader σ α) twin where
  grows _ := Nat.le_refl _
  follows _ _ := trivial

theorem tracks_pure (value : α) :
    Tracks origin other (Pure.pure value : Reader σ α) (Pure.pure value) where
  grows _ := Nat.le_refl _
  follows h _ := ⟨_, rfl, h⟩

/-- Two readers in a row, where the second one goes on after what the first one accepts. -/
theorem Tracks.bind {reader : Reader σ α} {twin : Reader τ α} {next : α → Reader σ β}
    {twinNext : α → Reader τ β} (h : Tracks origin other reader twin)
    (hnext : ∀ value, Tracks origin other (next value) (twinNext value)) :
    Tracks origin other (reader >>= next) (twin >>= twinNext) where
  grows state := by
    rw [bind_apply]
    have hgrows := h.grows state
    cases hreader : reader state with
    | accepted value mid =>
      rw [hreader] at hgrows
      exact Nat.le_trans hgrows ((hnext value).grows mid)
    | rejected error mid => rwa [hreader] at hgrows
    | tooDeep mid => rwa [hreader] at hgrows
  follows {state twinState} hmatches hagree := by
    have hfollows := h.follows hmatches
    rw [bind_apply] at hagree ⊢
    cases hreader : reader state with
    | accepted value mid =>
      rw [hreader] at hfollows hagree
      -- what the first reader pulled are the first of the answers that both pulled
      have hfirst : TokenSource.answers other mid.pulls = TokenSource.answers origin mid.pulls := by
        have hle := (hnext value).grows mid
        rw [← TokenSource.take_answers other hle, ← TokenSource.take_answers origin hle, hagree]
      obtain ⟨twinMid, htwin, hmid⟩ := hfollows hfirst
      rw [bind_apply, htwin]
      exact (hnext value).follows hmid hagree
    | rejected error mid =>
      rw [hreader] at hfollows hagree
      obtain ⟨fault, last, htwin, hrest⟩ := hfollows hagree
      rw [bind_apply, htwin]
      exact ⟨fault, last, rfl, hrest⟩
    | tooDeep mid => trivial

theorem tracks_enter (rule : Rule) :
    Tracks origin other (enter rule : Reader σ Unit) (enter rule) where
  grows state := Nat.le_of_eq (State.pulls_entered state _ _ _ rule).symm
  follows {state twinState} h _ := by
    refine ⟨_, rfl, h.ahead, h.last, congrArg _ h.events, ?_, ?_⟩
    · rw [State.pulls_entered]
      exact h.source
    · rw [State.pulls_entered]
      exact h.twinSource

theorem tracks_staysGrouped (operand : Expr) :
    Tracks origin other (staysGrouped operand : Reader σ Bool) (staysGrouped operand) where
  grows _ := Nat.le_refl _
  follows {state twinState} h _ := by
    refine ⟨twinState, ?_, h⟩
    rw [← h.last]
    rfl

theorem tracks_reject (fault : Fault) :
    Tracks origin other (reject fault : Reader σ α) (reject fault) where
  grows _ := Nat.le_refl _
  follows {state twinState} h _ := by
    refine ⟨_, twinState, rfl, h, fun htext ↦ ?_⟩
    rw [htext, h.last]

theorem tracks_peek : Tracks origin other (peek : Reader σ Token) peek where
  grows state := by
    cases hahead : state.ahead with
    | some token =>
      rw [peek_of_ahead hahead]
      exact Nat.le_refl _
    | none =>
      rcases hnext : TokenSource.next state.source with ⟨error | token, source⟩
      · rw [peek_of_failure hahead hnext, Outcome.state, State.pulls_pulled]
        exact Nat.le_succ _
      · rw [peek_of_next hahead hnext, Outcome.state, State.pulls_pulled]
        exact Nat.le_succ _
  follows {state twinState} h hagree := by
    cases hahead : state.ahead with
    | some token =>
      rw [peek_of_ahead hahead, peek_of_ahead (h.ahead.trans hahead)]
      exact ⟨twinState, rfl, h⟩
    | none =>
      rcases hnext : TokenSource.next state.source with ⟨error | token, source⟩
      · rw [peek_of_failure hahead hnext, Outcome.state, State.pulls_pulled] at hagree
        obtain ⟨twinSource, htwin, hmatches⟩ := h.pull hnext hagree none
        rw [peek_of_failure hahead hnext, peek_of_failure (h.ahead.trans hahead) htwin]
        exact ⟨error, _, rfl, hmatches, fun _ ↦ rfl⟩
      · rw [peek_of_next hahead hnext, Outcome.state, State.pulls_pulled] at hagree
        obtain ⟨twinSource, htwin, hmatches⟩ := h.pull hnext hagree (some token)
        rw [peek_of_next hahead hnext, peek_of_next (h.ahead.trans hahead) htwin]
        exact ⟨_, rfl, hmatches⟩

theorem tracks_advance : Tracks origin other (advance : Reader σ Token) advance := by
  refine tracks_peek.bind fun token ↦ Tracks.bind (?_ : Tracks origin other (modify _) (modify _))
    fun _ ↦ tracks_pure token
  constructor
  · exact fun state ↦ Nat.le_of_eq (State.pulls_consumed state _ _ _ token).symm
  · intro state twinState h _
    refine ⟨_, rfl, rfl, rfl, congrArg _ h.events, ?_, ?_⟩
    · rw [State.pulls_consumed]
      exact h.source
    · rw [State.pulls_consumed]
      exact h.twinSource

/-! ## Formulas -/

theorem isCongruence_tracks (origin : σ) (other : τ) :
    IsCongruence (fun _ ↦ True) fun _ ↦ Tracks origin other where
  giveUp := tracks_giveUp
  pure := tracks_pure
  bind := Tracks.bind
  peek hnext := tracks_peek.bind fun token ↦ hnext token trivial
  enter := tracks_enter
  advance := tracks_advance
  staysGrouped := tracks_staysGrouped
  reject fault _ := tracks_reject fault

/-- A formula is read alike from two sources that agree on what is pulled. -/
theorem tracks_formula (vocabulary : Vocabulary) (origin : σ) (other : τ) {depth deeper : Nat}
    (h : depth ≤ deeper) :
    Tracks origin other (formula vocabulary depth) (formula vocabulary deeper) :=
  (isCongruence_tracks origin other).formula (fun _ _ _ _ _ ↦ rfl) h

end Tracks

end Grammar

end FormulaText
