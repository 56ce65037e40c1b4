import FormulaText.Proofs.Grammar.Upcoming

/-!
# What a reading pulls and consumes

The history of a reading tells which answers it pulled from its source and which tokens it consumed.
A reading is frugal: it pulls only when it has consumed all that it pulled before, and not behind
the end of the input. Everything it pulled has been consumed, except for the token ahead.
-/

namespace FormulaText

namespace TokenSource

variable {σ : Type} [TokenSource σ]

/-- A source after some pulls, whatever they gave. -/
def after (source : σ) : Nat → σ
  | 0 => source
  | count + 1 => (next (after source count)).2

/-- The answer of a source to a pull, where pulls are counted from zero. -/
def answer (source : σ) (count : Nat) : Except SyntaxError Token := (next (after source count)).1

def answers (source : σ) (count : Nat) : List (Except SyntaxError Token) :=
  (List.range count).map (answer source)

theorem answers_succ (source : σ) (count : Nat) :
    answers source (count + 1) = answers source count ++ [answer source count] := by
  rw [answers, List.range_succ, List.map_append]
  rfl

end TokenSource

namespace Grammar

namespace Event

def answer? : Event → Option (Except SyntaxError Token)
  | pulled answer => some answer
  | _ => none

def token? : Event → Option Token
  | consumed token => some token
  | _ => none

def answers (history : List Event) : List (Except SyntaxError Token) := history.filterMap answer?

def tokens (history : List Event) : List Token := history.filterMap token?

def log (history : List Event) : List String := history.filterMap record?

variable (history : List Event) (rule : Rule) (answer : Except SyntaxError Token) (token : Token)

@[simp] theorem answers_entered : answers (history ++ [entered rule]) = answers history := by
  simp [answers, answer?]

@[simp] theorem answers_pulled :
    answers (history ++ [pulled answer]) = answers history ++ [answer] := by
  simp [answers, answer?]

@[simp] theorem answers_consumed : answers (history ++ [consumed token]) = answers history := by
  simp [answers, answer?]

@[simp] theorem tokens_entered : tokens (history ++ [entered rule]) = tokens history := by
  simp [tokens, token?]

@[simp] theorem tokens_pulled : tokens (history ++ [pulled answer]) = tokens history := by
  simp [tokens, token?]

@[simp] theorem tokens_consumed :
    tokens (history ++ [consumed token]) = tokens history ++ [token] := by
  simp [tokens, token?]

/-- All answers of a history are tokens before the end of the input, and all are consumed. -/
def IsSpent (history : List Event) : Prop :=
  answers history = (tokens history).map .ok ∧ ∀ token ∈ tokens history, token.kind ≠ .endOfInput

/-- Each pull of a history comes when all pulled before is spent. -/
def IsFrugal (history : List Event) : Prop :=
  ∀ earlier answer later, history = earlier ++ pulled answer :: later → IsSpent earlier

variable {history}

theorem isFrugal_nil : IsFrugal [] := by
  intro earlier answer later h
  cases earlier <;> contradiction

/-- One more event keeps a history frugal, if it is no pull or comes when all is spent. -/
theorem IsFrugal.concat (h : IsFrugal history) {event : Event}
    (hevent : event.answer?.isSome = true → IsSpent history) : IsFrugal (history ++ [event]) := by
  intro earlier answer later hsplit
  rcases List.eq_nil_or_concat later with rfl | ⟨front, last, rfl⟩
  · obtain ⟨rfl, hlast⟩ := List.append_inj' hsplit rfl
    rw [List.singleton_inj.1 hlast] at hevent
    exact hevent rfl
  · have hfront : history ++ [event] = (earlier ++ pulled answer :: front) ++ [last] := by
      rw [hsplit, List.concat_eq_append, List.append_assoc]
      rfl
    exact h earlier answer front (List.append_inj' hfront rfl).1

def tellsConsumed (line : String) : Bool := "next token ".toList.isPrefixOf line.toList

theorem tellsConsumed_name (rule : Rule) : tellsConsumed rule.name = false := by
  cases rule with
  | named name =>
    rw [tellsConsumed, Rule.name, String.toList_append]
    rfl
  | application name =>
    rw [tellsConsumed, Rule.name, String.toList_append]
    rfl
  | _ => decide

theorem tellsConsumed_record (token : Token) :
    tellsConsumed ("next token " ++ token.record) = true := by
  rw [tellsConsumed, String.toList_append]
  exact List.isPrefixOf_iff_prefix.2 (List.prefix_append _ _)

/-- The lines of the log that tell of a consumed token are those of the consumed tokens. -/
theorem filter_log (history : List Event) :
    (log history).filter tellsConsumed =
      (tokens history).map fun token ↦ "next token " ++ token.record := by
  induction history with
  | nil => rfl
  | cons event history ih =>
    cases event with
    | entered rule =>
      have hlog : log (entered rule :: history) = rule.name :: log history := rfl
      rw [hlog, List.filter_cons_of_neg (by rw [tellsConsumed_name]; exact Bool.false_ne_true)]
      exact ih
    | pulled answer => exact ih
    | consumed token =>
      have hlog : log (consumed token :: history) =
          ("next token " ++ token.record) :: log history := rfl
      have htokens : tokens (consumed token :: history) = token :: tokens history := rfl
      rw [hlog, htokens, List.filter_cons_of_pos (tellsConsumed_record token), List.map_cons, ih]

end Event

variable {σ : Type}

namespace State

/-- What has happened so far, the earliest first. -/
def history (state : State σ) : List Event := state.events.reverse

@[simp] theorem history_enter (state : State σ) (rule : Rule) :
    State.history { state with events := .entered rule :: state.events } =
      state.history ++ [.entered rule] :=
  List.reverse_cons

variable [TokenSource σ]

/-- A frugal history in which the first answers of a source are pulled, up to a state of it. -/
structure Draws (origin source : σ) (history : List Event) : Prop where
  frugal : Event.IsFrugal history
  answers : Event.answers history =
    TokenSource.answers origin (Event.answers history).length
  source : source = TokenSource.after origin (Event.answers history).length

/-- A reading has consumed all that it pulled but the token ahead. -/
structure Keeps (origin : σ) (state : State σ) : Prop where
  draws : Draws origin state.source state.history
  answers : Event.answers state.history =
    (Event.tokens state.history ++ state.ahead.toList).map .ok

/-- A reading is under way until it consumes the end of the input. -/
structure Underway (origin : σ) (state : State σ) : Prop extends Keeps origin state where
  going : ∀ token ∈ Event.tokens state.history, token.kind ≠ .endOfInput

variable {origin source : σ} {state after : State σ} {history : List Event} {token : Token}

theorem Draws.enter (h : Draws origin source history) (rule : Rule) :
    Draws origin source (history ++ [.entered rule]) where
  frugal := h.frugal.concat nofun
  answers := by rw [Event.answers_entered]; exact h.answers
  source := by rw [Event.answers_entered]; exact h.source

theorem Draws.consume (h : Draws origin source history) (token : Token) :
    Draws origin source (history ++ [.consumed token]) where
  frugal := h.frugal.concat nofun
  answers := by rw [Event.answers_consumed]; exact h.answers
  source := by rw [Event.answers_consumed]; exact h.source

/-- A pull is frugal when all is spent, and it gives the next answer of the source. -/
theorem Draws.pull (h : Draws origin source history) (hspent : Event.IsSpent history) :
    Draws origin (TokenSource.next source).2
      (history ++ [.pulled (TokenSource.next source).1]) where
  frugal := h.frugal.concat fun _ ↦ hspent
  answers := by
    rw [Event.answers_pulled, List.length_append, List.length_singleton,
      TokenSource.answers_succ, TokenSource.answer, ← h.source, ← h.answers]
  source := by
    rw [Event.answers_pulled, List.length_append, List.length_singleton, TokenSource.after,
      ← h.source]

theorem underway_start (origin : σ) : Underway origin (start origin) where
  draws := ⟨Event.isFrugal_nil, rfl, rfl⟩
  answers := rfl
  going _ h := absurd h List.not_mem_nil

theorem Underway.enter (h : Underway origin state) (rule : Rule) :
    Underway origin { state with events := .entered rule :: state.events } where
  draws := by rw [history_enter]; exact h.draws.enter rule
  answers := by rw [history_enter, Event.answers_entered, Event.tokens_entered]; exact h.answers
  going := by rw [history_enter, Event.tokens_entered]; exact h.going

/-- When nothing is ahead, all that was pulled is spent. -/
theorem Underway.isSpent (h : Underway origin state) (hahead : state.ahead = none) :
    Event.IsSpent state.history := by
  refine ⟨?_, h.going⟩
  rw [h.answers, hahead, Option.toList_none, List.append_nil]

end State

/-! ## One look ahead, one token consumed -/

namespace Reader

variable [TokenSource σ] {state after : State σ} {token : Token} {source : σ}

theorem peek_of_ahead (h : state.ahead = some token) : peek state = .accepted token state := by
  obtain ⟨rest, ahead, last, events⟩ := state
  cases h
  rfl

theorem peek_of_next (h : state.ahead = none)
    (hnext : TokenSource.next state.source = (.ok token, source)) :
    peek state =
      .accepted token ⟨source, some token, state.last, .pulled (.ok token) :: state.events⟩ := by
  obtain ⟨rest, ahead, last, events⟩ := state
  cases h
  have hpull : pull ⟨rest, none, last, events⟩ =
      .accepted token ⟨source, none, last, .pulled (.ok token) :: events⟩ := by
    simp only [pull, hnext]
  rw [peek, bind_apply]
  simp only [get, bind_apply, hpull]
  rfl

theorem peek_of_failure {error : SyntaxError} (h : state.ahead = none)
    (hnext : TokenSource.next state.source = (.error error, source)) :
    peek state =
      .rejected error ⟨source, none, state.last, .pulled (.error error) :: state.events⟩ := by
  obtain ⟨rest, ahead, last, events⟩ := state
  cases h
  have hpull : pull ⟨rest, none, last, events⟩ =
      .rejected error ⟨source, none, last, .pulled (.error error) :: events⟩ := by
    simp only [pull, hnext]
  rw [peek, bind_apply]
  simp only [get, bind_apply, hpull]

theorem advance_of_peek {peeked : State σ} (h : peek state = .accepted token peeked) :
    advance state = .accepted token
      ⟨peeked.source, none, some token, .consumed token :: peeked.events⟩ := by
  rw [advance, bind_apply, h]
  rfl

theorem exists_peek_of_advance (h : Accepts advance state token after) :
    ∃ peeked, Accepts peek state token peeked ∧
      after = ⟨peeked.source, none, some token, .consumed token :: peeked.events⟩ := by
  obtain ⟨found, peeked, hpeek, h⟩ := accepts_bind.1 h
  obtain ⟨_, kept, hmodify, h⟩ := accepts_bind.1 h
  cases hmodify
  obtain ⟨rfl, rfl⟩ := accepts_pure.1 h
  exact ⟨peeked, hpeek, rfl⟩

theorem advance_of_failure {error : SyntaxError} (h : peek state = .rejected error after) :
    advance state = .rejected error after := by
  rw [advance, bind_apply, h]

end Reader

namespace State

open Reader

variable [TokenSource σ] {origin : σ} {state after : State σ} {token : Token}

/-- A token that is pulled comes to stand ahead. -/
theorem Underway.pull (h : Underway origin state) (hahead : state.ahead = none) {source : σ}
    (hnext : TokenSource.next state.source = (.ok token, source)) :
    Underway origin ⟨source, some token, state.last, .pulled (.ok token) :: state.events⟩ := by
  have hspent := h.isSpent hahead
  have hhistory : history ⟨source, some token, state.last, .pulled (.ok token) :: state.events⟩ =
      state.history ++ [.pulled (.ok token)] := List.reverse_cons
  have hdraws := h.draws.pull hspent
  rw [hnext] at hdraws
  constructor
  · constructor
    · rw [hhistory]
      exact hdraws
    · rw [hhistory, Event.answers_pulled, Event.tokens_pulled, hspent.1, List.map_append]
      rfl
  · rw [hhistory, Event.tokens_pulled]
    exact h.going

/-- A look ahead keeps a reading under way, and consumes nothing. -/
theorem Underway.of_peek (h : Underway origin state) (hpeek : Accepts peek state token after) :
    Underway origin after ∧ after.ahead = some token ∧
      Event.tokens after.history = Event.tokens state.history := by
  cases hahead : state.ahead with
  | some known =>
    rw [Accepts, peek_of_ahead hahead, Outcome.accepted.injEq] at hpeek
    obtain ⟨rfl, rfl⟩ := hpeek
    exact ⟨h, hahead, rfl⟩
  | none =>
    rcases hnext : TokenSource.next state.source with ⟨error | known, source⟩
    · rw [Accepts, peek_of_failure hahead hnext] at hpeek
      contradiction
    · rw [Accepts, peek_of_next hahead hnext, Outcome.accepted.injEq] at hpeek
      obtain ⟨rfl, rfl⟩ := hpeek
      refine ⟨h.pull hahead hnext, rfl, ?_⟩
      simp [history, Event.tokens, Event.token?]

/-- The token that is consumed is the last one pulled. -/
theorem Underway.of_advance (h : Underway origin state) (hadvance : Accepts advance state token after) :
    Keeps origin after ∧ after.ahead = none ∧
      Event.tokens after.history = Event.tokens state.history ++ [token] := by
  obtain ⟨peeked, hpeek, rfl⟩ := exists_peek_of_advance hadvance
  obtain ⟨hpeeked, hahead, htokens⟩ := h.of_peek hpeek
  have hhistory : history ⟨peeked.source, none, some token, .consumed token :: peeked.events⟩ =
      peeked.history ++ [.consumed token] := List.reverse_cons
  have hconsumed : Event.tokens (peeked.history ++ [.consumed token]) =
      Event.tokens state.history ++ [token] := by
    rw [Event.tokens_consumed, htokens]
  refine ⟨⟨?_, ?_⟩, rfl, ?_⟩
  · rw [hhistory]
    exact hpeeked.draws.consume token
  · rw [hhistory, Event.answers_consumed, Event.tokens_consumed, hpeeked.answers, hahead]
    simp
  · rw [hhistory, hconsumed]

/-- A reading stays under way when it consumes another token than the end of the input. -/
theorem Underway.of_advance_of_ne (h : Underway origin state)
    (hadvance : Accepts advance state token after) (hkind : token.kind ≠ .endOfInput) :
    Underway origin after := by
  obtain ⟨hkeeps, -, htokens⟩ := h.of_advance hadvance
  refine ⟨hkeeps, fun found hfound ↦ ?_⟩
  rw [htokens, List.mem_append, List.mem_singleton] at hfound
  rcases hfound with hfound | rfl
  · exact h.going found hfound
  · exact hkind

end State

end Grammar

end FormulaText
