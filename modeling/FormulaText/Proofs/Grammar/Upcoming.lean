import FormulaText.Grammar.Reading
import FormulaText.Proofs.Grammar.Phrase

/-!
# The tokens that a reading has before it

What a reading does next depends on the tokens to come and on whether it has just passed a closing
bracket. Looking ahead changes neither. A path is a stretch of tokens that a reading consumed.
-/

namespace FormulaText.Grammar

variable {σ : Type}

section Source

variable [TokenSource σ]

/-- An answer of a source, and the answers after it, are tokens of these kinds up to the end of
the input. -/
def Answers : Except SyntaxError Token × σ → List Token.Kind → Prop
  | answer, [] => ∃ token, answer.1 = .ok token ∧ token.kind = .endOfInput
  | answer, kind :: kinds =>
    ∃ token, answer.1 = .ok token ∧ token.kind = kind ∧ kind ≠ .endOfInput ∧
      Answers (TokenSource.next answer.2) kinds

/-- A source gives tokens of these kinds, and then the end of the input. -/
def Gives (source : σ) (kinds : List Token.Kind) : Prop := Answers (TokenSource.next source) kinds

theorem answers_unique {answer : Except SyntaxError Token × σ} {kinds others : List Token.Kind}
    (h : Answers answer kinds) (hother : Answers answer others) : others = kinds := by
  induction kinds generalizing answer others with
  | nil =>
    obtain ⟨token, htoken, hkind⟩ := h
    cases others with
    | nil => rfl
    | cons other others =>
      obtain ⟨found, hfound, rfl, hne, -⟩ := hother
      rw [htoken] at hfound
      cases hfound
      exact absurd hkind hne
  | cons kind kinds ih =>
    obtain ⟨token, htoken, rfl, hne, hrest⟩ := h
    cases others with
    | nil =>
      obtain ⟨found, hfound, hkind⟩ := hother
      rw [htoken] at hfound
      cases hfound
      exact absurd hkind hne
    | cons other others =>
      obtain ⟨found, hfound, rfl, -, hothers⟩ := hother
      rw [htoken] at hfound
      cases hfound
      rw [ih hrest hothers]

/-- The tokens of a source can be found by taking them out of it. -/
theorem gives_of_drain {limit : Nat} {source : σ} {kinds : List Token.Kind}
    (hkinds : ∀ kind ∈ kinds, kind ≠ .endOfInput)
    (h : (TokenSource.drain limit source).1.map (fun answer ↦ answer.toOption.map Token.kind) =
      kinds.map some ++ [some .endOfInput]) : Gives source kinds := by
  induction limit generalizing source kinds with
  | zero => cases kinds <;> contradiction
  | succ limit ih =>
    unfold Gives
    rw [TokenSource.drain] at h
    revert h
    generalize TokenSource.next source = answer
    obtain ⟨found, rest⟩ := answer
    intro h
    cases found with
    | error error => cases kinds <;> simp [Except.toOption] at h
    | ok token =>
      by_cases hend : token.kind = .endOfInput
      · simp only [hend, if_true] at h
        cases kinds with
        | nil => exact ⟨token, rfl, hend⟩
        | cons kind kinds =>
          have hkind : token.kind = kind := Option.some.inj (List.cons.inj h).1
          exact absurd (hkind ▸ hend) (hkinds kind List.mem_cons_self)
      · simp only [hend, if_false] at h
        cases kinds with
        | nil =>
          have hkind : token.kind = .endOfInput := Option.some.inj (List.cons.inj h).1
          exact absurd hkind hend
        | cons kind kinds =>
          have hkind : token.kind = kind := Option.some.inj (List.cons.inj h).1
          rw [List.forall_mem_cons] at hkinds
          exact ⟨token, rfl, hkind, hkinds.1, ih hkinds.2 (List.cons.inj h).2⟩

end Source

namespace State

def justClosed (state : State σ) : Bool := state.last.any (·.kind.isClosingBracket)

variable [TokenSource σ]

/-- The next answer: the token ahead, or what the source gives. -/
def upNext (state : State σ) : Except SyntaxError Token × σ :=
  match state.ahead with
  | some token => (.ok token, state.source)
  | none => TokenSource.next state.source

def Upcoming (state : State σ) (kinds : List Token.Kind) : Prop := Answers state.upNext kinds

/-- The way from one state to another, with the kinds of the tokens consumed on it. -/
def Path : State σ → List Token.Kind → State σ → Prop
  | start, [], stop => start.upNext = stop.upNext ∧ start.justClosed = stop.justClosed
  | start, kind :: kinds, stop =>
    ∃ token mid, start.upNext = (.ok token, mid.source) ∧ token.kind = kind ∧
      kind ≠ .endOfInput ∧ mid.ahead = none ∧ mid.last = some token ∧ Path mid kinds stop

theorem path_refl (state : State σ) : Path state [] state := ⟨rfl, rfl⟩

/-- What has happened so far does not matter for a path. -/
theorem path_events {state stop : State σ} {events : List Event} {kinds : List Token.Kind} :
    Path { state with events := events } kinds stop ↔ Path state kinds stop := by
  cases kinds <;> exact Iff.rfl

/-- Only what is next and what was last matter for a path. -/
theorem Path.of_eq {start start' stop : State σ} {kinds : List Token.Kind}
    (hnext : start'.upNext = start.upNext) (hclosed : start'.justClosed = start.justClosed)
    (h : Path start kinds stop) : Path start' kinds stop := by
  cases kinds with
  | nil => exact ⟨hnext.trans h.1, hclosed.trans h.2⟩
  | cons kind kinds =>
    obtain ⟨token, mid, hstart, hrest⟩ := h
    exact ⟨token, mid, hnext.trans hstart, hrest⟩

theorem Path.trans {start mid stop : State σ} {left right : List Token.Kind}
    (hleft : Path start left mid) (hright : Path mid right stop) :
    Path start (left ++ right) stop := by
  induction left generalizing start with
  | nil => exact hright.of_eq hleft.1 hleft.2
  | cons kind kinds ih =>
    obtain ⟨token, next, hstart, hkind, hne, hahead, hlast, hrest⟩ := hleft
    exact ⟨token, next, hstart, hkind, hne, hahead, hlast, ih hrest⟩

/-- The first token of a path is the next one. -/
theorem Path.head?_eq {start stop : State σ} {kinds : List Token.Kind} {token : Token}
    (h : Path start kinds stop) (hne : kinds ≠ []) (hnext : start.upNext.1 = .ok token) :
    kinds.head? = some token.kind := by
  cases kinds with
  | nil => exact absurd rfl hne
  | cons kind kinds =>
    obtain ⟨found, mid, hstart, hkind, -⟩ := h
    rw [hstart] at hnext
    cases hnext
    rw [List.head?_cons, hkind]

/-- A path of some tokens ends in a closing bracket exactly if its last token is one. -/
theorem Path.justClosed_eq {start stop : State σ} {kinds : List Token.Kind}
    (h : Path start kinds stop) (hne : kinds ≠ []) : stop.justClosed = endsClosed kinds := by
  induction kinds generalizing start with
  | nil => exact absurd rfl hne
  | cons kind kinds ih =>
    obtain ⟨token, mid, -, hkind, -, -, hlast, hrest⟩ := h
    cases kinds with
    | nil =>
      rw [← hrest.2]
      simp [justClosed, endsClosed, hlast, hkind]
    | cons second kinds =>
      rw [ih hrest (List.cons_ne_nil _ _), endsClosed_cons_cons]

theorem upNext_of_ahead_none {state : State σ} (h : state.ahead = none) :
    state.upNext = TokenSource.next state.source := by
  simp [upNext, h]

/-- The tokens of a path come before those that are left at its end. -/
theorem Path.upcoming {start stop : State σ} {left right : List Token.Kind}
    (h : Path start left stop) (hright : stop.Upcoming right) :
    start.Upcoming (left ++ right) := by
  induction left generalizing start with
  | nil =>
    rw [List.nil_append, Upcoming, h.1]
    exact hright
  | cons kind kinds ih =>
    obtain ⟨token, mid, hstart, hkind, hne, hahead, -, hrest⟩ := h
    refine ⟨token, by rw [hstart], hkind, hne, ?_⟩
    rw [hstart, ← upNext_of_ahead_none hahead]
    exact ih hrest

end State

/-! ## Accepted outcomes -/

namespace Reader

variable {α β : Type}

def Accepts (reader : Reader σ α) (state : State σ) (value : α) (after : State σ) : Prop :=
  reader state = .accepted value after

theorem accepts_bind {reader : Reader σ α} {next : α → Reader σ β} {state after : State σ}
    {value : β} :
    Accepts (reader >>= next) state value after ↔
      ∃ first mid, Accepts reader state first mid ∧ Accepts (next first) mid value after := by
  rw [Accepts, bind_apply]
  constructor
  · intro h
    split at h
    · next first mid hfirst => exact ⟨first, mid, hfirst, h⟩
    · contradiction
    · contradiction
  · rintro ⟨first, mid, hfirst, h⟩
    rw [Accepts] at hfirst
    rw [hfirst]
    exact h

theorem accepts_pure {state after : State σ} {value found : α} :
    Accepts (Pure.pure found) state value after ↔ found = value ∧ state = after := by
  rw [Accepts, pure_apply, Outcome.accepted.injEq]

theorem accepts_map {reader : Reader σ α} {f : α → β} {state after : State σ} {value : β} :
    Accepts (f <$> reader) state value after ↔
      ∃ first, Accepts reader state first after ∧ f first = value := by
  rw [Accepts, map_apply]
  constructor
  · intro h
    split at h
    · next first mid hfirst =>
      rw [Outcome.accepted.injEq] at h
      obtain ⟨hvalue, rfl⟩ := h
      exact ⟨first, hfirst, hvalue⟩
    · contradiction
    · contradiction
  · rintro ⟨first, hfirst, rfl⟩
    rw [Accepts] at hfirst
    rw [hfirst]

theorem accepts_enter {rule : Rule} {next : Unit → Reader σ α} {state after : State σ} {value : α} :
    Accepts (enter rule >>= next) state value after ↔
      Accepts (next ()) { state with events := .entered rule :: state.events } value after :=
  Iff.rfl

theorem not_accepts_giveUp {state after : State σ} {value : α} :
    ¬Accepts giveUp state value after := nofun

variable [TokenSource σ]

theorem not_accepts_reject {fault : Fault} {state after : State σ} {value : α} :
    ¬Accepts (reject fault) state value after := nofun

theorem accepts_pull {state after : State σ} {token : Token} (h : Accepts pull state token after) :
    TokenSource.next state.source = (.ok token, after.source) ∧ after.last = state.last := by
  rw [Accepts, pull] at h
  rcases hnext : TokenSource.next state.source with ⟨_ | answer, rest⟩
  · simp [hnext] at h
  · simp only [hnext, Outcome.accepted.injEq] at h
    obtain ⟨rfl, rfl⟩ := h
    exact ⟨rfl, rfl⟩

theorem accepts_peek {state after : State σ} {token : Token} (h : Accepts peek state token after) :
    state.upNext.1 = .ok token ∧ after.ahead = some token ∧ state.Path [] after := by
  rw [peek, accepts_bind] at h
  obtain ⟨found, mid, hget, h⟩ := h
  cases hget
  cases hahead : state.ahead with
  | some known =>
    rw [hahead] at h
    obtain ⟨rfl, rfl⟩ := accepts_pure.1 h
    exact ⟨by simp [State.upNext, hahead], hahead, State.path_refl _⟩
  | none =>
    rw [hahead] at h
    obtain ⟨pulled, mid, hpull, h⟩ := accepts_bind.1 h
    obtain ⟨_, kept, hmodify, h⟩ := accepts_bind.1 h
    cases hmodify
    obtain ⟨rfl, rfl⟩ := accepts_pure.1 h
    obtain ⟨hnext, hlast⟩ := accepts_pull hpull
    have hupNext : state.upNext = (.ok pulled, mid.source) := by
      rw [State.upNext_of_ahead_none hahead, hnext]
    exact ⟨by rw [hupNext], rfl, hupNext, by simp [State.justClosed, hlast]⟩

end Reader

end FormulaText.Grammar
