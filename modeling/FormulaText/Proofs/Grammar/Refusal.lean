import FormulaText.Proofs.Grammar.Soundness
import FormulaText.Proofs.Grammar.Tiers
import FormulaText.Proofs.Grammar.Underway

/-!
# Where a reading is refused

A rule that rejects has consumed tokens that could have become a phrase of its category, and is then
refused by what comes next: the source fails, or the next token fits no such phrase and is consumed
as the last one. Until then each rule keeps the reading under way. The rules are looked at together,
by induction on their depth.
-/

namespace FormulaText.Grammar

open Reader

variable {σ α β : Type} [TokenSource σ] {vocabulary : Vocabulary} {depth : Nat} {origin : σ}

theorem isPhrase_symbol (vocabulary : Vocabulary) :
    IsPhrase vocabulary .operand [.symbol "x"] := ⟨_, .symbol "x"⟩

def someGroup : List Token.Kind := enclosedIf true [.symbol "x"]

theorem isPhrase_someGroup (vocabulary : Vocabulary) : IsPhrase vocabulary .group someGroup :=
  ⟨_, (Derives.symbol "x").inParentheses⟩

namespace State

/-- What comes next ends a reading: the source fails, or the token that is consumed is a fault. -/
inductive Refuses (state : State σ) : SyntaxError → State σ → Prop
  | failure {error : SyntaxError} {source : σ} (hahead : state.ahead = none)
    (hnext : TokenSource.next state.source = (.error error, source)) :
    Refuses state error ⟨source, none, state.last, .pulled (.error error) :: state.events⟩
  | token {found : Token} {after : State σ} (fault : Fault)
    (h : Accepts advance state found after) :
    Refuses state (.inText (TokenSource.text after.source) found.line found.endColumn fault) after

/-- The tokens consumed between two states can be followed by some that make them a member of a
language. -/
def Continues (language : List Token.Kind → Prop) (state mid : State σ) : Prop :=
  ∃ before more, state.Path before mid ∧ language (before ++ more)

/-- A reading of some language came to a state where it could go on, and is refused there. -/
def Stuck (origin : σ) (language : List Token.Kind → Prop) (state : State σ)
    (error : SyntaxError) (after : State σ) : Prop :=
  ∃ mid, mid.Underway origin ∧ state.Continues language mid ∧ mid.Refuses error after

variable {language inner : List Token.Kind → Prop} {state mid after : State σ}
  {error : SyntaxError}

/-- What is stuck inside a longer phrase. -/
theorem Stuck.within {left : List Token.Kind} (right : List Token.Kind)
    (h : Stuck origin inner mid error after) (hleft : state.Path left mid)
    (hlanguage : ∀ kinds, inner kinds → language (left ++ kinds ++ right)) :
    Stuck origin language state error after := by
  obtain ⟨last, hlast, ⟨before, more, hbefore, hinner⟩, hrefuses⟩ := h
  refine ⟨last, hlast, ⟨left ++ before, more ++ right, hleft.trans hbefore, ?_⟩, hrefuses⟩
  have hwhole := hlanguage _ hinner
  rwa [← List.append_assoc, List.append_assoc (left ++ before)] at hwhole

/-- A look ahead before what is stuck. -/
theorem Stuck.from_peek (h : Stuck origin inner mid error after) (hpath : state.Path [] mid)
    (hlanguage : ∀ kinds, inner kinds → language kinds) :
    Stuck origin language state error after := by
  refine h.within [] hpath fun kinds hkinds ↦ ?_
  rw [List.nil_append, List.append_nil]
  exact hlanguage kinds hkinds

theorem Stuck.mono (h : Stuck origin inner state error after)
    (hlanguage : ∀ kinds, inner kinds → language kinds) :
    Stuck origin language state error after :=
  h.from_peek (path_refl state) hlanguage

theorem Continues.peeked {peeked : State σ} (h : state.Continues language mid)
    (hpath : mid.Path [] peeked) : state.Continues language peeked := by
  obtain ⟨before, more, hbefore, hwhole⟩ := h
  have hpeeked := hbefore.trans hpath
  rw [List.append_nil] at hpeeked
  exact ⟨before, more, hpeeked, hwhole⟩

/-- What is stuck at its first token leaves all before it as it is. -/
theorem Stuck.behind {left : List Token.Kind} {kind : Token.Kind}
    (h : Stuck origin inner mid error after) (hleft : state.Path left mid) (hahead : mid.Next kind)
    (hgoing : state.Continues language mid)
    (hlanguage : ∀ kinds, inner kinds → kinds.head? = some kind → language (left ++ kinds)) :
    Stuck origin language state error after := by
  obtain ⟨last, hlast, ⟨before, more, hbefore, hinner⟩, hrefuses⟩ := h
  refine ⟨last, hlast, ?_, hrefuses⟩
  cases before with
  | nil => exact hgoing.peeked hbefore
  | cons first before =>
    obtain ⟨token, htoken, rfl⟩ := hahead
    have hhead := hbefore.head?_eq (List.cons_ne_nil _ _) htoken
    refine ⟨left ++ first :: before, more, hleft.trans hbefore, ?_⟩
    rw [List.append_assoc]
    exact hlanguage _ hinner hhead

/-- A phrase can go on as itself. -/
theorem continues_of_phrase {category : Category} {kinds : List Token.Kind} {value : Expr}
    (hpath : state.Path kinds mid) (h : Derives vocabulary category kinds value) :
    state.Continues (IsPhrase vocabulary category) mid :=
  ⟨kinds, [], hpath, value, by rwa [List.append_nil]⟩

/-- Before its first token each phrase is possible. -/
theorem continues_of_isPhrase {category : Category} {kinds : List Token.Kind} (state : State σ)
    (h : IsPhrase vocabulary category kinds) :
    state.Continues (IsPhrase vocabulary category) state :=
  ⟨[], kinds, path_refl state, h⟩

/-- A reading stays under way when it consumes a known token. -/
theorem Underway.of_advance_of_next {found : Token} {kind : Token.Kind}
    (h : state.Underway origin) (hadvance : Accepts advance state found after)
    (hnext : state.Next kind) (hkind : kind ≠ .endOfInput) : after.Underway origin := by
  have hfound := hnext.unique (next_of_advance hadvance)
  exact h.of_advance_of_ne hadvance (hfound ▸ hkind)

end State

namespace Reader

open State

variable {language inner : List Token.Kind → Prop} {state mid : State σ}
  {weak strong : SyntaxError → State σ → Prop}

/-- A reader keeps a reading under way, or it rejects in a known way. -/
def Settles (reader : Reader σ α) (origin : σ) (state : State σ)
    (stuck : SyntaxError → State σ → Prop) : Prop :=
  match reader state with
  | .accepted _ after => after.Underway origin
  | .rejected error after => stuck error after
  | .tooDeep after => after.Underway origin

theorem settles_pure {value : α} (h : state.Underway origin) :
    Settles (Pure.pure value) origin state weak := h

theorem Settles.mono {reader : Reader σ α} (h : Settles reader origin state strong)
    (hstuck : ∀ error after, strong error after → weak error after) :
    Settles reader origin state weak := by
  unfold Settles at h ⊢
  cases hreader : reader state with
  | accepted value after =>
    rw [hreader] at h
    exact h
  | rejected error after =>
    rw [hreader] at h
    exact hstuck error after h
  | tooDeep after =>
    rw [hreader] at h
    exact h

/-- Two readers in a row, where the second one is looked at after what the first one accepts. -/
theorem Settles.bind {reader : Reader σ α} {next : α → Reader σ β}
    (h : Settles reader origin state weak)
    (hnext : ∀ value after, Accepts reader state value after → after.Underway origin →
      Settles (next value) origin after weak) :
    Settles (reader >>= next) origin state weak := by
  unfold Settles at h ⊢
  rw [bind_apply]
  cases hreader : reader state with
  | accepted value after =>
    rw [hreader] at h
    exact hnext value after hreader h
  | rejected error after =>
    rw [hreader] at h
    exact h
  | tooDeep after =>
    rw [hreader] at h
    exact h

theorem settles_map {reader : Reader σ α} {f : α → β} (h : Settles reader origin state weak) :
    Settles (f <$> reader) origin state weak := by
  unfold Settles at h ⊢
  rw [map_apply]
  cases hreader : reader state <;> rw [hreader] at h <;> exact h

/-- A rule is stuck where the reading of its parts is. -/
theorem settles_enter {rule : Rule} {next : Reader σ α} (hstate : state.Underway origin)
    (hnext : ∀ entered : State σ, entered.Underway origin →
      (∀ kind, state.Next kind → entered.Next kind) →
        Settles next origin entered (Stuck origin language entered)) :
    Settles (do enter rule; next) origin state (Stuck origin language state) := by
  refine (hnext _ (hstate.enter rule) fun _ ↦ id).mono fun error after hstuck ↦ ?_
  obtain ⟨last, hlast, ⟨before, more, hbefore, hwhole⟩, hrefuses⟩ := hstuck
  exact ⟨last, hlast, ⟨before, more, path_events.1 hbefore, hwhole⟩, hrefuses⟩

/-- A look ahead shows a token or is refused. -/
theorem peek_or_refuses (state : State σ) :
    (∃ token peeked, Accepts peek state token peeked) ∨
      ∃ error after, peek state = .rejected error after ∧ state.Refuses error after := by
  cases hahead : state.ahead with
  | some token => exact .inl ⟨token, state, peek_of_ahead hahead⟩
  | none =>
    rcases hnext : TokenSource.next state.source with ⟨error | token, source⟩
    · exact .inr ⟨error, _, peek_of_failure hahead hnext, .failure hahead hnext⟩
    · exact .inl ⟨token, _, peek_of_next hahead hnext⟩

/-- What goes on after a look ahead, where something could be going on. -/
theorem Settles.afterPeek {next : Token → Reader σ α} (hmid : mid.Underway origin)
    (hgoing : state.Continues language mid)
    (hnext : ∀ token peeked, mid.Path [] peeked → peeked.Next token.kind →
      peeked.Underway origin → Settles (next token) origin peeked (Stuck origin language state)) :
    Settles (peek >>= next) origin mid (Stuck origin language state) := by
  unfold Settles
  rw [bind_apply]
  rcases peek_or_refuses mid with ⟨token, peeked, hpeek⟩ | ⟨error, after, hpeek, hrefuses⟩
  · obtain ⟨hpath, hkind⟩ := path_of_peek hpeek
    rw [hpeek]
    exact hnext token peeked hpath hkind (hmid.of_peek hpeek).1
  · rw [hpeek]
    exact ⟨mid, hmid, hgoing, hrefuses⟩

/-- What goes on after the next token is consumed. -/
theorem Settles.afterAdvance {next : Token → Reader σ α} (hmid : mid.Underway origin)
    (hgoing : state.Continues language mid)
    (hnext : ∀ token after, Accepts advance mid token after →
      Settles (next token) origin after (Stuck origin language state)) :
    Settles (advance >>= next) origin mid (Stuck origin language state) := by
  unfold Settles
  rw [bind_apply]
  rcases peek_or_refuses mid with ⟨token, peeked, hpeek⟩ | ⟨error, after, hpeek, hrefuses⟩
  · have hadvance := advance_of_peek hpeek
    rw [hadvance]
    exact hnext token _ hadvance
  · rw [advance_of_failure hpeek]
    exact ⟨mid, hmid, hgoing, hrefuses⟩

/-- A token is consumed only to be rejected. -/
theorem settles_reject {fault : Fault} {token : Token} {after : State σ}
    (hmid : mid.Underway origin) (hgoing : state.Continues language mid)
    (h : Accepts advance mid token after) :
    Settles (reject fault : Reader σ α) origin after (Stuck origin language state) := by
  obtain ⟨peeked, -, rfl⟩ := exists_peek_of_advance h
  exact ⟨mid, hmid, hgoing, .token fault h⟩

end Reader

end FormulaText.Grammar
