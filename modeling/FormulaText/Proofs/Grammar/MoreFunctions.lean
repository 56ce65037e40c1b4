import FormulaText.Proofs.Grammar.Locality
import FormulaText.Proofs.Vocabulary.Batches

/-!
# Readings with more functions

What a vocabulary says of a name matters where a reading pulls this name. So a reading goes the same
way with more functions, unless it pulls a name that becomes one, and even then if the name is that
of a fraction or a root. This holds of every source. For the proof the pulled answers are played
back: then no other name can come up.
-/

namespace FormulaText.Grammar

open Reader State

variable {vocabulary other : Vocabulary}

/-! ## Readings with two vocabularies -/

theorem sameRole_of_ne {token : Token} (h : ∀ isCall name, token.kind ≠ nameToken isCall name) :
    SameRole vocabulary other token :=
  fun isCall name hkind ↦ absurd hkind (h isCall name)

/-- Whether the token ahead and all tokens to come stand for the same in two vocabularies. -/
structure State.IsShared (vocabulary other : Vocabulary) (state : State Playback) : Prop where
  ahead (token : Token) (h : state.ahead = some token) : SameRole vocabulary other token
  upcoming (token : Token) (h : .ok token ∈ state.source.upcoming) :
    SameRole vocabulary other token

/-- What is pulled stands for the same in both vocabularies, and so does what is left. -/
theorem State.IsShared.pull {state : State Playback} (h : state.IsShared vocabulary other)
    {token : Token} {rest : Playback} (hnext : TokenSource.next state.source = (.ok token, rest)) :
    SameRole vocabulary other token ∧
      ∀ later, .ok later ∈ rest.upcoming → SameRole vocabulary other later := by
  change state.source.next = _ at hnext
  have hupcoming := h.upcoming
  rw [Playback.next] at hnext
  split at hnext
  · next hnil =>
    obtain ⟨htoken, rfl⟩ := Prod.mk.inj hnext
    obtain rfl := Except.ok.inj htoken
    exact ⟨sameRole_of_ne fun isCall name ↦ (nameToken_ne_endOfInput isCall name).symm, hupcoming⟩
  · next first later hcons =>
    obtain ⟨htoken, rfl⟩ := Prod.mk.inj hnext
    obtain rfl := Except.ok.inj htoken
    rw [hcons] at hupcoming
    exact ⟨hupcoming _ List.mem_cons_self, fun found hfound ↦
      hupcoming found (List.mem_cons_of_mem _ hfound)⟩
  · next error later hcons =>
    obtain ⟨htoken, -⟩ := Prod.mk.inj hnext
    contradiction

/-- A look ahead shows a token that stands for the same in both vocabularies. -/
theorem State.IsShared.of_peek {state after : State Playback} (h : state.IsShared vocabulary other)
    {token : Token} (hpeek : Accepts peek state token after) :
    SameRole vocabulary other token ∧ after.IsShared vocabulary other := by
  cases hahead : state.ahead with
  | some known =>
    rw [Accepts, peek_of_ahead hahead, Outcome.accepted.injEq] at hpeek
    obtain ⟨rfl, rfl⟩ := hpeek
    exact ⟨h.ahead known hahead, h⟩
  | none =>
    rcases hnext : TokenSource.next state.source with ⟨error | known, rest⟩
    · rw [Accepts, peek_of_failure hahead hnext] at hpeek
      contradiction
    · rw [Accepts, peek_of_next hahead hnext, Outcome.accepted.injEq] at hpeek
      obtain ⟨rfl, rfl⟩ := hpeek
      obtain ⟨hknown, hrest⟩ := h.pull hnext
      refine ⟨hknown, fun found hfound ↦ ?_, hrest⟩
      exact Option.some.inj hfound ▸ hknown

/-- Two readers come to the same, as long as what is pulled stands for the same in both
vocabularies. Nothing is said where the first one gives up. -/
def Coincide {α : Type} (vocabulary other : Vocabulary) (reader twin : Reader Playback α) : Prop :=
  ∀ state, state.IsShared vocabulary other →
    match reader state with
    | .accepted value after => twin state = .accepted value after ∧ after.IsShared vocabulary other
    | .rejected error after => twin state = .rejected error after
    | .tooDeep _ => True

section Coincide

variable {α β : Type}

/-- A reader that leaves a shared state coincides with itself. -/
theorem coincide_self {reader : Reader Playback α}
    (h : ∀ state value after, state.IsShared vocabulary other → Accepts reader state value after →
      after.IsShared vocabulary other) : Coincide vocabulary other reader reader := by
  intro state hstate
  have hafter := h state
  unfold Accepts at hafter
  cases hreader : reader state with
  | accepted value after => exact ⟨rfl, hafter value after hstate hreader⟩
  | rejected error after => rfl
  | tooDeep after => trivial

theorem Coincide.bind {reader twin : Reader Playback α} {next twinNext : α → Reader Playback β}
    (h : Coincide vocabulary other reader twin)
    (hnext : ∀ value, Coincide vocabulary other (next value) (twinNext value)) :
    Coincide vocabulary other (reader >>= next) (twin >>= twinNext) := by
  intro state hstate
  have hfirst := h state hstate
  rw [bind_apply, bind_apply]
  cases hreader : reader state with
  | accepted value mid =>
    rw [hreader] at hfirst
    rw [hfirst.1]
    exact hnext value mid hfirst.2
  | rejected error mid =>
    rw [hreader] at hfirst
    rw [show twin state = .rejected error mid from hfirst]
  | tooDeep mid => trivial

theorem coincide_peek {next twinNext : Token → Reader Playback α}
    (hnext : ∀ token, SameRole vocabulary other token →
      Coincide vocabulary other (next token) (twinNext token)) :
    Coincide vocabulary other (peek >>= next) (peek >>= twinNext) := by
  intro state hstate
  rw [bind_apply, bind_apply]
  cases hpeek : peek state with
  | accepted token after =>
    obtain ⟨htoken, hafter⟩ := hstate.of_peek hpeek
    exact hnext token htoken after hafter
  | rejected error after => rfl
  | tooDeep after => trivial

theorem isCongruence_coincide (vocabulary other : Vocabulary) :
    IsCongruence (SameRole vocabulary other) fun _ ↦ Coincide vocabulary other where
  giveUp _ _ _ := trivial
  pure _ _ hstate := ⟨rfl, hstate⟩
  bind := Coincide.bind
  peek := coincide_peek
  enter _ _ hstate := ⟨rfl, hstate.ahead, hstate.upcoming⟩
  advance := by
    refine coincide_self fun state token after hstate hadvance ↦ ?_
    obtain ⟨peeked, hpeek, rfl⟩ := exists_peek_of_advance hadvance
    exact ⟨nofun, (hstate.of_peek hpeek).2.upcoming⟩
  staysGrouped _ _ hstate := ⟨rfl, hstate⟩
  reject _ _ _ _ := rfl

end Coincide

/-- A list of answers is read alike with vocabularies that give the names in it the same roles. -/
theorem ComesTo.of_upcoming {playback : Playback} {result : Except SyntaxError (Option Expr)}
    {history : List Event} (h : ComesTo vocabulary playback result history)
    (hroles : ∀ token, .ok token ∈ playback.upcoming → SameRole vocabulary other token) :
    ComesTo other playback result history := by
  obtain ⟨depth, hresult, hhistory⟩ := h
  have hcoincide := (isCongruence_coincide vocabulary other).formula (fun _ ↦ id)
    (Nat.le_refl depth) (.start playback) ⟨nofun, hroles⟩
  have hsame :
      formula other depth (.start playback) = formula vocabulary depth (.start playback) := by
    revert hcoincide hresult
    cases formula vocabulary depth (.start playback) with
    | accepted value? after => exact fun _ hcoincide ↦ hcoincide.1
    | rejected error after => exact fun _ hcoincide ↦ hcoincide
    | tooDeep after => exact fun hresult ↦ absurd hresult (by simp [Outcome.result?])
  exact ⟨depth, by rw [hsame, hresult], by rw [hsame, hhistory]⟩

/-! ## Every source -/

section Source

variable {σ τ : Type} [TokenSource σ] [TokenSource τ] {source : σ}
  {result : Except SyntaxError (Option Expr)} {history : List Event}

theorem Agree.symm {playback : τ} {count : Nat} (h : Agree source playback count) :
    Agree playback source count :=
  ⟨h.1.symm, h.2.symm⟩

/-- The first answers of a source, played back, agree with it. -/
theorem agree_playback (source : σ) (count : Nat) :
    Agree source (Playback.ofList (TokenSource.text (TokenSource.after source count))
      (TokenSource.answers source count)) count := by
  have hlength : (TokenSource.answers source count).length = count := by
    rw [TokenSource.answers, List.length_map, List.length_range]
  constructor
  · rw [Playback.answers_ofList _ _ (Nat.le_of_eq hlength.symm),
      List.take_of_length_le (Nat.le_of_eq hlength)]
  · exact (Playback.after_ofList _ _ count).2

/-- A reading goes the same way with a vocabulary that gives the pulled names the same roles. -/
theorem ComesTo.of_sameRole (h : ComesTo vocabulary source result history)
    (hroles : ∀ token, .ok token ∈ Event.answers history → SameRole vocabulary other token) :
    ComesTo other source result history := by
  have hagree := agree_playback source (Event.answers history).length
  rw [h.answers_eq] at hagree
  exact ((h.of_agree hagree).of_upcoming hroles).of_agree hagree.symm

end Source

/-! ## More functions -/

/-- Whether each name pulled in a history that becomes a function with another vocabulary is that of
a fraction or a root. -/
def GainsNoFunction (vocabulary other : Vocabulary) (history : List Event) : Prop :=
  ∀ token name, .ok token ∈ Event.answers history →
    (token.kind = .control name ∨ token.kind = .call name) →
    vocabulary.isFunction name = false → other.isFunction name = true →
      Text.equalIgnoringAsciiCase name "frac" = true ∨
        Text.equalIgnoringAsciiCase name "sqrt" = true

/-- A name keeps its role if it is no new function, and that of a fraction or a root always does. -/
theorem roleOf_eq_of_isFunction {name : String}
    (hold : vocabulary.isFunction name = true → other.isFunction name = true)
    (hnew : vocabulary.isFunction name = false → other.isFunction name = true →
      Text.equalIgnoringAsciiCase name "frac" = true ∨
        Text.equalIgnoringAsciiCase name "sqrt" = true) :
    roleOf vocabulary name = roleOf other name := by
  unfold roleOf
  split
  · rfl
  · next hfraction =>
    split
    · rfl
    · next hroot =>
      have hsame : vocabulary.isFunction name = other.isFunction name := by
        cases hfunction : vocabulary.isFunction name with
        | true => exact (hold hfunction).symm
        | false =>
          rw [eq_comm, ← Bool.not_eq_true]
          exact fun hother ↦ (hnew hfunction hother).elim hfraction hroot
      rw [hsame]

section Batches

variable {batches : List (List String)} {history : List Event}

theorem GainsNoFunction.sameRole
    (h : GainsNoFunction vocabulary (vocabulary.withBatches batches) history) {token : Token}
    (htoken : .ok token ∈ Event.answers history) :
    SameRole vocabulary (vocabulary.withBatches batches) token := by
  intro isCall name hkind
  have hname : token.kind = .control name ∨ token.kind = .call name := by
    cases isCall with
    | false => exact .inl hkind
    | true => exact .inr hkind
  exact roleOf_eq_of_isFunction (fun hold ↦ Vocabulary.isFunction_withBatches.2 (.inl hold))
    (h token name htoken hname)

theorem SameRole.symm {token : Token} (h : SameRole vocabulary other token) :
    SameRole other vocabulary token :=
  fun isCall name hkind ↦ (h isCall name hkind).symm

/-- More functions change nothing where no pulled name becomes one. -/
theorem comesTo_withBatches_iff {σ : Type} [TokenSource σ] {source : σ}
    {result : Except SyntaxError (Option Expr)}
    (h : GainsNoFunction vocabulary (vocabulary.withBatches batches) history) :
    ComesTo vocabulary source result history ↔
      ComesTo (vocabulary.withBatches batches) source result history :=
  ⟨fun hcomes ↦ hcomes.of_sameRole fun _ ↦ h.sameRole,
    fun hcomes ↦ hcomes.of_sameRole fun _ htoken ↦ (h.sameRole htoken).symm⟩

end Batches

section Finite

variable {σ : Type} [FiniteTokenSource σ] {source : σ}

theorem parse_withBatches_eq {batches : List (List String)}
    (h : GainsNoFunction vocabulary (vocabulary.withBatches batches)
        (read vocabulary source).state.history ∨
      GainsNoFunction vocabulary (vocabulary.withBatches batches)
        (read (vocabulary.withBatches batches) source).state.history) :
    parse (vocabulary.withBatches batches) source = parse vocabulary source ∧
      (read (vocabulary.withBatches batches) source).log = (read vocabulary source).log := by
  have hread := comesTo_read vocabulary source
  have hextended := comesTo_read (vocabulary.withBatches batches) source
  obtain h | h := h
  · obtain ⟨hresult, hhistory⟩ := ((comesTo_withBatches_iff h).1 hread).unique hextended
    exact ⟨hresult, congrArg Event.log hhistory⟩
  · obtain ⟨hresult, hhistory⟩ := hread.unique ((comesTo_withBatches_iff h).2 hextended)
    exact ⟨hresult, congrArg Event.log hhistory⟩

/-- A control word that is neither a function nor a fraction nor a root is a symbol exactly if it is
a Greek letter. -/
theorem parse_plain {name : String} (hgives : Gives source [.control name])
    (hrole : roleOf vocabulary name = .plain) :
    parse vocabulary source =
      .ok (some (if Text.lowerCase name ∈ greekLetters then .symbol name else .control name)) := by
  have hderives : Derives vocabulary .named [.control name] (plainName false name) :=
    .plain false hrole
  have hname : plainName false name =
      if Text.lowerCase name ∈ greekLetters then .symbol name else .control name := by
    simp only [plainName, Bool.false_or, isGreekLetter, List.contains_iff_mem]
  rw [parse_eq_ok_iff_of_gives hgives, ← hname]
  exact .sum hderives.to_sum

end Finite

/-- Functions are only ever added. After some batches, the functions are the common ones and those
that were added, in any spelling. The Greek letters stay what they are, and the vocabulary depends
on nothing but the words that the batches add. Every source is read with more functions as it was
read before, to the same result and with the same history, if no name that is pulled becomes a
function, or only that of a fraction or a root. -/
theorem functions_only_add (batches : List (List String)) :
    (∀ name, (Vocabulary.common.withBatches batches).isFunction name = true ↔
      Text.lowerCase name ∈ commonFunctions ∨ Vocabulary.Adds batches (Text.lowerCase name)) ∧
    (∀ (σ : Type) [FiniteTokenSource σ] (source : σ) (name : String),
      Gives source [.control name] →
      roleOf (Vocabulary.common.withBatches batches) name = .plain →
        parse (Vocabulary.common.withBatches batches) source = .ok (some
          (if Text.lowerCase name ∈ greekLetters then .symbol name else .control name))) ∧
    (∀ others, (∀ word, Vocabulary.Adds others word ↔ Vocabulary.Adds batches word) →
      Vocabulary.common.withBatches others = Vocabulary.common.withBatches batches) ∧
    (∀ (σ : Type) [TokenSource σ] (source : σ) (result : Except SyntaxError (Option Expr))
      (history : List Event),
      GainsNoFunction .common (Vocabulary.common.withBatches batches) history →
        (ComesTo .common source result history ↔
          ComesTo (Vocabulary.common.withBatches batches) source result history)) ∧
    ∀ (σ : Type) [FiniteTokenSource σ] (source : σ),
      (GainsNoFunction .common (Vocabulary.common.withBatches batches)
          (read .common source).state.history ∨
        GainsNoFunction .common (Vocabulary.common.withBatches batches)
          (read (Vocabulary.common.withBatches batches) source).state.history) →
      parse (Vocabulary.common.withBatches batches) source = parse .common source ∧
        (read (Vocabulary.common.withBatches batches) source).log = (read .common source).log := by
  refine ⟨fun name ↦ ?_, ?_, ?_, ?_, ?_⟩
  · rw [Vocabulary.isFunction_withBatches, isFunction_common_iff]
  · exact fun _ _ _ _ hgives hrole ↦ parse_plain hgives hrole
  · exact fun _ hadds ↦ Vocabulary.isOrdered_common.withBatches_congr hadds
  · exact fun _ _ _ _ _ hgains ↦ comesTo_withBatches_iff hgains
  · exact fun _ _ _ hgains ↦ parse_withBatches_eq hgains

/-- Fractions are read the same also if they are added as functions, and it does not matter how
functions are added. -/
theorem functions_only_add_fraction :
    let batches := [["Foo"], ["FRAC", "foo"]]
    Vocabulary.common.withBatches [["frac", "FOO"]] = Vocabulary.common.withBatches batches ∧
      ∃ error history,
        ComesTo .common (Playback.ofList "\\Frac x" [.ok ⟨.control "Frac", 0, 0, 5⟩,
          .ok ⟨.symbol "x", 0, 6, 7⟩]) (.error error) history ∧
        ComesTo (Vocabulary.common.withBatches batches) (Playback.ofList "\\Frac x"
          [.ok ⟨.control "Frac", 0, 0, 5⟩, .ok ⟨.symbol "x", 0, 6, 7⟩]) (.error error) history := by
  intro batches
  obtain ⟨-, -, hsame, hcomes, -⟩ := functions_only_add batches
  have hadds (word : String) :
      Vocabulary.Adds [["frac", "FOO"]] word ↔ Vocabulary.Adds batches word := by
    have hfrac : Text.lowerCase "frac" = Text.lowerCase "FRAC" := by decide
    have hfoo : Text.lowerCase "FOO" = Text.lowerCase "Foo" := by decide
    have hsmall : Text.lowerCase "foo" = Text.lowerCase "Foo" := by decide
    simp only [Vocabulary.Adds, batches, List.exists_mem_cons_iff, hfrac, hfoo, hsmall]
    grind
  have hread : ComesTo .common (Playback.ofList "\\Frac x" [.ok ⟨.control "Frac", 0, 0, 5⟩,
      .ok ⟨.symbol "x", 0, 6, 7⟩]) (.error _) _ := ⟨12, rfl, rfl⟩
  refine ⟨hsame _ hadds, _, _, hread, (hcomes _ _ _ _ fun token name htoken hname _ _ ↦ ?_).1 hread⟩
  have htokens : (.ok token : Except SyntaxError Token) ∈
      [.ok ⟨.control "Frac", 0, 0, 5⟩, .ok ⟨.symbol "x", 0, 6, 7⟩] := htoken
  have hFrac : name = "Frac" := by
    simp only [List.mem_cons, Except.ok.injEq, List.not_mem_nil, or_false] at htokens
    obtain rfl | rfl := htokens
    · simpa [eq_comm] using hname
    · simp at hname
  rw [hFrac]
  exact .inl (by decide)

end FormulaText.Grammar
