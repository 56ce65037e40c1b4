import FormulaText.Proofs.Grammar.Exact
import FormulaText.Proofs.Grammar.Pulls

/-!
# Where the first wrong token stands

A reading of a list of tokens that is no formula stops at the first token that does not fit. The
tokens before it are the beginning of some formula, with it they are the beginning of none, and the
error points behind it.
-/

namespace FormulaText

namespace Playback

theorem after_ofList (text : String) (answers : List (Except SyntaxError Token)) (count : Nat) :
    (TokenSource.after (ofList text answers) count).upcoming = answers.drop count ∧
      (TokenSource.after (ofList text answers) count).text = text := by
  induction count with
  | zero => exact ⟨rfl, rfl⟩
  | succ count ih =>
    obtain ⟨hupcoming, htext⟩ := ih
    rw [TokenSource.after]
    generalize TokenSource.after (ofList text answers) count = playback at hupcoming htext
    obtain ⟨known, upcoming, line, column⟩ := playback
    have hdrop : answers.drop (count + 1) = upcoming.drop 1 := by
      rw [show upcoming = answers.drop count from hupcoming, List.drop_drop]
    rw [hdrop]
    rcases upcoming with _ | ⟨_ | _, _⟩ <;> exact ⟨rfl, htext⟩

/-- A list gives its answers one after the other. -/
theorem answer_ofList (text : String) {answers : List (Except SyntaxError Token)} {count : Nat}
    {answer : Except SyntaxError Token} (h : answers[count]? = some answer) :
    TokenSource.answer (ofList text answers) count = answer := by
  obtain ⟨hlt, rfl⟩ := List.getElem?_eq_some_iff.1 h
  have hupcoming := (after_ofList text answers count).1
  rw [List.drop_eq_getElem_cons hlt] at hupcoming
  rw [TokenSource.answer]
  generalize TokenSource.after (ofList text answers) count = playback at hupcoming
  have hnext : TokenSource.next playback = playback.next := rfl
  rw [hnext, Playback.next, hupcoming]
  cases answers[count] <;> rfl

theorem answers_ofList (text : String) (answers : List (Except SyntaxError Token)) {count : Nat}
    (h : count ≤ answers.length) :
    TokenSource.answers (ofList text answers) count = answers.take count := by
  refine List.ext_getElem? fun i ↦ ?_
  rw [TokenSource.answers, List.getElem?_map, List.getElem?_take]
  by_cases hi : i < count
  · have hlt : i < answers.length := Nat.lt_of_lt_of_le hi h
    rw [List.getElem?_range hi, if_pos hi, Option.map_some,
      answer_ofList text (List.getElem?_eq_getElem hlt), List.getElem?_eq_getElem hlt]
  · rw [if_neg hi, List.getElem?_eq_none (by simpa using hi), Option.map_none]

end Playback

namespace Grammar

open Reader State

variable {vocabulary : Vocabulary}

theorem Derives.not_mem_endOfInput {category : Category} {kinds : List Token.Kind} {value : Expr}
    (h : Derives vocabulary category kinds value) : .endOfInput ∉ kinds := by
  induction h with
  | @signed sign kinds value h ih => cases sign <;> simpa [signToken] using ih
  | plain isCall | fraction isCall | root isCall | indexedRoot isCall | application isCall =>
    cases isCall <;> simp_all [nameToken]
  | _ => simp_all

theorem IsText.not_mem_endOfInput {kinds : List Token.Kind} (h : IsText vocabulary kinds) :
    .endOfInput ∉ kinds := by
  obtain ⟨value?, h⟩ := h
  cases h with
  | nothing => exact List.not_mem_nil
  | sum h => exact h.not_mem_endOfInput
  | equation hlhs hrhs => simp [hlhs.not_mem_endOfInput, hrhs.not_mem_endOfInput]

namespace State

variable {σ : Type} [TokenSource σ] {origin : σ} {state : State σ}

/-- The tokens consumed are the first answers of the source. -/
theorem Underway.map_tokens (h : state.Underway origin) :
    (Event.tokens state.history).map .ok =
      TokenSource.answers origin (Event.tokens state.history).length := by
  have hanswers := h.answers.symm.trans h.draws.answers
  have hlength : (Event.tokens state.history).length ≤ (Event.answers state.history).length := by
    rw [h.answers, List.length_map, List.length_append]
    exact Nat.le_add_right _ _
  rw [← TokenSource.take_answers origin hlength, ← hanswers, List.map_append]
  exact (List.take_left' (List.length_map _)).symm

/-- What is next comes behind the tokens consumed, whether it stands ahead or not. -/
theorem Underway.upNext_eq (h : state.Underway origin) :
    state.upNext = TokenSource.next
      (TokenSource.after origin (Event.tokens state.history).length) := by
  have hsource := h.draws.source
  have hanswers := h.answers
  cases hahead : state.ahead with
  | none =>
    rw [hahead, Option.toList_none, List.append_nil] at hanswers
    rw [hanswers, List.length_map] at hsource
    rw [upNext_of_ahead_none hahead, hsource]
  | some token =>
    rw [hahead, Option.toList_some] at hanswers
    rw [hanswers, List.length_map, List.length_append, List.length_singleton] at hsource
    have hdraws := h.draws.answers
    rw [hanswers, List.length_map, List.length_append, List.length_singleton,
      TokenSource.answers_succ, List.map_append] at hdraws
    have hlast : .ok token = TokenSource.answer origin (Event.tokens state.history).length :=
      List.singleton_inj.1 (List.append_inj' hdraws rfl).2
    have hnext : state.upNext = (.ok token, state.source) := by simp [upNext, hahead]
    rw [hnext, hsource]
    exact Prod.ext hlast rfl

end State

/-! ## Lists of tokens -/

theorem map_ok_injective {tokens others : List Token}
    (h : tokens.map (Except.ok (ε := SyntaxError)) = others.map .ok) : tokens = others :=
  (List.map_inj_right fun _ _ ↦ Except.ok.inj).1 h

section Tokens

variable {text : String} {tokens : List Token} {last : Token} {state : State Playback}

/-- While a reading of a list is under way, it has consumed no more than the tokens before the
end. -/
theorem State.Underway.tokens_ofList
    (h : state.Underway (Playback.ofList text ((tokens ++ [last]).map .ok)))
    (hlast : last.kind = .endOfInput) :
    ∃ count ≤ tokens.length, Event.tokens state.history = tokens.take count := by
  have hmap := h.map_tokens
  rcases Nat.lt_or_ge tokens.length (Event.tokens state.history).length with hlt | hle
  · -- else the end of the input has been consumed
    have htake := TokenSource.take_answers (Playback.ofList text ((tokens ++ [last]).map .ok)) hlt
    have hall : TokenSource.answers (Playback.ofList text ((tokens ++ [last]).map .ok))
        tokens.length.succ = (tokens ++ [last]).map .ok := by
      rw [Playback.answers_ofList _ _ (by simp), List.take_of_length_le (by simp)]
    rw [← hmap, hall, ← List.map_take] at htake
    have hconsumed : last ∈ (Event.tokens state.history).take tokens.length.succ := by
      rw [map_ok_injective htake]
      simp
    exact absurd hlast (h.going last (List.mem_of_mem_take hconsumed))
  · rw [Playback.answers_ofList text _ (by simp; omega), ← List.map_take,
      List.take_append_of_le_length hle] at hmap
    exact ⟨_, hle, map_ok_injective hmap⟩

/-- The kinds of the tokens before the end. -/
theorem takeWhile_kinds (htokens : ∀ token ∈ tokens, token.kind ≠ .endOfInput)
    (hlast : last.kind = .endOfInput) :
    ((tokens ++ [last]).map Token.kind).takeWhile (· ≠ .endOfInput) = tokens.map Token.kind := by
  rw [List.map_append, List.takeWhile_append_of_pos]
  · simp [hlast]
  · intro kind hkind
    obtain ⟨token, htoken, rfl⟩ := List.mem_map.1 hkind
    simpa using htokens token htoken

/-- What a list gives after some tokens. -/
theorem gives_after_ofList (text : String) (htokens : ∀ token ∈ tokens, token.kind ≠ .endOfInput)
    (hlast : last.kind = .endOfInput) {count : Nat} (hcount : count ≤ tokens.length) :
    Gives (TokenSource.after (Playback.ofList text ((tokens ++ [last]).map .ok)) count)
      ((tokens.drop count).map Token.kind) := by
  have hupcoming := (Playback.after_ofList text ((tokens ++ [last]).map .ok) count).1
  rw [← List.map_drop, List.drop_append_of_le_length hcount] at hupcoming
  have hgives := gives_playback _ _ hupcoming
  rwa [takeWhile_kinds (fun token h ↦ htokens token (List.mem_of_mem_drop h)) hlast] at hgives

/-- The tokens on the way to a state of a reading are those it consumed. -/
theorem path_kinds_eq (htokens : ∀ token ∈ tokens, token.kind ≠ .endOfInput)
    (hlast : last.kind = .endOfInput)
    (h : state.Underway (Playback.ofList text ((tokens ++ [last]).map .ok)))
    {before : List Token.Kind}
    (hpath : (start (Playback.ofList text ((tokens ++ [last]).map .ok))).Path before state) :
    before = (Event.tokens state.history).map Token.kind := by
  obtain ⟨count, hcount, htaken⟩ := h.tokens_ofList hlast
  have hlength : (Event.tokens state.history).length = count := by
    rw [htaken, List.length_take, Nat.min_eq_left hcount]
  have hrest : state.Upcoming ((tokens.drop count).map Token.kind) := by
    rw [Upcoming, h.upNext_eq, hlength]
    exact gives_after_ofList text htokens hlast hcount
  have hall := gives_after_ofList text htokens hlast (Nat.zero_le tokens.length)
  have hwhole := answers_unique hall (hpath.upcoming hrest)
  rw [List.drop_zero] at hwhole
  conv at hwhole => rhs; rw [← List.take_append_drop count tokens, List.map_append]
  rw [htaken]
  exact List.append_cancel_right hwhole

/-- A reading of a list is refused at the token behind those it consumed, and it consumes that token
too. -/
theorem refuses_ofList {after : State Playback} {error : SyntaxError}
    (h : state.Underway (Playback.ofList text ((tokens ++ [last]).map .ok)))
    (hlast : last.kind = .endOfInput) (hrefuses : state.Refuses error after) :
    ∃ k found, k ≤ tokens.length ∧ (tokens ++ [last])[k]? = some found ∧
      Event.tokens state.history = tokens.take k ∧ after.StoppedAt found ∧
      Event.tokens after.history = (tokens ++ [last]).take (k + 1) ∧
      error.line = found.line + 1 ∧ error.column = found.endColumn + 1 := by
  obtain ⟨k, hk, htaken⟩ := h.tokens_ofList hlast
  have hlength : (Event.tokens state.history).length = k := by
    rw [htaken, List.length_take, Nat.min_eq_left hk]
  obtain ⟨found, hfound⟩ : ∃ found, (tokens ++ [last])[k]? = some found :=
    ⟨_, List.getElem?_eq_getElem (by simp; omega)⟩
  have hanswer : state.upNext.1 = .ok found := by
    rw [h.upNext_eq, hlength]
    exact Playback.answer_ofList text (by rw [List.getElem?_map, hfound, Option.map_some])
  refine ⟨k, found, hk, hfound, htaken, ?_⟩
  cases hrefuses with
  | failure hahead hnext =>
    rw [upNext_of_ahead_none hahead, hnext] at hanswer
    contradiction
  | @token consumed after fault hadvance =>
    obtain ⟨peeked, hpeek, -⟩ := exists_peek_of_advance hadvance
    rw [(accepts_peek hpeek).1, Except.ok.injEq] at hanswer
    obtain ⟨-, -, htokens⟩ := h.of_advance hadvance
    rw [hanswer] at htokens ⊢
    refine ⟨hanswer ▸ (h.stoppedAt hadvance).2, ?_, rfl, rfl⟩
    rw [htokens, htaken, List.take_add_one, hfound, List.take_append_of_le_length hk,
      Option.toList_some]

/-- Each list of kinds is that of some tokens. -/
theorem exists_tokens (kinds : List Token.Kind) :
    ∃ tokens : List Token, tokens.map Token.kind = kinds :=
  ⟨kinds.map fun kind ↦ ⟨kind, 0, 0, 0⟩, by rw [List.map_map]; exact List.map_id _⟩

/-- The text that errors point into does not matter for what is accepted. -/
theorem parse_ofList_text (text other : String) (tokens : List Token) (value? : Option Expr) :
    parse vocabulary (Playback.ofList text (tokens.map .ok)) = .ok value? ↔
      parse vocabulary (Playback.ofList other (tokens.map .ok)) = .ok value? := by
  rw [parse_eq_ok_iff_of_gives (gives_playback (Playback.ofList text (tokens.map .ok)) tokens rfl),
    parse_eq_ok_iff_of_gives (gives_playback (Playback.ofList other (tokens.map .ok)) tokens rfl)]

/-- Tokens that can be a formula are accepted, wherever the input ends behind them. -/
theorem exists_parse_eq_ok (htokens : IsText vocabulary (tokens.map Token.kind))
    (hlast : last.kind = .endOfInput) (text : String) :
    ∃ value?, parse vocabulary (Playback.ofList text ((tokens ++ [last]).map .ok)) =
      .ok value? := by
  have hnone (token : Token) (h : token ∈ tokens) : token.kind ≠ .endOfInput := fun hend ↦
    htokens.not_mem_endOfInput (List.mem_map.2 ⟨token, h, hend⟩)
  have hgives := gives_playback
    (Playback.ofList text ((tokens ++ [last]).map .ok)) (tokens ++ [last]) rfl
  rw [takeWhile_kinds hnone hlast] at hgives
  obtain ⟨value?, hformula⟩ := htokens
  exact ⟨value?, (parse_eq_ok_iff_of_gives hgives).2 hformula⟩

/-- What is refused on its first tokens is refused whatever comes behind them. -/
theorem parse_ne_ok_of_take {error : SyntaxError} {history : List Event} {known : List Token}
    {count : Nat} (hcount : count ≤ known.length)
    (h : ComesTo vocabulary (Playback.ofList text (known.map .ok)) (.error error) history)
    (hpulled : (Event.answers history).length = count) (others : List Token)
    (value? : Option Expr) :
    parse vocabulary (Playback.ofList text ((known.take count ++ others).map .ok)) ≠
      .ok value? := by
  intro haccepted
  have hagree : Agree (Playback.ofList text (known.map .ok))
      (Playback.ofList text ((known.take count ++ others).map .ok)) count := by
    constructor
    · rw [Playback.answers_ofList _ _ (by simp; omega), Playback.answers_ofList _ _ (by simpa),
        ← List.map_take, ← List.map_take, List.take_append_of_le_length (by simp; omega),
        List.take_take, Nat.min_self]
    · exact (Playback.after_ofList _ _ _).2.trans (Playback.after_ofList _ _ _).2.symm
  have hother := comesTo_read vocabulary
    (Playback.ofList text ((known.take count ++ others).map .ok))
  change ComesTo _ _ (parse vocabulary _) _ at hother
  rw [haccepted] at hother
  obtain ⟨hresult, -⟩ := (h.of_agree (hpulled ▸ hagree)).unique hother
  contradiction

/-- A list of tokens that is refused has a first wrong token, which is the last one consumed: the
tokens before it can go on to a list that is accepted, no list that begins with it too is accepted,
and the error points right behind it. -/
theorem parse_error_at_first_wrong_token (vocabulary : Vocabulary) (text : String)
    (tokens : List Token) (last : Token) (htokens : ∀ token ∈ tokens, token.kind ≠ .endOfInput)
    (hlast : last.kind = .endOfInput) (error : SyntaxError)
    (h : parse vocabulary (Playback.ofList text ((tokens ++ [last]).map .ok)) = .error error) :
    ∃ k found, (tokens ++ [last])[k]? = some found ∧
      Event.tokens
        (read vocabulary (Playback.ofList text ((tokens ++ [last]).map .ok))).state.history =
          (tokens ++ [last]).take (k + 1) ∧
      (∃ more : List Token, (∀ token ∈ more, token.kind ≠ .endOfInput) ∧
        ∀ (other : String) (ending : Token), ending.kind = .endOfInput → ∃ value?,
          parse vocabulary (Playback.ofList other ((tokens.take k ++ more ++ [ending]).map .ok)) =
            .ok value?) ∧
      (∀ (other : String) (more : List Token) (value? : Option Expr),
        parse vocabulary
          (Playback.ofList other (((tokens ++ [last]).take (k + 1) ++ more).map .ok)) ≠
            .ok value?) ∧
      error.line = found.line + 1 ∧ error.column = found.endColumn + 1 := by
  have hreads := comesTo_read vocabulary (Playback.ofList text ((tokens ++ [last]).map .ok))
  change ComesTo _ _ (parse vocabulary _) _ at hreads
  rw [h] at hreads
  obtain ⟨after, ⟨mid, hmid, ⟨before, kinds, hpath, htext⟩, hrefuses⟩, hhistory⟩ := hreads.stuck
  obtain ⟨k, found, hk, hfound, htaken, hstopped, hconsumed, hplace⟩ :=
    refuses_ofList hmid hlast hrefuses
  refine ⟨k, found, hfound, by rw [← hhistory, hconsumed], ?_, ?_, hplace⟩
  · obtain ⟨more, rfl⟩ := exists_tokens kinds
    rw [path_kinds_eq htokens hlast hmid hpath, htaken, ← List.map_append] at htext
    refine ⟨more, fun token htoken hend ↦ ?_, fun other ending hending ↦
      exists_parse_eq_ok htext hending other⟩
    exact htext.not_mem_endOfInput
      (List.mem_map.2 ⟨token, List.mem_append_right _ htoken, hend⟩)
  · intro other more value?
    obtain ⟨-, front, htokens, hanswers, -⟩ := hstopped
    have hpulled : (Event.answers after.history).length = k + 1 := by
      rw [hanswers, List.length_map, ← htokens, hconsumed, List.length_take]
      simp
      omega
    rw [Ne, parse_ofList_text other text]
    exact parse_ne_ok_of_take (by simp; omega) (hhistory ▸ hreads) hpulled more value?

theorem parse_error_at_first_wrong_token_bracket :
    let symbol : Token := ⟨.symbol "x", 0, 0, 1⟩
    let closing : Token := ⟨.bracket (.closing ')'), 0, 1, 2⟩
    let last : Token := ⟨.endOfInput, 0, 2, 2⟩
    ∃ error, parse .common (Playback.ofList "x)" (([symbol, closing] ++ [last]).map .ok)) =
        .error error ∧
      ∃ k found, ([symbol, closing] ++ [last])[k]? = some found ∧
        Event.tokens
          (read .common
            (Playback.ofList "x)" (([symbol, closing] ++ [last]).map .ok))).state.history =
            ([symbol, closing] ++ [last]).take (k + 1) ∧
        (∃ more : List Token, (∀ token ∈ more, token.kind ≠ .endOfInput) ∧
          ∀ (other : String) (ending : Token), ending.kind = .endOfInput → ∃ value?,
            parse .common
              (Playback.ofList other (([symbol, closing].take k ++ more ++ [ending]).map .ok)) =
                .ok value?) ∧
        (∀ (other : String) (more : List Token) (value? : Option Expr),
          parse .common
            (Playback.ofList other ((([symbol, closing] ++ [last]).take (k + 1) ++ more).map .ok)) ≠
              .ok value?) ∧
        error.line = found.line + 1 ∧ error.column = found.endColumn + 1 := by
  intro symbol closing last
  have hparse : parse .common (Playback.ofList "x)" (([symbol, closing] ++ [last]).map .ok)) =
      .error (.inText "x)" 0 2 (.trailingToken (.bracket (.closing ')')))) := rfl
  exact ⟨_, hparse, parse_error_at_first_wrong_token .common "x)" [symbol, closing] last
    (by decide) rfl _ hparse⟩

end Tokens

end Grammar

end FormulaText
