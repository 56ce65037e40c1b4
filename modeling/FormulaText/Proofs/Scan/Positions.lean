import FormulaText.Latex.Scanner
import FormulaText.Linear.Scanner
import FormulaText.Proofs.Grammar.Exact
import FormulaText.Proofs.Grammar.Underway
import FormulaText.Proofs.Scan.Spans

/-!
# Positions of tokens are exact

Both scanners, at any pull and behind any failure, stand at a place whose position is read off the
text in front of it, and the text of a token stands where the token says. What is passed over
between two tokens is blank, but for delimiters at which pulls failed.
-/

namespace FormulaText

open PrefixMap Scan

variable {M : Type} [PrefixMap M Lexeme] {table : M} {entries : List (String × Lexeme)}

/-! ## One pull of the linear notation -/

namespace Linear

theorem spans_readFree (place : Cursor) : Spans entries place (readFree place) := by
  unfold readFree
  split
  · next numeral hnumeral => exact spans_readNumeral hnumeral
  · split
    · exact spans_refuse _ _ _
    · next c letters _ hword =>
      have hbegins := hword ▸ wordAt_isPrefix place.remaining
      simp only
      split
      · exact spans_read hbegins (String.toList_ofList).symm
      · exact spans_read hbegins (String.toList_ofList).symm

theorem spans_readToken (h : Answers table entries) (cursor : Cursor) :
    Spans entries cursor (readToken table cursor) := by
  refine Spans.skipWhiteSpace (?_ : Spans entries cursor.skipWhiteSpace _)
  simp only [readToken]
  split
  · exact spans_read List.nil_prefix rfl
  · split
    case h_7 => exact spans_readFree _
    case h_5 => exact spans_refuse _ _ _
    case h_6 => exact spans_refuse _ _ _
    all_goals
      next hlexeme =>
      exact spans_read_lexeme h hlexeme rfl

end Linear

/-! ## One pull of LaTeX -/

namespace Latex

theorem spans_readFree (place : Cursor) : Spans entries place (readFree place) := by
  unfold readFree
  split
  · next numeral hnumeral => exact spans_readNumeral hnumeral
  · split
    · next c letters hword =>
      exact spans_read (hword ▸ wordAt_isPrefix place.remaining) (String.toList_ofList).symm
    · next rest _ hremaining =>
      split
      · next c letters hword =>
        have hbegins := hword ▸ wordAt_isPrefix rest
        have hcontrol : '\\' :: c :: letters <+: place.remaining := by
          rw [hremaining]
          exact List.cons_prefix_cons.2 ⟨rfl, hbegins⟩
        exact spans_read hcontrol (congrArg _ String.toList_ofList.symm)
      · exact spans_refuse _ _ _
    · exact spans_refuse _ _ _

/-- A delimiter at a place, and the place behind it. -/
theorem exists_delimiter (h : Answers table entries) {start : Cursor} {length : Nat} {opens : Bool}
    (hlexeme : lexemeAt? table start.remaining = some (length, .delimiter opens)) :
    ∃ delimiter, delimiter <+: start.remaining ∧ IsDelimiter entries opens delimiter ∧
      (start.advance length).skipWhiteSpace = start.advance delimiter.length := by
  obtain ⟨key, ⟨rest, hrest⟩, rfl, hvalue⟩ := exists_key_of_lexemeAt? h hlexeme
  have hspaces := List.all_eq_true.1 (List.all_takeWhile (l := rest) (p := Character.isWhiteSpace))
  refine ⟨key.toList ++ rest.takeWhile Character.isWhiteSpace, ?_, ⟨key, _, hvalue, hspaces, rfl⟩, ?_⟩
  · rw [← hrest, List.prefix_append_right_inj]
    exact List.takeWhile_prefix _
  · rw [Cursor.skipWhiteSpace, Cursor.advance_advance, Cursor.remaining_advance, ← hrest,
      List.drop_left, List.length_append]

theorem spans_readDelimited (h : Answers table entries) {start : Cursor} {length : Nat}
    {opens : Bool}
    (hlexeme : lexemeAt? table start.remaining = some (length, .delimiter opens)) :
    Spans entries start (readDelimited table start length opens) := by
  obtain ⟨delimiter, hbegins, hdelimiter, hplace⟩ := exists_delimiter h hlexeme
  have hrefuse (fault : Fault) :
      Spans entries start ((start.advance delimiter.length).refuse 0 fault) :=
    ⟨[], delimiter, hbegins, .nil, by rw [List.length_nil, Nat.zero_add]; rfl,
      .inr ⟨opens, hdelimiter⟩⟩
  simp only [readDelimited, hplace]
  split
  · next width bracket hbracket =>
    split
    · next hopens =>
      obtain ⟨key, hkey, rfl, hvalue⟩ := exists_key_of_lexemeAt? h hbracket
      obtain ⟨rest, hrest⟩ := hbegins
      rw [Cursor.remaining_advance, ← hrest, List.drop_left] at hkey
      refine ⟨[], delimiter ++ key.toList, ?_, .nil, ?_, ?_, rfl⟩
      · rw [List.nil_append, ← hrest, List.prefix_append_right_inj]
        exact hkey
      · rw [Cursor.advance_advance, List.length_nil, Nat.zero_add, List.length_append]
      · exact .inr ⟨bracket, delimiter, key, rfl, hopens ▸ hdelimiter, hvalue, rfl⟩
    · exact hrefuse _
  · exact hrefuse _

theorem spans_readToken (h : Answers table entries) (cursor : Cursor) :
    Spans entries cursor (readToken table cursor) := by
  fun_induction readToken table cursor with
  | case1 cursor hempty => exact Spans.skipWhiteSpace (spans_read List.nil_prefix rfl)
  | case2 cursor hempty length hlexeme ih =>
    obtain ⟨key, hkey, rfl, hvalue⟩ := exists_key_of_lexemeAt? h hlexeme
    exact (ih.skip (isBlank_key hvalue) hkey).skipWhiteSpace
  | case3 cursor hempty length opens hlexeme => exact (spans_readDelimited h hlexeme).skipWhiteSpace
  | case8 cursor hempty hlexeme => exact (spans_readFree _).skipWhiteSpace
  | _ cursor hempty =>
    rename_i hlexeme
    exact (spans_read_lexeme h hlexeme rfl).skipWhiteSpace

end Latex

/-! ## All pulls -/

theorem Latex.Scanner.table_after (scanner : Latex.Scanner M) (count : Nat) :
    (TokenSource.after scanner count).table = scanner.table := by
  induction count with
  | zero => rfl
  | succ count ih => exact ih

theorem Linear.Scanner.table_after (scanner : Linear.Scanner M) (count : Nat) :
    (TokenSource.after scanner count).table = scanner.table := by
  induction count with
  | zero => rfl
  | succ count ih => exact ih

/-- Whether the places of a source and the positions of its tokens are exact, at every pull and
whatever the pulls before gave. -/
structure PositionsExact {σ : Type} [TokenSource σ] (cursor : σ → Cursor)
    (entries : List (String × Lexeme)) (text : String) (source : σ) : Prop where
  text_eq (count : Nat) : (cursor (TokenSource.after source count)).text = text
  isExact (count : Nat) : (cursor (TokenSource.after source count)).IsExact
  /-- A token behind any number of failed pulls stands behind a gap with so many failures. -/
  stands (count failures : Nat) (token : Token)
    (hfailures : ∀ pull < failures, ∃ error,
      TokenSource.answer source (count + pull) = .error error)
    (htoken : TokenSource.answer source (count + failures) = .ok token) :
    ∃ gap, IsGap entries failures gap ∧
      Stands entries ((cursor (TokenSource.after source count)).consumed ++ gap) token
        (cursor (TokenSource.after source (count + failures + 1)))
  consumed_of_error (count : Nat) (error : SyntaxError)
    (herror : TokenSource.answer source count = .error error) :
    ∃ skipped stuck, IsBlank entries skipped ∧ IsStuck entries stuck ∧
      (cursor (TokenSource.after source (count + 1))).consumed =
        (cursor (TokenSource.after source count)).consumed ++ (skipped ++ stuck)

/-- A source is exact if each pull spans what it passes over. -/
theorem positionsExact_of_spans {σ : Type} [TokenSource σ] {cursor : σ → Cursor} {text : String}
    {source : σ} (hsource : cursor source = .ofText text)
    (hspans : ∀ count, Spans entries (cursor (TokenSource.after source count))
      (TokenSource.answer source count, cursor (TokenSource.after source (count + 1)))) :
    PositionsExact cursor entries text source := by
  have hexact (count : Nat) : (cursor (TokenSource.after source count)).IsExact := by
    induction count with
    | zero =>
      rw [TokenSource.after, hsource]
      exact Cursor.isExact_ofText text
    | succ count ih => exact (hspans count).isExact ih
  refine ⟨?_, hexact, ?_, ?_⟩
  · intro count
    induction count with
    | zero =>
      rw [TokenSource.after, hsource]
      rfl
    | succ count ih =>
      obtain ⟨skipped, taken, -, -, hstop, -⟩ := hspans count
      exact (congrArg Cursor.text hstop).trans ih
  · intro count failures token hfailures htoken
    induction failures generalizing count with
    | zero =>
      obtain ⟨skipped, hskipped, hstands⟩ := (hspans count).stands (hexact count) htoken
      exact ⟨skipped, .blank hskipped, hstands⟩
    | succ failures ih =>
      obtain ⟨error, herror⟩ := hfailures 0 (Nat.zero_lt_succ _)
      obtain ⟨skipped, stuck, hskipped, hstuck, hconsumed⟩ :=
        (hspans count).consumed_of_error (hexact count) herror
      have hcount (pull : Nat) : count + 1 + pull = count + (pull + 1) := by omega
      obtain ⟨gap, hgap, hstands⟩ := ih (count + 1)
        (fun pull hpull ↦ hcount pull ▸ hfailures (pull + 1) (by omega)) (hcount failures ▸ htoken)
      refine ⟨skipped ++ stuck ++ gap, .failure hskipped hstuck hgap, ?_⟩
      rw [hconsumed, hcount, List.append_assoc] at hstands
      exact hstands
  · intro count error herror
    exact (hspans count).consumed_of_error (hexact count) herror

/-- Both scanners are exact, with any table of any entries and in any text. -/
theorem positionsExact (h : Answers table entries) (text : String) :
    PositionsExact Latex.Scanner.cursor entries text (Latex.Scanner.withTable table text) ∧
      PositionsExact Linear.Scanner.cursor entries text (Linear.Scanner.withTable table text) := by
  constructor
  · have htable := Latex.Scanner.table_after (.withTable table text)
    exact positionsExact_of_spans rfl fun count ↦
      Latex.spans_readToken ((htable count).symm ▸ h) _
  · have htable := Linear.Scanner.table_after (.withTable table text)
    exact positionsExact_of_spans rfl fun count ↦
      Linear.spans_readToken ((htable count).symm ▸ h) _

/-- A delimiter without a bracket is refused, and the symbol on the next line stands behind what
the failure left and a spacing command. -/
theorem positionsExact_delimiter :
    let scanner := Latex.Scanner.withTable Latex.table "\\left\n\\,x"
    ∃ gap, IsGap Latex.lexemes 1 gap ∧
      Stands Latex.lexemes gap ⟨.symbol "x", 1, 2, 3⟩ (TokenSource.after scanner 2).cursor := by
  intro scanner
  have hrefused : (TokenSource.answer scanner 0).toOption = none := by decide +kernel
  have hsymbol : (TokenSource.answer scanner 1).toOption = some ⟨.symbol "x", 1, 2, 3⟩ := by
    decide +kernel
  have hfailures : ∀ pull < 1, ∃ error, TokenSource.answer scanner (0 + pull) = .error error := by
    intro pull hpull
    obtain rfl : pull = 0 := Nat.lt_one_iff.1 hpull
    cases hanswer : TokenSource.answer scanner 0 with
    | error error => exact ⟨error, rfl⟩
    | ok token =>
      rw [hanswer] at hrefused
      contradiction
  exact (positionsExact (answers_trie Latex.lexemes) "\\left\n\\,x").1.stands 0 1
    ⟨.symbol "x", 1, 2, 3⟩ hfailures (Grammar.eq_ok_of_toOption hsymbol)

end FormulaText
