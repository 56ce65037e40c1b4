import FormulaText.Latex.Formula
import FormulaText.Linear.Formula
import FormulaText.Proofs.Grammar.Locality
import FormulaText.Proofs.Scan.Lines
import FormulaText.Proofs.Scan.Settling
import FormulaText.Proofs.Scan.Spelling

/-!
# Where the carets of errors stand

An error of a reading lies in its text, and its caret stands within the line or right behind it,
but for two cases. A backslash in front of a line feed is refused together with the line feed, as if
both were on one line. And a bracket on a later line than the delimiter in front of it is rejected
on the line of the delimiter, but in the column where the bracket ends.
-/

namespace FormulaText

open Grammar Scan PrefixMap

/-! ## Errors of the source and errors of the grammar -/

/-- An error of a reading is one that its source answers, or it points behind a token that the
source answers. -/
theorem Grammar.exists_answer_of_parse_eq_error {σ : Type} [FiniteTokenSource σ]
    {vocabulary : Vocabulary} {source : σ} {error : SyntaxError}
    (h : parse vocabulary source = .error error) :
    ∃ pull, TokenSource.answer source pull = .error error ∨
      ∃ token fault stop, TokenSource.answer source pull = .ok token ∧
        error = .inText (TokenSource.text (TokenSource.after source stop)) token.line
          token.endColumn fault := by
  have hreads := comesTo_read vocabulary source
  change ComesTo _ _ (parse vocabulary _) _ at hreads
  rw [h] at hreads
  obtain ⟨after, ⟨mid, hmid, -, hrefuses⟩, -⟩ := hreads.stuck
  refine ⟨(Event.tokens mid.history).length, ?_⟩
  have hupNext := hmid.upNext_eq
  cases hrefuses with
  | failure hahead hnext =>
    rw [State.upNext_of_ahead_none hahead, hnext] at hupNext
    exact .inl (congrArg Prod.fst hupNext).symm
  | @token found after fault hadvance =>
    obtain ⟨peeked, hpeek, -⟩ := Reader.exists_peek_of_advance hadvance
    have hfound := (Reader.accepts_peek hpeek).1
    rw [hupNext] at hfound
    refine .inr ⟨found, fault, (Event.answers after.history).length, hfound, ?_⟩
    rw [← (hmid.stoppedAt hadvance).1.source]

/-! ## Errors of the scanners -/

/-- How a pull fails at the place where it stops: it points behind some characters of the line, or
behind a backslash and the line feed after it. -/
inductive Scan.RefusesAt (stop : Cursor) : SyntaxError → Prop where
  | onLine {width : Nat} (fault : Fault)
      (h : width ≤ (stop.remaining.takeWhile (· ≠ '\n')).length) : RefusesAt stop
        (.inText stop.text stop.position.line (stop.position.column + width) fault)
  | lineFeed {rest : List Char} (h : stop.remaining = '\\' :: '\n' :: rest) : RefusesAt stop
      (.inText stop.text stop.position.line (stop.position.column + 2) (.unknownSymbol "\\\n"))

def Scan.FailsByRefusal (result : Except SyntaxError Token × Cursor) : Prop :=
  ∀ error, result.1 = .error error → RefusesAt result.2 error

namespace Scan

theorem failsByRefusal_read (place : Cursor) (kind : Token.Kind) (count : Nat) :
    FailsByRefusal (place.read kind count) := nofun

theorem failsByRefusal_refuse {place : Cursor} {width : Nat} (fault : Fault)
    (h : width ≤ (place.remaining.takeWhile (· ≠ '\n')).length) :
    FailsByRefusal (place.refuse width fault) := by
  rintro error ⟨⟩
  exact .onLine fault h

/-- An unknown symbol begins with no white space. -/
theorem failsByRefusal_refuseUnknown (cursor : Cursor) :
    FailsByRefusal cursor.skipWhiteSpace.refuseUnknown := by
  have hhead {c : Char} {rest : List Char} (h : cursor.skipWhiteSpace.remaining = c :: rest) :
      c ≠ '\n' := by
    rintro rfl
    rw [Cursor.remaining_skipWhiteSpace] at h
    have hspace := List.head?_dropWhile_not Character.isWhiteSpace cursor.remaining
    rw [h] at hspace
    contradiction
  generalize cursor.skipWhiteSpace = place at hhead
  unfold Cursor.refuseUnknown
  split
  · next c rest hremaining =>
    by_cases hc : c = '\n'
    · subst hc
      rintro error ⟨⟩
      exact .lineFeed hremaining
    · exact failsByRefusal_refuse _ (by simp [hremaining, hc])
  · refine failsByRefusal_refuse _ ?_
    cases hremaining : place.remaining with
    | nil => exact Nat.le_refl _
    | cons c rest => simp [hhead hremaining]

theorem ReadsFree.failsByRefusal {cursor : Cursor} {result : Except SyntaxError Token × Cursor}
    (h : ReadsFree cursor.skipWhiteSpace result) : FailsByRefusal result := by
  cases h with
  | token => exact failsByRefusal_read _ _ _
  | unknown => exact failsByRefusal_refuseUnknown cursor

end Scan

section Scanners

variable {M : Type} [PrefixMap M Lexeme]

theorem Linear.failsByRefusal_readToken (table : M) (cursor : Cursor) :
    FailsByRefusal (readToken table cursor) := by
  simp only [readToken]
  split
  · exact failsByRefusal_read _ _ _
  · split
    case h_7 => exact (readsFree_readFree _).failsByRefusal
    case h_5 => exact failsByRefusal_refuseUnknown cursor
    case h_6 => exact failsByRefusal_refuseUnknown cursor
    all_goals exact failsByRefusal_read _ _ _

theorem Latex.failsByRefusal_readToken (table : M) (cursor : Cursor) :
    FailsByRefusal (readToken table cursor) := by
  fun_induction readToken table cursor with
  | case2 cursor hempty length hlexeme ih => exact ih
  | case3 cursor hempty length opens hlexeme =>
    simp only [readDelimited]
    split
    · split
      · rintro error ⟨⟩
      · exact failsByRefusal_refuse _ (Nat.zero_le _)
    · exact failsByRefusal_refuse _ (Nat.zero_le _)
  | case8 cursor hempty hlexeme => exact (readsFree_readFree _).failsByRefusal
  | _ => exact failsByRefusal_read _ _ _

end Scanners

/-! ## Texts of tokens -/

section Texts

variable {entries : List (String × Lexeme)} {kind : Token.Kind} {text : List Char}

theorem lineFeed_not_mem_of_isWord {name : List Char} (h : isWord name = true) : '\n' ∉ name := by
  intro hmem
  rw [isWord, Bool.and_eq_true] at h
  have halphabetic := List.all_eq_true.1 h.2 '\n' hmem
  contradiction

theorem lineFeed_not_mem_of_isNumeral (h : Decimal.isNumeral text = true) : '\n' ∉ text := by
  intro hmem
  exact absurd (Decimal.isDigit_or_point_of_isNumeral h '\n' hmem) (by decide)

theorem lineFeed_not_mem_key (hkeys : ∀ entry ∈ entries, '\n' ∉ entry.1.toList) {key : String}
    {lexeme : Lexeme} (hkey : lastValue? entries key = some lexeme) : '\n' ∉ key.toList :=
  hkeys _ (exists_mem_of_lastValue? hkey)

/-- A fixed text has a line feed only in the delimiter in front of a bracket. -/
theorem exists_delimiter_of_isFixed (hkeys : ∀ entry ∈ entries, '\n' ∉ entry.1.toList)
    (h : IsFixed entries kind text) (hmem : '\n' ∈ text) :
    ∃ (bracket : Bracket) (delimiter : List Char) (key : String), text = delimiter ++ key.toList ∧
      IsDelimiter entries bracket.opens delimiter ∧ '\n' ∈ delimiter ∧
      lastValue? entries key = some (.bracket bracket) := by
  rcases h with ⟨key, lexeme, hkey, -, rfl⟩ | ⟨bracket, delimiter, key, -, hdelimiter, hkey, rfl⟩
  · exact absurd hmem (lineFeed_not_mem_key hkeys hkey)
  · have hfront := (List.mem_append.1 hmem).resolve_right (lineFeed_not_mem_key hkeys hkey)
    exact ⟨bracket, delimiter, key, rfl, hdelimiter, hfront, hkey⟩

/-- Only a bracket may have a line feed in its text, in the delimiter in front of it. -/
theorem exists_delimiter_of_lineFeed_mem (hkeys : ∀ entry ∈ entries, '\n' ∉ entry.1.toList)
    (hspelled : kind.IsSpelled) (h : IsTextOf entries kind text) (hmem : '\n' ∈ text) :
    ∃ (bracket : Bracket) (delimiter : List Char) (key : String), text = delimiter ++ key.toList ∧
      IsDelimiter entries bracket.opens delimiter ∧ '\n' ∈ delimiter ∧
      lastValue? entries key = some (.bracket bracket) := by
  cases kind with
  | number value =>
    obtain ⟨decimal, hdecimal, -⟩ := h
    exact absurd hmem (lineFeed_not_mem_of_isNumeral (isNumeral_of_ofNumeral? hdecimal))
  | symbol name | call name =>
    obtain rfl : text = name.toList := h
    exact absurd hmem (lineFeed_not_mem_of_isWord hspelled)
  | control name =>
    obtain rfl : text = '\\' :: name.toList := h
    have hname := (List.mem_cons.1 hmem).resolve_left (by decide)
    exact absurd hname (lineFeed_not_mem_of_isWord (Latex.isWord_of_isControlName hspelled))
  | endOfInput =>
    obtain rfl : text = [] := h
    exact absurd hmem List.not_mem_nil
  | operator | bracket | underscore | equal => exact exists_delimiter_of_isFixed hkeys h hmem

end Texts

/-! ## All errors -/

/-- A backslash is refused together with the line feed behind it, in a column behind both. -/
def SyntaxError.RefusesLineFeed (error : SyntaxError) (text : String) : Prop :=
  ∃ front rest, text.toList = front ++ '\\' :: '\n' :: rest ∧
    error = .inText text (Position.behind front).line ((Position.behind front).column + 2)
      (.unknownSymbol "\\\n")

/-- A bracket is rejected that stands on a later line than the delimiter in front of it. The error
has the line of the delimiter and the column behind the bracket, and that line is shorter. -/
def SyntaxError.StraddlesLines (error : SyntaxError) (entries : List (String × Lexeme))
    (text : String) : Prop :=
  ∃ (front delimiter rest : List Char) (key : String) (bracket : Bracket) (fault : Fault),
    text.toList = front ++ (delimiter ++ key.toList ++ rest) ∧
    IsDelimiter entries bracket.opens delimiter ∧ '\n' ∈ delimiter ∧
    lastValue? entries key = some (.bracket bracket) ∧
    error = .inText text (Position.behind front).line
      (Position.behind (front ++ (delimiter ++ key.toList))).column fault ∧
    (Text.lineAt (Position.behind front).line text.toList).length <
      (Position.behind (front ++ (delimiter ++ key.toList))).column

namespace SyntaxError

variable {text : String} {error : SyntaxError} {entries : List (String × Lexeme)}

theorem RefusesLineFeed.not_isWithinLine (h : error.RefusesLineFeed text) : ¬error.IsWithinLine := by
  obtain ⟨front, rest, htext, rfl⟩ := h
  rw [isWithinLine_inText_iff htext]
  exact Nat.not_succ_le_self 1

theorem StraddlesLines.not_isWithinLine (h : error.StraddlesLines entries text) :
    ¬error.IsWithinLine := by
  obtain ⟨front, delimiter, rest, key, bracket, fault, -, -, -, -, rfl, hlt⟩ := h
  simp only [IsWithinLine, inText, String.length_ofList]
  omega

structure Points (error : SyntaxError) (entries : List (String × Lexeme)) (text : String) :
    Prop where
  liesIn : error.LiesIn text
  isWithinLine_or : error.IsWithinLine ∨ error.RefusesLineFeed text ∨
    error.StraddlesLines entries text

/-- An error at the place where a pull stops. -/
theorem points_of_refusesAt {stop : Cursor} (hstop : stop.IsExact) (htext : stop.text = text)
    (h : RefusesAt stop error) : error.Points entries text := by
  have hsplit := hstop.text_eq
  cases h with
  | onLine fault hwidth =>
    rw [hstop.position_eq, htext]
    rw [htext] at hsplit
    exact ⟨liesIn_inText hsplit _ _, .inl ((isWithinLine_inText_iff hsplit _ _).2 hwidth)⟩
  | lineFeed hremaining =>
    rw [hstop.position_eq, htext]
    rw [htext, hremaining] at hsplit
    exact ⟨liesIn_inText hsplit _ _, .inr (.inl ⟨_, _, hsplit, rfl⟩)⟩

/-- An error behind a token. -/
theorem points_of_stands (hkeys : ∀ entry ∈ entries, '\n' ∉ entry.1.toList) {before : List Char}
    {token : Token} {stop : Cursor} (hstop : stop.IsExact) (htext : stop.text = text)
    (hspelled : token.kind.IsSpelled) (h : Stands entries before token stop) (fault : Fault) :
    (inText text token.line token.endColumn fault).Points entries text := by
  obtain ⟨⟨taken, hconsumed, htaken⟩, hstart, hend⟩ := h
  have hsplit := hstop.text_eq
  rw [htext, hconsumed, List.append_assoc] at hsplit
  have hline : token.line = (Position.behind before).line := congrArg Position.line hstart
  rw [hend, hstop.position_eq, hconsumed, hline]
  refine ⟨liesIn_inText hsplit _ _, ?_⟩
  by_cases hmem : '\n' ∈ taken
  · obtain ⟨bracket, delimiter, key, rfl, hdelimiter, hmem, hkey⟩ :=
      exists_delimiter_of_lineFeed_mem hkeys hspelled htaken hmem
    rcases Nat.lt_or_ge (Text.lineAt (Position.behind before).line text.toList).length
      (Position.behind (before ++ (delimiter ++ key.toList))).column with hlt | hle
    · exact .inr (.inr ⟨before, delimiter, stop.remaining, key, bracket, fault, hsplit, hdelimiter,
        hmem, hkey, rfl, hlt⟩)
    · refine .inl ?_
      simp only [IsWithinLine, inText, String.length_ofList]
      exact Nat.succ_le_succ hle
  · -- the token ends on its line, so the caret stands right behind it
    have hbehind := Position.behind_append hmem before
    rw [← List.append_assoc] at hsplit
    have hwithin := (isWithinLine_inText_iff hsplit 0 fault).2 (Nat.zero_le _)
    rw [hbehind] at hwithin ⊢
    exact .inl hwithin

end SyntaxError

/-- All errors of a reading, if the places of its source are exact. -/
theorem points_of_parse_eq_error {σ : Type} [FiniteTokenSource σ] {vocabulary : Vocabulary}
    {cursor : σ → Cursor} {entries : List (String × Lexeme)} {text : String} {source : σ}
    {error : SyntaxError} (hkeys : ∀ entry ∈ entries, '\n' ∉ entry.1.toList)
    (hexact : PositionsExact cursor entries text source)
    (htext : ∀ pulls, TokenSource.text (TokenSource.after source pulls) = text)
    (hfails : ∀ pull, FailsByRefusal (TokenSource.answer source pull,
      cursor (TokenSource.after source (pull + 1))))
    (hspelled : ∀ pull token, TokenSource.answer source pull = .ok token → token.kind.IsSpelled)
    (h : parse vocabulary source = .error error) : error.Points entries text := by
  obtain ⟨pull, herror | ⟨token, fault, stop, htoken, rfl⟩⟩ := exists_answer_of_parse_eq_error h
  · exact SyntaxError.points_of_refusesAt (hexact.isExact (pull + 1)) (hexact.text_eq (pull + 1))
      (hfails pull error herror)
  · obtain ⟨gap, -, hstands⟩ := hexact.stands pull 0 token nofun htoken
    rw [htext]
    exact SyntaxError.points_of_stands hkeys (hexact.isExact (pull + 1)) (hexact.text_eq (pull + 1))
      (hspelled pull token htoken) hstands fault

theorem Latex.points_of_parse_eq_error {text : String} {error : SyntaxError}
    (h : parse text = .error error) : error.Points lexemes text := by
  have hexact := (positionsExact (answers_trie lexemes) text).1
  refine FormulaText.points_of_parse_eq_error (by decide) hexact hexact.text_eq (fun pull ↦ ?_)
    (fun pull token htoken ↦ ?_) h
  · exact failsByRefusal_readToken _ _
  · have hread : (readToken (TokenSource.after (scanner text) pull).table
        (TokenSource.after (scanner text) pull).cursor).1 = .ok token := htoken
    rw [Scanner.table_after] at hread
    exact isSpelled_readToken hread

theorem Linear.points_of_parse_eq_error {text : String} {error : SyntaxError}
    (h : parse text = .error error) : error.Points lexemes text := by
  have hexact := (positionsExact (answers_trie lexemes) text).2
  exact FormulaText.points_of_parse_eq_error (by decide) hexact hexact.text_eq
    (fun pull ↦ failsByRefusal_readToken _ _) (fun pull token htoken ↦ isSpelled_readToken htoken) h

/-- The linear notation has no delimiters. -/
theorem SyntaxError.not_straddlesLines_linear (error : SyntaxError) (text : String) :
    ¬error.StraddlesLines Linear.lexemes text := by
  rintro ⟨front, delimiter, rest, key, bracket, fault, -, ⟨command, spaces, hcommand, -⟩, -⟩
  have hnone : ∀ entry ∈ Linear.lexemes, ∀ opens, entry.2 ≠ .delimiter opens := by decide
  exact hnone _ (exists_mem_of_lastValue? hcommand) _ rfl

/-- An error of either notation lies in its text. Its caret stands within the line or right behind
it, unless the error refuses a backslash with a line feed, or in LaTeX is at a bracket on a later
line than its delimiter, behind more characters than that line has. -/
theorem error_isWithinLine_iff (text : String) (error : SyntaxError) :
    (Latex.parse text = .error error → error.LiesIn text ∧
      (error.IsWithinLine ↔
        ¬error.RefusesLineFeed text ∧ ¬error.StraddlesLines Latex.lexemes text)) ∧
    (Linear.parse text = .error error → error.LiesIn text ∧
      (error.IsWithinLine ↔ ¬error.RefusesLineFeed text)) := by
  constructor
  · intro h
    obtain ⟨hlies, hpoints⟩ := Latex.points_of_parse_eq_error h
    refine ⟨hlies, fun hwithin ↦ ⟨?_, ?_⟩, fun ⟨hrefuses, hstraddles⟩ ↦ ?_⟩
    · exact fun hrefuses ↦ hrefuses.not_isWithinLine hwithin
    · exact fun hstraddles ↦ hstraddles.not_isWithinLine hwithin
    · exact hpoints.resolve_right (not_or.2 ⟨hrefuses, hstraddles⟩)
  · intro h
    obtain ⟨hlies, hpoints⟩ := Linear.points_of_parse_eq_error h
    refine ⟨hlies, fun hwithin hrefuses ↦ hrefuses.not_isWithinLine hwithin, fun hrefuses ↦ ?_⟩
    exact hpoints.resolve_right (not_or.2 ⟨hrefuses, error.not_straddlesLines_linear text⟩)

/-- A bracket too many on the second line is shown there, and the error of a backslash in front of a
line feed does not stand within its line. -/
theorem error_isWithinLine_iff_bracket :
    (∃ error, Latex.parse "a\n+b)" = .error error ∧ error.LiesIn "a\n+b)" ∧ error.IsWithinLine) ∧
      ∃ error, Linear.parse "\\\n" = .error error ∧ error.RefusesLineFeed "\\\n" := by
  have hbracket : Latex.parse "a\n+b)" =
      .error ⟨2, 4, "+b)", .trailingToken (.bracket (.closing ')'))⟩ :=
    eq_error_of_match (by decide +kernel)
  have hsymbol : Linear.parse "\\\n" = .error ⟨1, 3, "\\", .unknownSymbol "\\\n"⟩ :=
    eq_error_of_match (by decide +kernel)
  refine ⟨⟨_, hbracket, ((error_isWithinLine_iff _ _).1 hbracket).1, by decide⟩, _, hsymbol, ?_⟩
  have hiff := ((error_isWithinLine_iff _ _).2 hsymbol).2
  exact not_not.1 (mt hiff.2 (by decide))

/-- Both cases in which the caret stands behind the end of the line happen. -/
theorem error_not_isWithinLine :
    (∃ error, Latex.parse "\\\n" = .error error ∧ ¬error.IsWithinLine) ∧
    (∃ error, Linear.parse "\\\n" = .error error ∧ ¬error.IsWithinLine) ∧
    ∃ error, Latex.parse "\\right\n          )" = .error error ∧ ¬error.IsWithinLine := by
  have hlatex : Latex.parse "\\\n" = .error ⟨1, 3, "\\", .unknownSymbol "\\\n"⟩ :=
    eq_error_of_match (by decide +kernel)
  have hlinear : Linear.parse "\\\n" = .error ⟨1, 3, "\\", .unknownSymbol "\\\n"⟩ :=
    eq_error_of_match (by decide +kernel)
  have hbracket : Latex.parse "\\right\n          )" =
      .error ⟨1, 12, "\\right", .missingGroup (.bracket (.closing ')'))⟩ :=
    eq_error_of_match (by decide +kernel)
  exact ⟨⟨_, hlatex, by decide⟩, ⟨_, hlinear, by decide⟩, _, hbracket, by decide⟩

end FormulaText
