import FormulaText.Latex.Lexemes
import FormulaText.Scan.Lexical
import FormulaText.Token.Source

/-!
# Reading tokens of LaTeX

Between tokens, white space and spacing commands are passed over. A run of letters is one symbol,
a control word that the table does not hold is kept as it is, and `\left(` is the same token
as `(`. Every token before the end of the input takes some text, so a scanner is a finite source
of tokens.
-/

namespace FormulaText.Latex

/-- A place in a text, and the table of its fixed texts. -/
structure Scanner (M : Type) where
  table : M
  cursor : Cursor

variable {M : Type} [PrefixMap M Lexeme]

/-- Reads the bracket after a delimiter, as one token from the delimiter on. -/
def readDelimited (table : M) (start : Cursor) (length : Nat) (opens : Bool) :
    Except SyntaxError Token × Cursor :=
  let place := (start.advance length).skipWhiteSpace
  match Scan.lexemeAt? table place.remaining with
  | some (length, .bracket bracket) =>
    if bracket.opens = opens then
      let stop := place.advance length
      (.ok (start.tokenUpTo stop (.bracket bracket)), stop)
    else place.refuse 0 (.bareDelimiter opens)
  | _ => place.refuse 0 (.bareDelimiter opens)

/-- Reads a token that is no fixed text: a numeral, a symbol or a control word. -/
def readFree (place : Cursor) : Except SyntaxError Token × Cursor :=
  match Scan.numeralAt? place.remaining with
  | some numeral => Scan.readNumeral place numeral
  | none =>
    match Scan.wordAt place.remaining, place.remaining with
    | word@(_ :: _), _ => place.read (.symbol (String.ofList word)) word.length
    | [], '\\' :: rest =>
      match Scan.wordAt rest with
      | word@(_ :: _) => place.read (.control (String.ofList word)) (word.length + 1)
      | [] => place.refuseUnknown
    | [], _ => place.refuseUnknown

def readToken (table : M) (cursor : Cursor) : Except SyntaxError Token × Cursor :=
  if cursor.skipWhiteSpace.remaining.isEmpty then cursor.skipWhiteSpace.read .endOfInput 0
  else
    match _h : Scan.lexemeAt? table cursor.skipWhiteSpace.remaining with
    | some (length, .space) => readToken table (cursor.skipWhiteSpace.advance length)
    | some (length, .delimiter opens) => readDelimited table cursor.skipWhiteSpace length opens
    | some (length, .operator op) => cursor.skipWhiteSpace.read (.operator op) length
    | some (length, .bracket bracket) => cursor.skipWhiteSpace.read (.bracket bracket) length
    | some (length, .underscore) => cursor.skipWhiteSpace.read .underscore length
    | some (length, .equal) => cursor.skipWhiteSpace.read .equal length
    | none => readFree cursor.skipWhiteSpace
termination_by cursor.remaining.length
decreasing_by
  have hpos := Scan.lexemeAt?_pos _h
  have hle := Scan.lexemeAt?_le_length _h
  have hskip := cursor.length_remaining_skipWhiteSpace_le
  simp only [Cursor.remaining_advance, List.length_drop]
  omega

/-! ## Every token takes some text -/

theorem progress_readFree (place : Cursor) : Scan.Progress place (readFree place) := by
  unfold readFree
  split
  · next numeral hnumeral => exact Scan.progress_readNumeral hnumeral
  · split
    · next word _ hword =>
      exact Scan.progress_read (by simp) (hword ▸ (Scan.wordAt_isPrefix _).length_le)
    · next rest _ hremaining =>
      split
      · next word _ hword =>
        refine Scan.progress_read (by simp) ?_
        have := (Scan.wordAt_isPrefix rest).length_le
        rw [hword] at this
        simpa [hremaining] using this
      · exact Scan.progress_refuseUnknown _
    · exact Scan.progress_refuseUnknown _

theorem progress_readDelimited (table : M) {start : Cursor} {length : Nat} (opens : Bool)
    (hpos : 0 < length) (hle : length ≤ start.remaining.length) :
    Scan.Progress start (readDelimited table start length opens) := by
  have hskip := (start.advance length).length_remaining_skipWhiteSpace_le
  simp only [Cursor.remaining_advance, List.length_drop] at hskip
  simp only [readDelimited]
  split
  · split
    · intro token _ _
      simp only [Cursor.remaining_advance, List.length_drop]
      omega
    · exact Scan.progress_refuse _ _ _ _
  · exact Scan.progress_refuse _ _ _ _

theorem progress_readToken (table : M) (cursor : Cursor) :
    Scan.Progress cursor (readToken table cursor) := by
  fun_induction readToken table cursor with
  | case1 cursor h => exact Scan.progress_read_endOfInput _ _ _
  | case2 cursor hne length hlexeme ih =>
    refine ih.mono ?_
    have := cursor.length_remaining_skipWhiteSpace_le
    simp only [Cursor.remaining_advance, List.length_drop]
    omega
  | case3 cursor hne length opens hlexeme =>
    exact (progress_readDelimited table opens (Scan.lexemeAt?_pos hlexeme)
      (Scan.lexemeAt?_le_length hlexeme)).mono cursor.length_remaining_skipWhiteSpace_le
  | case8 cursor hne hlexeme =>
    exact (progress_readFree _).mono cursor.length_remaining_skipWhiteSpace_le
  | _ cursor =>
    rename_i hlexeme
    exact (Scan.progress_read (Scan.lexemeAt?_pos hlexeme)
      (Scan.lexemeAt?_le_length hlexeme)).mono cursor.length_remaining_skipWhiteSpace_le

namespace Scanner

def withTable (table : M) (text : String) : Scanner M := ⟨table, .ofText text⟩

def next (scanner : Scanner M) : Except SyntaxError Token × Scanner M :=
  let (answer, cursor) := readToken scanner.table scanner.cursor
  (answer, ⟨scanner.table, cursor⟩)

instance : FiniteTokenSource (Scanner M) where
  text scanner := scanner.cursor.text
  next := next
  bound scanner := scanner.cursor.remaining.length
  bound_lt {scanner rest token} h hkind := by
    obtain ⟨hanswer, rfl⟩ := Prod.mk.inj h
    exact progress_readToken scanner.table scanner.cursor token hanswer hkind

end Scanner

def scanner (text : String) : Scanner (Trie Lexeme) := .withTable table text

end FormulaText.Latex
