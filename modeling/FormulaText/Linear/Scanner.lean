import FormulaText.Linear.Lexemes
import FormulaText.Scan.Lexical
import FormulaText.Token.Source

/-!
# Reading tokens of the linear notation

A run of letters is a symbol, or a call if an opening parenthesis follows at once. There are no
control words, spacing commands or delimiters.
-/

namespace FormulaText.Linear

structure Scanner (M : Type) where
  table : M
  cursor : Cursor

variable {M : Type} [PrefixMap M Lexeme]

/-- Reads a token that is no fixed text: a numeral, a symbol or a call. -/
def readFree (place : Cursor) : Except SyntaxError Token × Cursor :=
  match Scan.numeralAt? place.remaining with
  | some numeral => Scan.readNumeral place numeral
  | none =>
    match Scan.wordAt place.remaining with
    | [] => place.refuseUnknown
    | word@(_ :: _) =>
      let name := String.ofList word
      if (place.remaining.drop word.length).head? == some '(' then
        place.read (.call name) word.length
      else place.read (.symbol name) word.length

def readToken (table : M) (cursor : Cursor) : Except SyntaxError Token × Cursor :=
  let place := cursor.skipWhiteSpace
  if place.remaining.isEmpty then place.read .endOfInput 0
  else
    match Scan.lexemeAt? table place.remaining with
    | some (length, .operator op) => place.read (.operator op) length
    | some (length, .bracket bracket) => place.read (.bracket bracket) length
    | some (length, .underscore) => place.read .underscore length
    | some (length, .equal) => place.read .equal length
    | some (_, .space) | some (_, .delimiter _) => place.refuseUnknown
    | none => readFree place

/-! ## Every token takes some text -/

theorem progress_readFree (place : Cursor) : Scan.Progress place (readFree place) := by
  unfold readFree
  split
  · next numeral hnumeral => exact Scan.progress_readNumeral hnumeral
  · split
    · exact Scan.progress_refuseUnknown _
    · next word _ _ hword =>
      have hle := hword ▸ (Scan.wordAt_isPrefix place.remaining).length_le
      simp only
      split <;> exact Scan.progress_read (by simp) hle

theorem progress_readToken (table : M) (cursor : Cursor) :
    Scan.Progress cursor (readToken table cursor) := by
  refine (?_ : Scan.Progress cursor.skipWhiteSpace _).mono
    cursor.length_remaining_skipWhiteSpace_le
  simp only [readToken]
  split
  · exact Scan.progress_read_endOfInput _ _ _
  · split
    case h_7 => exact progress_readFree _
    case h_5 => exact Scan.progress_refuseUnknown _
    case h_6 => exact Scan.progress_refuseUnknown _
    all_goals
      next hlexeme =>
      exact Scan.progress_read (Scan.lexemeAt?_pos hlexeme) (Scan.lexemeAt?_le_length hlexeme)

namespace Scanner

def withTable (table : M) (text : String) : Scanner M := ⟨table, .ofText text⟩

def next (scanner : Scanner M) : Except SyntaxError Token × Scanner M :=
  let (answer, cursor) := readToken scanner.table scanner.cursor
  (answer, ⟨scanner.table, cursor⟩)

instance : FiniteTokenSource (Scanner M) where
  text scanner := scanner.cursor.text
  next := next
  bound scanner := scanner.cursor.remaining.length
  bound_lt {scanner rest token} h hkind := by
    obtain ⟨hanswer, rfl⟩ := Prod.mk.inj h
    exact progress_readToken scanner.table scanner.cursor token hanswer hkind

end Scanner

def scanner (text : String) : Scanner (Trie Lexeme) := .withTable table text

end FormulaText.Linear
