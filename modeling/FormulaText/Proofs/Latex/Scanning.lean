import FormulaText.Latex.Printer
import FormulaText.Proofs.Latex.Words
import FormulaText.Proofs.Number.Spelling

/-!
# What a LaTeX text is read as

Each lemma here takes one piece off the beginning of a text, in the spelling of the printer, and
says which token it is.
-/

namespace FormulaText.Latex

open Scan PrefixMap Grammar

variable {text rest : List Char} {kinds : List Token.Kind} {kind : Token.Kind}

theorem gives_of_reads {text : String} (h : Reads (readToken table) text.toList kinds) :
    Gives (scanner text) kinds :=
  gives_of_yields (fun cursor ↦ (⟨table, cursor⟩ : Scanner (Trie Lexeme))) (fun _ ↦ rfl)
    (h (.ofText text) rfl)

theorem reads_nil : Reads (readToken table) [] [] := by
  intro cursor hcursor
  have hempty : cursor.skipWhiteSpace.remaining = [] := by
    rw [Cursor.remaining_skipWhiteSpace, hcursor]
    rfl
  have hread : readToken table cursor = cursor.skipWhiteSpace.read .endOfInput 0 := by
    rw [readToken, hempty]
    rfl
  exact ⟨_, congrArg Prod.fst hread, rfl⟩

/-- Reading begins behind the white space. -/
theorem readToken_congr {cursor other : Cursor} (h : cursor.skipWhiteSpace = other.skipWhiteSpace) :
    readToken table cursor = readToken table other := by
  rw [readToken.eq_def table cursor, readToken.eq_def table other, h]

theorem reads_space {c : Char} (hc : Character.isWhiteSpace c = true)
    (h : Reads (readToken table) rest kinds) : Reads (readToken table) (c :: rest) kinds := by
  intro cursor hcursor
  have hskip : (cursor.advance 1).skipWhiteSpace = cursor.skipWhiteSpace := by
    obtain ⟨source, remaining, position⟩ := cursor
    cases hcursor
    simp [Cursor.skipWhiteSpace, Cursor.advance, hc]
  have hadvance := h (cursor.advance 1) (by rw [Cursor.remaining_advance, hcursor]; rfl)
  cases kinds <;>
  · rw [Yields, readToken_congr hskip] at hadvance
    exact hadvance

/-- What is read at a place where a lexeme begins. -/
def readLexeme (place : Cursor) (length : Nat) : Lexeme → Except SyntaxError Token × Cursor
  | .operator op => place.read (.operator op) length
  | .bracket bracket => place.read (.bracket bracket) length
  | .underscore => place.read .underscore length
  | .equal => place.read .equal length
  | .space => readToken table (place.advance length)
  | .delimiter opens => readDelimited table place length opens

/-- The lexeme at a place decides what is read there. -/
theorem readToken_of_lexemeAt? {cursor : Cursor} {c : Char} {length : Nat} {lexeme : Lexeme}
    (hskip : cursor.skipWhiteSpace.remaining = c :: rest)
    (h : lexemeAt? table (c :: rest) = some (length, lexeme)) :
    readToken table cursor = readLexeme cursor.skipWhiteSpace length lexeme := by
  rw [← hskip] at h
  rw [readToken, if_neg (by simp [hskip])]
  split
  case h_7 heq =>
    rw [h] at heq
    contradiction
  all_goals
    next heq =>
    rw [h, Option.some.injEq, Prod.mk.injEq] at heq
    obtain ⟨rfl, rfl⟩ := heq
    rfl

/-- A fixed text that is a token. -/
theorem reads_lexeme {c : Char} {key : List Char} {lexeme : Lexeme}
    (hc : Character.isWhiteSpace c = false) (hkind : lexeme.kind? = some kind)
    (hlexeme : lexemeAt? table (c :: key ++ rest) = some ((c :: key).length, lexeme))
    (h : Reads (readToken table) rest kinds) :
    Reads (readToken table) (c :: key ++ rest) (kind :: kinds) := by
  refine reads_cons (Lexeme.kind?_ne_endOfInput hkind) (fun cursor hcursor ↦ ?_) h
  have hskip : cursor.skipWhiteSpace.remaining = c :: key ++ rest :=
    remaining_skipWhiteSpace_of_cons hcursor hc
  refine ⟨cursor.skipWhiteSpace, hskip, ?_⟩
  rw [readToken_of_lexemeAt? hskip hlexeme]
  cases lexeme <;> first | contradiction | (cases hkind; rfl)

/-- A bracket with its delimiter before it. -/
theorem reads_delimited {c mark : Char} {delimiter : List Char} {opens : Bool}
    (hc : Character.isWhiteSpace c = false) (hmark : Character.isWhiteSpace mark = false)
    (hdelimiter : lexemeAt? table (c :: delimiter ++ mark :: rest) =
      some ((c :: delimiter).length, .delimiter opens))
    (hlexeme : lexemeAt? table (mark :: rest) = some (1, .bracket ⟨mark, opens⟩))
    (h : Reads (readToken table) rest kinds) :
    Reads (readToken table) (c :: delimiter ++ mark :: rest)
      (.bracket ⟨mark, opens⟩ :: kinds) := by
  intro cursor hcursor
  have hskip : cursor.skipWhiteSpace.remaining = c :: delimiter ++ mark :: rest :=
    remaining_skipWhiteSpace_of_cons hcursor hc
  have hplace : ((cursor.skipWhiteSpace.advance (c :: delimiter).length).skipWhiteSpace).remaining =
      mark :: rest := by
    refine remaining_skipWhiteSpace_of_cons ?_ hmark
    rw [Cursor.remaining_advance, hskip]
    exact List.drop_left
  have hread := readToken_of_lexemeAt? hskip hdelimiter
  simp only [readLexeme, readDelimited, hplace, hlexeme, if_true] at hread
  have hafter : (readToken table cursor).2.remaining = rest := by
    rw [hread, Cursor.remaining_advance, hplace]
    rfl
  exact ⟨_, congrArg Prod.fst hread, rfl, by simp, h _ hafter⟩

/-! ## Marks -/

/-- A bracket, an operator or a mark of one character. -/
theorem reads_char {c : Char} {lexeme : Lexeme} (hc : Character.isWhiteSpace c = false)
    (hkind : lexeme.kind? = some kind) (hcontrol : isControlWord [c] = false)
    (hlongest : longestOf lexemes ([c] ++ rest) = some ((utf8Bytes [c]).length, lexeme))
    (h : Reads (readToken table) rest kinds) :
    Reads (readToken table) (c :: rest) (kind :: kinds) := by
  have hlexeme := lexemeAt?_eq_some [c] hlongest (List.cons_ne_nil _ _)
    fun hword ↦ absurd hword (by simp [hcontrol])
  exact reads_lexeme hc hkind hlexeme h

theorem readsAs_opening : ReadsAs (readToken table) "\x7b" (.bracket (.opening '{')) :=
  fun _ _ h ↦ reads_char rfl rfl rfl rfl h

theorem isMark_closing : IsMark (readToken table) endsPiece "\x7d" (.bracket (.closing '}')) :=
  ⟨fun _ _ h ↦ reads_char rfl rfl rfl rfl h, fun _ ↦ rfl⟩

theorem isMark_underscore : IsMark (readToken table) endsPiece "_" .underscore :=
  ⟨fun _ _ h ↦ reads_char rfl rfl rfl rfl h, fun _ ↦ rfl⟩

theorem isMark_equal : IsMark (readToken table) endsPiece "=" .equal :=
  ⟨fun _ _ h ↦ reads_char rfl rfl rfl rfl h, fun _ ↦ rfl⟩

theorem readsAs_left : ReadsAs (readToken table) "\\left(" (.bracket (.opening '(')) := by
  intro rest kinds h
  exact reads_delimited rfl rfl
    (lexemeAt?_eq_some ['\\', 'l', 'e', 'f', 't'] rfl (List.cons_ne_nil _ _) fun _ ↦ rfl)
    (lexemeAt?_eq_some ['('] rfl (List.cons_ne_nil _ _) nofun) h

theorem isMark_right : IsMark (readToken table) endsPiece "\\right)" (.bracket (.closing ')')) := by
  refine ⟨fun rest kinds h ↦ ?_, fun _ ↦ rfl⟩
  exact reads_delimited rfl rfl
    (lexemeAt?_eq_some ['\\', 'r', 'i', 'g', 'h', 't'] rfl (List.cons_ne_nil _ _) fun _ ↦ rfl)
    (lexemeAt?_eq_some [')'] rfl (List.cons_ne_nil _ _) nofun) h

theorem isMark_infixText (op : Operator) :
    IsMark (readToken table) endsPiece (infixText op) (.operator op) := by
  refine ⟨fun rest kinds h ↦ ?_, fun _ ↦ by cases op <;> rfl⟩
  cases op with
  | multiply =>
    change Reads _ ('\\' :: ['c', 'd', 'o', 't'] ++ ' ' :: rest) _
    exact reads_lexeme rfl rfl
      (lexemeAt?_eq_some ['\\', 'c', 'd', 'o', 't'] rfl (List.cons_ne_nil _ _) fun _ ↦ rfl)
      (reads_space rfl h)
  | modulus =>
    change Reads _ ('\\' :: ['b', 'm', 'o', 'd'] ++ ' ' :: rest) _
    exact reads_lexeme rfl rfl
      (lexemeAt?_eq_some ['\\', 'b', 'm', 'o', 'd'] rfl (List.cons_ne_nil _ _) fun _ ↦ rfl)
      (reads_space rfl h)
  | plus | minus | divide | exponent => exact reads_char rfl rfl rfl rfl h

/-! ## Names and numbers -/

/-- A text that begins with none of the fixed texts is read as a numeral, a word or a control
word. -/
theorem readToken_of_free {cursor : Cursor} {c : Char}
    (hskip : cursor.skipWhiteSpace.remaining = c :: rest)
    (h : lexemeAt? table (c :: rest) = none) :
    readToken table cursor = readFree cursor.skipWhiteSpace := by
  rw [← hskip] at h
  rw [readToken, if_neg (by simp [hskip])]
  split
  case h_7 => rfl
  all_goals
    next heq =>
    rw [h] at heq
    contradiction

/-- No key of the table begins with a letter or a digit. -/
theorem lexemes_head? : ∀ entry ∈ lexemes,
    entry.1.toList.head?.any (fun c ↦ !Character.isAlphabetic c && !c.isDigit) = true := by
  decide

/-- A token that is no fixed text. -/
theorem reads_free {c : Char} {piece : List Char} (hc : Character.isWhiteSpace c = false)
    (hlexeme : lexemeAt? table (c :: piece ++ rest) = none) (hkind : kind ≠ .endOfInput)
    (hread : ∀ place : Cursor, place.remaining = c :: piece ++ rest →
      readFree place = place.read kind (c :: piece).length)
    (h : Reads (readToken table) rest kinds) :
    Reads (readToken table) (c :: piece ++ rest) (kind :: kinds) := by
  refine reads_cons hkind (fun cursor hcursor ↦ ?_) h
  have hskip : cursor.skipWhiteSpace.remaining = c :: piece ++ rest :=
    remaining_skipWhiteSpace_of_cons hcursor hc
  exact ⟨cursor.skipWhiteSpace, hskip, (readToken_of_free hskip hlexeme).trans (hread _ hskip)⟩

/-- A word is a symbol where the letters end. -/
theorem reads_symbol {word : List Char} (hisWord : isWord word = true)
    (hend : rest.head?.all (fun c ↦ !Character.isAlphabetic c) = true)
    (h : Reads (readToken table) rest kinds) :
    Reads (readToken table) (word ++ rest) (.symbol (String.ofList word) :: kinds) := by
  have hword := wordAt_append hisWord hend
  obtain ⟨c, letters, rfl, hc⟩ := exists_cons_of_isWord hisWord
  refine reads_free (Character.isWhiteSpace_of_isAlphabetic hc)
    (lexemeAt?_of_head lexemes_head? (.inl hc) (letters ++ rest)) nofun (fun place hplace ↦ ?_) h
  rw [readFree, hplace, hword, List.cons_append, numeralAt?_of_isAlphabetic hc]

theorem spells_symbol {name : String} (hname : isWord name.toList = true) :
    Spells (readToken table) endsPiece name [.symbol name] := by
  intro rest others hrest h
  have hread := reads_symbol hname (not_isAlphabetic_of_endsPiece hrest) h
  rwa [String.ofList_toList] at hread

/-- A control word that the table does not hold, where the letters end. -/
theorem reads_control {name : List Char} (hname : isControlName name = true)
    (hend : rest.head?.all (fun c ↦ !Character.isAlphabetic c) = true)
    (h : Reads (readToken table) rest kinds) :
    Reads (readToken table) ('\\' :: name ++ rest) (.control (String.ofList name) :: kinds) := by
  have hisWord := isWord_of_isControlName hname
  have hword := wordAt_append hisWord hend
  have hlexeme : lexemeAt? table ('\\' :: name ++ rest) = none := by
    rw [List.cons_append, lexemeAt?_control hisWord hend]
    rw [isControlName, Bool.and_eq_true, Option.isNone_iff_eq_none] at hname
    exact hname.2
  obtain ⟨c, letters, rfl, hc⟩ := exists_cons_of_isWord hisWord
  refine reads_free rfl hlexeme Token.Kind.noConfusion (fun place hplace ↦ ?_) h
  have hnumeral : numeralAt? ('\\' :: (c :: letters) ++ rest) = none := rfl
  have hnone : wordAt ('\\' :: (c :: letters) ++ rest) = [] := rfl
  rw [readFree, hplace, hnumeral, hnone]
  simp only [List.cons_append] at hword ⊢
  rw [hword]
  rfl

theorem spells_control {name : String} (hname : isControlName name.toList = true) :
    Spells (readToken table) endsPiece ("\\" ++ name) [.control name] := by
  intro rest others hrest h
  have hread := reads_control hname (not_isAlphabetic_of_endsPiece hrest) h
  rw [String.toList_append]
  rwa [String.ofList_toList] at hread

theorem spells_magnitude (magnitude : Magnitude) :
    Spells (readToken table) endsPiece (Binary64.finite false magnitude).positional
      [.number (.finite false magnitude)] := by
  refine Binary64.spells_magnitude magnitude (fun _ hrest ↦ hrest)
    fun cursor c rest numeral hcursor hc hnumeral ↦ ?_
  have hskip := remaining_skipWhiteSpace_of_cons hcursor (Character.isWhiteSpace_of_isDigit hc)
  have hread := readToken_of_free hskip (lexemeAt?_of_head lexemes_head? (.inr hc) rest)
  rw [readFree, hskip, hnumeral] at hread
  exact hread

end FormulaText.Latex
