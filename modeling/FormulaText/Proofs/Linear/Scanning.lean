import FormulaText.Linear.Printer
import FormulaText.Linear.Scanner
import FormulaText.Proofs.Number.Spelling

/-!
# What a text in the linear notation is read as

Each lemma here takes one piece off the beginning of a text, in the spelling of the printer, and
says which token it is. A word before an opening parenthesis is a call, and any other is a symbol.
-/

namespace FormulaText.Linear

open Scan PrefixMap Grammar

variable {rest : List Char} {kinds : List Token.Kind} {kind : Token.Kind}

/-- Whether a text goes on with no word and no numeral, and makes no call of a word before it. -/
def endsName (rest : List Char) : Bool := endsPiece rest && rest.head? != some '('

theorem endsPiece_of_endsName (h : endsName rest = true) : endsPiece rest = true := by
  rw [endsName, Bool.and_eq_true] at h
  exact h.1

theorem gives_of_reads {text : String} (h : Reads (readToken table) text.toList kinds) :
    Gives (scanner text) kinds :=
  gives_of_yields (fun cursor ↦ (⟨table, cursor⟩ : Scanner (Trie Lexeme))) (fun _ ↦ rfl)
    (h (.ofText text) rfl)

theorem reads_nil : Reads (readToken table) [] [] := by
  intro cursor hcursor
  have hempty : cursor.skipWhiteSpace.remaining = [] := by
    rw [Cursor.remaining_skipWhiteSpace, hcursor]
    rfl
  have hread : readToken table cursor = cursor.skipWhiteSpace.read .endOfInput 0 := by
    rw [readToken, hempty]
    rfl
  exact ⟨_, congrArg Prod.fst hread, rfl⟩

/-! ## Marks -/

/-- A bracket, an operator or a mark, which all have one character. -/
theorem reads_char {c : Char} {lexeme : Lexeme} (hc : Character.isWhiteSpace c = false)
    (hkind : lexeme.kind? = some kind) (hcontrol : isControlWord [c] = false)
    (hlongest : longestOf lexemes ([c] ++ rest) = some ((utf8Bytes [c]).length, lexeme))
    (h : Reads (readToken table) rest kinds) :
    Reads (readToken table) (c :: rest) (kind :: kinds) := by
  have hlexeme := lexemeAt?_eq_some [c] hlongest (List.cons_ne_nil _ _)
    fun hword ↦ absurd hword (by simp [hcontrol])
  change Reads _ ([c] ++ rest) _
  refine reads_cons (Lexeme.kind?_ne_endOfInput hkind) (fun cursor hcursor ↦ ?_) h
  have hskip : cursor.skipWhiteSpace.remaining = [c] ++ rest :=
    remaining_skipWhiteSpace_of_cons hcursor hc
  refine ⟨cursor.skipWhiteSpace, hskip, ?_⟩
  rw [← hskip] at hlexeme
  rw [readToken, if_neg (by simp [hskip])]
  simp only [table, hlexeme]
  cases lexeme <;> first | contradiction | (cases hkind; rfl)

theorem readsAs_opening : ReadsAs (readToken table) "(" (.bracket (.opening '(')) :=
  fun _ _ h ↦ reads_char rfl rfl rfl rfl h

theorem isMark_closing : IsMark (readToken table) endsName ")" (.bracket (.closing ')')) :=
  ⟨fun _ _ h ↦ reads_char rfl rfl rfl rfl h, fun _ ↦ rfl⟩

theorem isMark_underscore : IsMark (readToken table) endsName "_" .underscore :=
  ⟨fun _ _ h ↦ reads_char rfl rfl rfl rfl h, fun _ ↦ rfl⟩

theorem isMark_equal : IsMark (readToken table) endsName "=" .equal :=
  ⟨fun _ _ h ↦ reads_char rfl rfl rfl rfl h, fun _ ↦ rfl⟩

theorem isMark_operator (op : Operator) :
    IsMark (readToken table) endsName (String.singleton op.symbol) (.operator op) := by
  refine ⟨fun rest kinds h ↦ ?_, fun _ ↦ by cases op <;> rfl⟩
  cases op <;> exact reads_char rfl rfl rfl rfl h

/-! ## Names and numbers -/

/-- A text that begins with none of the fixed texts is read as a numeral or a word. -/
theorem readToken_of_free {cursor : Cursor} {c : Char}
    (hskip : cursor.skipWhiteSpace.remaining = c :: rest)
    (h : lexemeAt? table (c :: rest) = none) :
    readToken table cursor = readFree cursor.skipWhiteSpace := by
  rw [← hskip] at h
  rw [readToken, if_neg (by simp [hskip])]
  simp only [h]

/-- No key of the table begins with a letter or a digit. -/
theorem lexemes_head? : ∀ entry ∈ lexemes,
    entry.1.toList.head?.any (fun c ↦ !Character.isAlphabetic c && !c.isDigit) = true := by
  decide

/-- A word where the letters end is a call before an opening parenthesis, and else a symbol. -/
theorem reads_word {name : String} (hname : isWord name.toList = true)
    (hrest : endsPiece rest = true) (h : Reads (readToken table) rest kinds) :
    Reads (readToken table) (name.toList ++ rest)
      ((if rest.head? == some '(' then .call name else .symbol name) :: kinds) := by
  have hword := wordAt_append hname (not_isAlphabetic_of_endsPiece hrest)
  obtain ⟨c, letters, hletters, hc⟩ := exists_cons_of_isWord hname
  have hofList : String.ofList (c :: letters) = name := by rw [← hletters, String.ofList_toList]
  rw [hletters] at hword ⊢
  refine reads_cons (by split <;> simp) (fun cursor hcursor ↦ ?_) h
  have hskip : cursor.skipWhiteSpace.remaining = c :: letters ++ rest :=
    remaining_skipWhiteSpace_of_cons hcursor (Character.isWhiteSpace_of_isAlphabetic hc)
  refine ⟨cursor.skipWhiteSpace, hskip, ?_⟩
  have hread := readToken_of_free hskip
    (lexemeAt?_of_head lexemes_head? (.inl hc) (letters ++ rest))
  rw [readFree, hskip, hword, List.cons_append, numeralAt?_of_isAlphabetic hc] at hread
  simp only [hofList, ← List.cons_append, List.drop_left] at hread
  rw [hread]
  split <;> rfl

theorem spells_symbol {name : String} (hname : isWord name.toList = true) :
    Spells (readToken table) endsName name [.symbol name] := by
  intro rest others hrest h
  have hread := reads_word hname (endsPiece_of_endsName hrest) h
  rw [endsName, Bool.and_eq_true, bne_iff_ne] at hrest
  rwa [if_neg (by simpa using hrest.2)] at hread

/-- A word with a text in parentheses behind it. -/
theorem spells_call {name text : String} (hname : isWord name.toList = true)
    (h : Spells (readToken table) endsName text kinds) :
    Spells (readToken table) endsName (name ++ "(" ++ text ++ ")")
      (.call name :: .bracket (.opening '(') :: kinds ++ [.bracket (.closing ')')]) := by
  intro rest others hrest hothers
  have hgroup := isMark_closing.around readsAs_opening h hrest hothers
  rw [String.toList_append, String.toList_append, List.append_assoc, List.append_assoc] at hgroup
  have hread := reads_word hname (by rfl) hgroup
  have htext : (name ++ "(" ++ text ++ ")").toList ++ rest =
      name.toList ++ ("(".toList ++ (text.toList ++ (")".toList ++ rest))) := by
    simp only [String.toList_append, List.append_assoc]
  rw [htext]
  exact hread

theorem spells_magnitude (magnitude : Magnitude) :
    Spells (readToken table) endsName (Binary64.finite false magnitude).positional
      [.number (.finite false magnitude)] := by
  refine Binary64.spells_magnitude magnitude (fun _ ↦ endsPiece_of_endsName)
    fun cursor c rest numeral hcursor hc hnumeral ↦ ?_
  have hskip := remaining_skipWhiteSpace_of_cons hcursor (Character.isWhiteSpace_of_isDigit hc)
  have hread := readToken_of_free hskip (lexemeAt?_of_head lexemes_head? (.inr hc) rest)
  rw [readFree, hskip, hnumeral] at hread
  exact hread

end FormulaText.Linear
