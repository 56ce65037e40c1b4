import FormulaText.Proofs.Latex.Neighbours

/-!
# Where a control word ends

The table is asked for the ASCII letters behind a backslash, while a control word that it does not
hold goes on as long as there are letters of any alphabet. So a control word is read whole unless
the ASCII letters at its beginning are a control word of the table and other letters follow them:
`\mod` in front of a Greek letter is read as the operator, and the Greek letter as a symbol.
-/

namespace FormulaText.Latex

open Scan PrefixMap Grammar

variable {text : List Char} {lexeme : Lexeme}

theorem isControlWord_of_isAlpha {letters : List Char} (hne : letters ≠ [])
    (h : ∀ c ∈ letters, c.isAlpha = true) : isControlWord ('\\' :: letters) = true := by
  have hlast : ('\\' :: letters).getLast? = some (letters.getLast hne) := by
    rw [List.getLast?_cons, List.getLast?_eq_some_getLast hne, Option.getD_some]
  rw [isControlWord, hlast, Option.any_some, h _ (List.getLast_mem hne)]
  rfl

/-- Where a text begins with a letter, the table is asked for the ASCII letters there, all of
them. -/
theorem key_of_backslash {key : String} {rest : List Char} (htext : wordAt text ≠ [])
    (hbegins : '\\' :: text = key.toList ++ rest) (hkey : lastValue? lexemes key = some lexeme)
    (hend : EndsKey key rest) : key = String.ofList ('\\' :: text.takeWhile Char.isAlpha) := by
  obtain ⟨hwhole, hne⟩ := keyIsWhole_lexemes _ (exists_mem_of_lastValue? hkey)
  have hhead : text.head?.all Character.isAlphabetic = true := by
    cases text with
    | nil => rfl
    | cons c text =>
      by_contra hc
      simp_all [wordAt]
  cases hletters : key.toList with
  | nil => simp [hletters] at hne
  | cons first letters =>
    rw [hletters, List.cons_append, List.cons.injEq] at hbegins
    obtain ⟨rfl, rfl⟩ := hbegins
    rw [hletters] at hwhole hne
    have hnonempty : letters ≠ [] := by simpa using hne
    have hlower :=
      keyIsWhole_cases hwhole hnonempty (List.prefix_append letters rest) hhead
    have halpha : ∀ c ∈ letters, c.isAlpha = true :=
      fun c hc ↦ Text.isAlpha_of_isLower (List.all_eq_true.1 hlower c hc)
    have hbehind := hend (hletters ▸ isControlWord_of_isAlpha hnonempty halpha)
    -- the key is a control word, so its letters end where it ends
    have hrest : rest.takeWhile Char.isAlpha = [] := by
      cases rest with
      | nil => rfl
      | cons c rest => simp_all
    rw [List.takeWhile_append_of_pos halpha, hrest, List.append_nil, ← hletters,
      String.ofList_toList]

/-- At a backslash with a letter behind it, the lexeme is that of the ASCII letters there. -/
theorem lexemeAt?_backslash (htext : wordAt text ≠ []) :
    lexemeAt? table ('\\' :: text) =
      (lastValue? lexemes (String.ofList ('\\' :: text.takeWhile Char.isAlpha))).map
        fun lexeme ↦ ((text.takeWhile Char.isAlpha).length + 1, lexeme) := by
  ext ⟨length, lexeme⟩
  rw [lexemeAt?_eq_some_iff, Option.map_eq_some_iff]
  constructor
  · rintro ⟨key, rest, hbegins, hlength, hkey, hend⟩
    have heq := key_of_backslash htext hbegins hkey hend
    refine ⟨lexeme, heq ▸ hkey, ?_⟩
    rw [← hlength, heq, String.toList_ofList, List.length_cons]
  · rintro ⟨found, hkey, hfound⟩
    obtain ⟨rfl, rfl⟩ := Prod.mk.inj hfound
    refine ⟨_, text.dropWhile Char.isAlpha, ?_, ?_, hkey, fun _ ↦ ?_⟩
    · rw [String.toList_ofList, List.cons_append, List.takeWhile_append_dropWhile]
    · rw [String.toList_ofList, List.length_cons]
    · have hhead := List.head?_dropWhile_not Char.isAlpha text
      cases hrest : text.dropWhile Char.isAlpha with
      | nil => rfl
      | cons c rest => simpa [hrest] using hhead

/-- A control word without a lexeme is read with all its letters. -/
theorem readFree_backslash {place : Cursor} (hplace : place.remaining = '\\' :: text)
    (htext : wordAt text ≠ []) :
    readFree place =
      place.read (.control (String.ofList (wordAt text))) ((wordAt text).length + 1) := by
  have hnumeral : numeralAt? ('\\' :: text) = none := rfl
  have hnone : wordAt ('\\' :: text) = [] := rfl
  rw [readFree, hplace, hnumeral, hnone]
  cases hword : wordAt text with
  | nil => exact absurd hword htext
  | cons c letters => simp only [hword]

/-- What is read at a backslash with a letter behind it: the lexeme of the ASCII letters there, or
else the control word of all letters. -/
theorem readToken_backslash {cursor : Cursor}
    (hbackslash : cursor.skipWhiteSpace.remaining = '\\' :: text) (htext : wordAt text ≠ []) :
    readToken table cursor =
      match lastValue? lexemes (String.ofList ('\\' :: text.takeWhile Char.isAlpha)) with
      | some lexeme =>
        readLexeme cursor.skipWhiteSpace ((text.takeWhile Char.isAlpha).length + 1) lexeme
      | none =>
        cursor.skipWhiteSpace.read (.control (String.ofList (wordAt text)))
          ((wordAt text).length + 1) := by
  have hlexeme := lexemeAt?_backslash htext
  cases hvalue : lastValue? lexemes (String.ofList ('\\' :: text.takeWhile Char.isAlpha)) with
  | none =>
    rw [hvalue, Option.map_none] at hlexeme
    exact (readToken_of_free hbackslash hlexeme).trans (readFree_backslash hbackslash htext)
  | some lexeme =>
    rw [hvalue, Option.map_some] at hlexeme
    exact readToken_of_lexemeAt? hbackslash hlexeme

/-- The ASCII letters at the beginning of a text begin the word there. -/
theorem takeWhile_isPrefix_wordAt (text : List Char) :
    text.takeWhile Char.isAlpha <+: wordAt text := by
  have hsame : (wordAt text).takeWhile Char.isAlpha = text.takeWhile Char.isAlpha := by
    rw [wordAt, List.takeWhile_takeWhile]
    congr 1
    funext c
    by_cases hc : c.isAlpha = true
    · simp [hc, Character.isAlphabetic_of_isAlpha hc]
    · simp [hc]
  rw [← hsame]
  exact List.takeWhile_prefix _

/-- Whether the control word at a place is read whole: as a lexeme only if its key is the whole
word with the backslash, and otherwise as this control word. -/
def ReadsWhole (cursor : Cursor) (word : List Char) : Prop :=
  match lexemeAt? table cursor.skipWhiteSpace.remaining with
  | some (length, lexeme) =>
    length = word.length + 1 ∧ lastValue? lexemes (String.ofList ('\\' :: word)) = some lexeme
  | none =>
    readToken table cursor =
      cursor.skipWhiteSpace.read (.control (String.ofList word)) (word.length + 1)

theorem readsWhole_iff {cursor : Cursor}
    (hbackslash : cursor.skipWhiteSpace.remaining = '\\' :: text) (htext : wordAt text ≠ []) :
    ReadsWhole cursor (wordAt text) ↔ text.takeWhile Char.isAlpha = wordAt text ∨
      lastValue? lexemes (String.ofList ('\\' :: text.takeWhile Char.isAlpha)) = none := by
  have hread := readToken_backslash hbackslash htext
  rw [ReadsWhole, hbackslash, lexemeAt?_backslash htext]
  cases hvalue : lastValue? lexemes (String.ofList ('\\' :: text.takeWhile Char.isAlpha)) with
  | none =>
    rw [hvalue] at hread
    exact iff_of_true hread (.inr rfl)
  | some lexeme =>
    rw [Option.map_some]
    constructor
    · intro hwhole
      exact .inl ((takeWhile_isPrefix_wordAt text).eq_of_length (Nat.succ_inj.1 hwhole.1))
    · intro h
      have hwhole := h.resolve_right (Option.some_ne_none lexeme)
      exact ⟨congrArg (·.length + 1) hwhole, hwhole ▸ hvalue⟩

/-- Behind a backslash the longest run of letters, of any alphabet, is a control word. What is read
there is the lexeme for the ASCII letters at its beginning, if the table holds them, and the control
word otherwise. So the control word is read whole, unless the table holds the ASCII letters at its
beginning and they are not all of it. -/
theorem readToken_controlWord (cursor : Cursor) (text : List Char)
    (hbackslash : cursor.skipWhiteSpace.remaining = '\\' :: text) (htext : wordAt text ≠ []) :
    (readToken table cursor =
      match lastValue? lexemes (String.ofList ('\\' :: text.takeWhile Char.isAlpha)) with
      | some lexeme =>
        readLexeme cursor.skipWhiteSpace ((text.takeWhile Char.isAlpha).length + 1) lexeme
      | none =>
        cursor.skipWhiteSpace.read (.control (String.ofList (wordAt text)))
          ((wordAt text).length + 1)) ∧
    (ReadsWhole cursor (wordAt text) ↔ text.takeWhile Char.isAlpha = wordAt text ∨
      lastValue? lexemes (String.ofList ('\\' :: text.takeWhile Char.isAlpha)) = none) :=
  ⟨readToken_backslash hbackslash htext, readsWhole_iff hbackslash htext⟩

/-- A control word that goes on from one of the table with an ASCII letter is read whole, and one
that goes on with a Greek letter is not. -/
theorem readToken_controlWord_mod :
    ReadsWhole (.ofText " \\modulo") "modulo".toList ∧
      ¬ReadsWhole (.ofText " \\modα") "modα".toList := by
  have hlatin := readToken_controlWord (.ofText " \\modulo") "modulo".toList rfl (by decide)
  have hgreek := readToken_controlWord (.ofText " \\modα") "modα".toList rfl (by decide +kernel)
  exact ⟨hlatin.2.2 (.inr rfl), mt hgreek.2.1 (by decide)⟩

/-- The control word is not always read whole: of `\modα` the table takes a part. -/
theorem controlWord_not_readsWhole :
    (scanner "\\modα").cursor.skipWhiteSpace.remaining = '\\' :: "modα".toList ∧
      wordAt "modα".toList = "modα".toList ∧
      ¬ReadsWhole (scanner "\\modα").cursor "modα".toList := by
  have hlexeme : lexemeAt? table ('\\' :: "modα".toList) = some (4, .operator .modulus) := rfl
  have hskip : (scanner "\\modα").cursor.skipWhiteSpace.remaining = '\\' :: "modα".toList := rfl
  refine ⟨hskip, by decide +kernel, fun hwhole ↦ ?_⟩
  rw [ReadsWhole, hskip, hlexeme] at hwhole
  exact absurd hwhole.1 (by decide)

end FormulaText.Latex
