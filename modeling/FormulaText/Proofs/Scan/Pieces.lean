import FormulaText.Proofs.Character.Classes
import FormulaText.Proofs.PrefixMap.Longest
import FormulaText.Scan.Lexical

/-!
# Pieces at the beginning of a text

A word, a numeral or a fixed text at the beginning of a text is found there if what follows it
does not go on with it.
-/

namespace FormulaText.Scan

/-- Whether a name is a word: letters, at least one. -/
def isWord (name : List Char) : Bool := !name.isEmpty && name.all Character.isAlphabetic

/-- Whether a text goes on neither with a letter nor with a digit nor with a point. -/
def endsPiece (rest : List Char) : Bool :=
  rest.head?.all fun c ↦ !Character.isAlphabetic c && !c.isDigit && c != '.'

section Words

variable {name rest : List Char}

theorem exists_cons_of_isWord (h : isWord name = true) :
    ∃ c letters, name = c :: letters ∧ Character.isAlphabetic c = true := by
  cases name with
  | nil => contradiction
  | cons c letters =>
    simp only [isWord, List.all_cons, Bool.and_eq_true] at h
    exact ⟨c, letters, rfl, h.2.1⟩

theorem isWord_wordAt {text : List Char} (h : wordAt text ≠ []) : isWord (wordAt text) = true := by
  simp only [isWord, Bool.and_eq_true, Bool.not_eq_true', List.isEmpty_eq_false_iff]
  exact ⟨h, List.all_takeWhile⟩

theorem wordAt_append (h : isWord name = true)
    (hrest : rest.head?.all (fun c ↦ !Character.isAlphabetic c) = true) :
    wordAt (name ++ rest) = name := by
  simp only [isWord, Bool.and_eq_true, List.all_eq_true] at h
  rw [wordAt, List.takeWhile_append_of_pos h.2]
  cases rest with
  | nil => simp
  | cons c rest =>
    have hc : ¬Character.isAlphabetic c = true := by simpa using hrest
    rw [List.takeWhile_cons_of_neg hc, List.append_nil]

theorem not_isAlphabetic_of_endsPiece (h : endsPiece rest = true) :
    rest.head?.all (fun c ↦ !Character.isAlphabetic c) = true := by
  cases rest with
  | nil => rfl
  | cons c rest =>
    simp only [endsPiece, List.head?_cons, Option.all_some, Bool.and_eq_true] at h ⊢
    exact h.1.1

/-- Behind a word there is no letter. -/
theorem head?_drop_wordAt (text : List Char) :
    (text.drop (wordAt text).length).head?.all (fun c ↦ !Character.isAlphabetic c) = true := by
  rw [wordAt]
  induction text with
  | nil => rfl
  | cons c rest ih => by_cases h : Character.isAlphabetic c = true <;> simp_all

/-- A text that begins with a word is this word, and something that does not go on with it. -/
theorem exists_append_of_wordAt {text : List Char} {c : Char} {letters : List Char}
    (h : wordAt text = c :: letters) : ∃ rest, text = c :: letters ++ rest ∧
      isWord (c :: letters) = true ∧
      rest.head?.all (fun c ↦ !Character.isAlphabetic c) = true := by
  have hbehind := head?_drop_wordAt text
  have hword : isWord (wordAt text) = true := isWord_wordAt (by simp [h])
  have hsplit := List.prefix_iff_eq_append.1 (wordAt_isPrefix text)
  rw [h] at hbehind hword hsplit
  exact ⟨_, hsplit.symm, hword, hbehind⟩

/-- No numeral begins with a letter. -/
theorem numeralAt?_of_isAlphabetic {c : Char} (h : Character.isAlphabetic c = true)
    (rest : List Char) : numeralAt? (c :: rest) = none := by
  have hpoint : c ≠ '.' := Character.ne_of_isAlphabetic h rfl
  simp [numeralAt?, digitsAndPoint, Character.isDigit_of_isAlphabetic h, hpoint]

end Words

section Numerals

variable {rest : List Char}

theorem digitsAndPoint_of_endsPiece (pointSeen : Bool) (h : endsPiece rest = true) :
    digitsAndPoint pointSeen rest = [] := by
  cases rest with
  | nil => rfl
  | cons c rest =>
    simp only [endsPiece, List.head?_cons, Option.all_some, Bool.and_eq_true, Bool.not_eq_true',
      bne_iff_ne] at h
    simp [digitsAndPoint, h.1.2, h.2]

theorem digitsAndPoint_digits {digits : List Char} (h : ∀ c ∈ digits, c.isDigit = true)
    (pointSeen : Bool) (rest : List Char) :
    digitsAndPoint pointSeen (digits ++ rest) = digits ++ digitsAndPoint pointSeen rest := by
  induction digits with
  | nil => rfl
  | cons c digits ih =>
    rw [List.cons_append, digitsAndPoint, if_pos (h c List.mem_cons_self)]
    rw [ih fun other hother ↦ h other (List.mem_cons_of_mem _ hother), List.cons_append]

/-- Digits with at most one point, and with none behind a point that was seen. -/
theorem all_digitsAndPoint (pointSeen : Bool) (text : List Char) :
    (digitsAndPoint pointSeen text).all (fun c ↦ c.isDigit || c == '.') = true ∧
      (digitsAndPoint pointSeen text).count '.' ≤ if pointSeen then 0 else 1 := by
  induction text generalizing pointSeen with
  | nil => simp [digitsAndPoint]
  | cons c rest ih =>
    rw [digitsAndPoint]
    split
    · next hdigit =>
      have hpoint : c ≠ '.' := by
        rintro rfl
        contradiction
      simpa [hdigit, hpoint] using ih pointSeen
    · split
      · next hpoint =>
        simp only [Bool.and_eq_true, decide_eq_true_eq, Bool.not_eq_true'] at hpoint
        obtain ⟨rfl, rfl⟩ := hpoint
        simpa using ih true
      · simp

theorem numeralAt?_eq_some_iff {text numeral : List Char} :
    numeralAt? text = some numeral ↔
      digitsAndPoint false text = numeral ∧ numeral.any Char.isDigit = true := by
  simp only [numeralAt?, Option.ite_none_right_eq_some, Option.some.injEq]
  constructor
  · rintro ⟨hdigit, rfl⟩
    exact ⟨rfl, hdigit⟩
  · rintro ⟨rfl, hdigit⟩
    exact ⟨hdigit, rfl⟩

/-- What is taken for a numeral is one. -/
theorem isNumeral_of_numeralAt? {text numeral : List Char} (h : numeralAt? text = some numeral) :
    Decimal.isNumeral numeral = true := by
  obtain ⟨rfl, hdigit⟩ := numeralAt?_eq_some_iff.1 h
  obtain ⟨hall, hcount⟩ := all_digitsAndPoint false text
  rw [Decimal.isNumeral, hdigit, hall]
  exact decide_eq_true hcount

/-- What is taken for a numeral is read as a decimal number. -/
theorem exists_decimal_of_numeralAt? {text numeral : List Char}
    (h : numeralAt? text = some numeral) :
    ∃ decimal, Decimal.ofNumeral? numeral = some decimal := by
  rw [← Option.isSome_iff_exists, Decimal.isSome_ofNumeral?]
  exact isNumeral_of_numeralAt? h

theorem isNumeral_of_ofNumeral? {numeral : List Char} {decimal : Decimal}
    (h : Decimal.ofNumeral? numeral = some decimal) : Decimal.isNumeral numeral = true := by
  rw [← Decimal.isSome_ofNumeral?, h, Option.isSome_some]

end Numerals

/-! ## Fixed texts -/

section Lexemes

open PrefixMap

variable {entries : List (String × Lexeme)} {text rest : List Char} {lexeme : Lexeme}

theorem longestPrefix?_trie (entries : List (String × Lexeme)) (text : List Char) :
    PrefixMap.longestPrefix? (Trie.ofList entries) text = longestOf entries text :=
  Trie.longestPrefix?_ofList entries text

/-- The longest key is found as a lexeme, unless it is a control word that a letter follows. -/
theorem lexemeAt?_eq_some (key : List Char)
    (h : longestOf entries (key ++ rest) = some ((utf8Bytes key).length, lexeme)) (hne : key ≠ [])
    (hend : isControlWord key = true → rest.head?.any Char.isAlpha = false) :
    lexemeAt? (Trie.ofList entries) (key ++ rest) = some (key.length, lexeme) := by
  rw [lexemeAt?, longestPrefix?_trie, h]
  simp only [takeBytes_length_utf8Bytes, List.drop_left]
  rw [if_neg]
  simp only [Bool.or_eq_true, Bool.and_eq_true, List.isEmpty_iff, not_or, not_and,
    Bool.not_eq_true]
  exact ⟨hne, hend⟩

theorem lexemeAt?_eq_none (h : ∀ entry ∈ entries, entry.1.toList.isPrefixOf text = false) :
    lexemeAt? (Trie.ofList entries) text = none := by
  rw [lexemeAt?, longestPrefix?_trie, longestOf_eq_none h]

/-- Where no key begins with a letter or a digit, nothing that does is a lexeme. -/
theorem lexemeAt?_of_head {c : Char}
    (h : ∀ entry ∈ entries,
      entry.1.toList.head?.any (fun c ↦ !Character.isAlphabetic c && !c.isDigit) = true)
    (hc : Character.isAlphabetic c = true ∨ c.isDigit = true) (rest : List Char) :
    lexemeAt? (Trie.ofList entries) (c :: rest) = none := by
  refine lexemeAt?_eq_none fun entry hentry ↦ ?_
  have hhead := h entry hentry
  cases hkey : entry.1.toList with
  | nil => simp [hkey] at hhead
  | cons first letters =>
    have hne : first ≠ c := by
      rintro rfl
      simp only [hkey, List.head?_cons, Option.any_some, Bool.and_eq_true, Bool.not_eq_true']
        at hhead
      rcases hc with hc | hc
      · simp [hc] at hhead
      · simp [hc] at hhead
    simp [List.isPrefixOf, hne]

/-- Two texts that begin with the same keys, and go on alike behind each, have the same lexeme. -/
theorem lexemeAt?_congr {other : List Char}
    (h : ∀ entry ∈ entries, entry.1.toList.isPrefixOf text = entry.1.toList.isPrefixOf other)
    (hdrop : ∀ entry ∈ entries, entry.1.toList <+: text →
      (text.drop entry.1.toList.length).head?.any Char.isAlpha =
        (other.drop entry.1.toList.length).head?.any Char.isAlpha) :
    lexemeAt? (Trie.ofList entries) text = lexemeAt? (Trie.ofList entries) other := by
  rw [lexemeAt?, lexemeAt?, longestPrefix?_trie, longestPrefix?_trie, ← longestOf_congr h]
  cases hfound : longestOf entries text with
  | none => rfl
  | some found =>
    obtain ⟨entry, hentry, hbegins, heq⟩ := exists_entry_of_longestOf hfound
    have hother : entry.1.toList <+: other := by
      rw [← List.isPrefixOf_iff_prefix, ← h entry hentry, List.isPrefixOf_iff_prefix]
      exact hbegins
    have hkey (longer : List Char) (hlonger : entry.1.toList <+: longer) :
        takeBytes entry.1.utf8ByteSize longer = entry.1.toList := by
      obtain ⟨rest, rfl⟩ := hlonger
      rw [← length_utf8Bytes_toList, takeBytes_length_utf8Bytes]
    rw [Prod.mk.injEq] at heq
    simp only [heq.1, hkey text hbegins, hkey other hother, hdrop entry hentry hbegins]

end Lexemes

end FormulaText.Scan
