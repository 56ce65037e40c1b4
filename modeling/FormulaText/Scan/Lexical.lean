import FormulaText.Character.Alphabetic
import FormulaText.Number.Numeral
import FormulaText.PrefixMap.Basic
import FormulaText.Scan.Cursor
import FormulaText.Token.Lexeme

/-!
# What stands at the beginning of a text

Three things are looked for at the beginning of a text: the longest fixed text of a table, the
longest numeral, and the longest word.
-/

namespace FormulaText.Scan

/-- Whether a fixed text is a control word that ends in a letter. -/
def isControlWord (key : List Char) : Bool :=
  key.head? == some '\\' && key.getLast?.any Char.isAlpha

/-- The longest entry of a table that the text begins with, and its length. There is none if
the longest entry is empty, or a control word that a letter follows. -/
def lexemeAt? {M : Type} [PrefixMap M Lexeme] (table : M) (text : List Char) :
    Option (Nat × Lexeme) :=
  match PrefixMap.longestPrefix? table text with
  | none => none
  | some (bytes, lexeme) =>
    let key := PrefixMap.takeBytes bytes text
    let rest := text.drop key.length
    if key.isEmpty || (isControlWord key && rest.head?.any Char.isAlpha) then none
    else some (key.length, lexeme)

/-- Digits with at most one point, as many as there are. No point is left if `pointSeen`. -/
def digitsAndPoint (pointSeen : Bool) : List Char → List Char
  | [] => []
  | c :: rest =>
    if c.isDigit then c :: digitsAndPoint pointSeen rest
    else if c = '.' && !pointSeen then c :: digitsAndPoint true rest
    else []

/-- The longest numeral that the text begins with. A point alone is none. -/
def numeralAt? (text : List Char) : Option (List Char) :=
  let candidate := digitsAndPoint false text
  if candidate.any Char.isDigit then some candidate else none

def wordAt (text : List Char) : List Char := text.takeWhile Character.isAlphabetic

def readNumeral (cursor : Cursor) (numeral : List Char) : Except SyntaxError Token × Cursor :=
  match Decimal.ofNumeral? numeral with
  | some decimal => cursor.read (.number (decimal.toBinary64 false)) numeral.length
  | none => cursor.refuse numeral.length (.invalidNumber (String.ofList numeral))

theorem digitsAndPoint_isPrefix (pointSeen : Bool) (text : List Char) :
    digitsAndPoint pointSeen text <+: text := by
  induction text generalizing pointSeen with
  | nil => simp [digitsAndPoint]
  | cons c rest ih =>
    simp only [digitsAndPoint]
    split
    · exact List.cons_prefix_cons.2 ⟨rfl, ih _⟩
    · split
      · exact List.cons_prefix_cons.2 ⟨rfl, ih _⟩
      · exact List.nil_prefix

theorem numeralAt?_isPrefix {text numeral : List Char} (h : numeralAt? text = some numeral) :
    numeral <+: text := by
  simp only [numeralAt?, Option.ite_none_right_eq_some, Option.some.injEq] at h
  exact h.2 ▸ digitsAndPoint_isPrefix false text

theorem numeralAt?_ne_nil {text numeral : List Char} (h : numeralAt? text = some numeral) :
    numeral ≠ [] := by
  simp only [numeralAt?, Option.ite_none_right_eq_some, Option.some.injEq] at h
  rintro rfl
  simp [h.2] at h

theorem wordAt_isPrefix (text : List Char) : wordAt text <+: text := List.takeWhile_prefix _

section Lexemes

variable {M : Type} [PrefixMap M Lexeme] {table : M} {text : List Char} {count : Nat}
  {lexeme : Lexeme}

theorem lexemeAt?_pos (h : lexemeAt? table text = some (count, lexeme)) : 0 < count := by
  simp only [lexemeAt?] at h
  split at h
  · simp at h
  · split at h
    · simp at h
    · next hcond =>
      simp only [Option.some.injEq, Prod.mk.injEq] at h
      rw [← h.1]
      simp only [Bool.or_eq_true, List.isEmpty_iff, not_or] at hcond
      exact List.length_pos_iff.2 hcond.1

theorem lexemeAt?_le_length (h : lexemeAt? table text = some (count, lexeme)) :
    count ≤ text.length := by
  simp only [lexemeAt?] at h
  split at h
  · simp at h
  · split at h
    · simp at h
    · simp only [Option.some.injEq, Prod.mk.injEq] at h
      rw [← h.1]
      exact (PrefixMap.takeBytes_isPrefix _ _).length_le

end Lexemes

/-! ## Progress -/

/-- An answer is progress from a place if a token in it took some of the text, unless it is the
end of the input. -/
def Progress (place : Cursor) (answer : Except SyntaxError Token × Cursor) : Prop :=
  ∀ token, answer.1 = .ok token → token.kind ≠ .endOfInput →
    answer.2.remaining.length < place.remaining.length

theorem Progress.mono {place earlier : Cursor} {answer : Except SyntaxError Token × Cursor}
    (h : Progress place answer) (hle : place.remaining.length ≤ earlier.remaining.length) :
    Progress earlier answer :=
  fun token hanswer hkind ↦ Nat.lt_of_lt_of_le (h token hanswer hkind) hle

theorem progress_read {place : Cursor} {kind : Token.Kind} {count : Nat} (hpos : 0 < count)
    (hle : count ≤ place.remaining.length) : Progress place (place.read kind count) :=
  fun _ _ _ ↦ Cursor.length_remaining_read_lt hpos hle

theorem progress_read_endOfInput (earlier place : Cursor) (count : Nat) :
    Progress earlier (place.read .endOfInput count) := by
  intro token htoken hkind
  cases htoken
  exact absurd rfl hkind

theorem progress_refuse (earlier place : Cursor) (width : Nat) (fault : Fault) :
    Progress earlier (place.refuse width fault) :=
  fun _ hanswer _ ↦ nomatch hanswer

theorem progress_refuseUnknown (place : Cursor) : Progress place place.refuseUnknown :=
  progress_refuse _ _ _ _

theorem progress_readNumeral {place : Cursor} {numeral : List Char}
    (h : numeralAt? place.remaining = some numeral) :
    Progress place (readNumeral place numeral) := by
  unfold readNumeral
  split
  · exact progress_read (List.length_pos_iff.2 (numeralAt?_ne_nil h))
      (numeralAt?_isPrefix h).length_le
  · exact progress_refuse _ _ _ _

end FormulaText.Scan
