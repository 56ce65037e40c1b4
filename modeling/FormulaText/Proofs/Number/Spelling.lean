import FormulaText.Proofs.Grammar.Phrase
import FormulaText.Proofs.Number.Reading
import FormulaText.Proofs.Scan.Reads

/-!
# The tokens of a number

A number is printed as its magnitude, with a minus before it if it is less than zero. So a negative
number is read as two tokens, which the grammar puts together again, and zero loses its sign.
-/

namespace FormulaText

open Grammar Scan

namespace Binary64

def kinds : Binary64 → List Token.Kind
  | .finite negative magnitude =>
    if negative ∧ magnitude ≠ .zero then [.operator .minus, .number (.finite false magnitude)]
    else [.number (.finite false magnitude)]
  | .infinite negative =>
    if negative then [.operator .minus, .symbol "inf"] else [.symbol "inf"]
  | .nan => [.symbol "NaN"]

/-- The text of a finite number is that of its magnitude, with a minus before it if the number is
negative. -/
theorem derives_kinds {vocabulary : Vocabulary} {value : Binary64}
    (h : value.isFinite = true) :
    Derives vocabulary .operand value.kinds (.number value.withoutSignOfZero) := by
  obtain ⟨negative, magnitude⟩ | _ | _ := value
  · by_cases hzero : magnitude = .zero
    · subst hzero
      have hkinds : (Binary64.finite negative .zero).kinds = [.number (.finite false .zero)] := by
        simp [Binary64.kinds]
      rw [hkinds]
      exact .number _
    · have hsame : (Binary64.finite negative magnitude).withoutSignOfZero =
          .finite negative magnitude := by
        simp [Binary64.withoutSignOfZero, Binary64.isZero, hzero]
      rw [hsame]
      cases negative with
      | false =>
        have hkinds : (Binary64.finite false magnitude).kinds =
            [.number (.finite false magnitude)] := by
          simp [Binary64.kinds]
        rw [hkinds]
        exact .number _
      | true =>
        have hkinds : (Binary64.finite true magnitude).kinds =
            [.operator .minus, .number (.finite false magnitude)] := by
          simp [Binary64.kinds, hzero]
        rw [hkinds]
        exact .signed .minus (.number _)
  · contradiction
  · contradiction

theorem endsClosed_kinds (value : Binary64) : endsClosed value.kinds = false := by
  unfold Binary64.kinds
  cases value <;> simp only <;> first | rfl | (split <;> rfl)

theorem withoutSignOfZero_idem (value : Binary64) :
    value.withoutSignOfZero.withoutSignOfZero = value.withoutSignOfZero := by
  by_cases h : value.isZero = true
  · simp [Binary64.withoutSignOfZero, h]
  · simp [Binary64.withoutSignOfZero, h]

theorem isFinite_withoutSignOfZero (value : Binary64) :
    value.withoutSignOfZero.isFinite = value.isFinite := by
  unfold Binary64.withoutSignOfZero
  split
  · next hzero => cases value <;> simp_all [Binary64.isZero, Binary64.isFinite, Binary64.zero]
  · rfl

theorem equal_withoutSignOfZero {value : Binary64} (h : value.isFinite = true) :
    value.withoutSignOfZero.equal value = true := by
  obtain ⟨negative, magnitude⟩ | _ | _ := value
  · by_cases hzero : magnitude = .zero
    · subst hzero
      simp [Binary64.withoutSignOfZero, Binary64.isZero, Binary64.zero, Binary64.equal]
    · simp [Binary64.withoutSignOfZero, Binary64.isZero, hzero, Binary64.equal]
  · contradiction
  · contradiction

/-! ## The text of a number -/

section

variable {read : Cursor → Except SyntaxError Token × Cursor} {ends : List Char → Bool}

/-- The text of a magnitude is one number, where numerals are read as numbers. -/
theorem spells_magnitude (magnitude : Magnitude)
    (hends : ∀ rest, ends rest = true → endsPiece rest = true)
    (hnumeral : ∀ (cursor : Cursor) {c : Char} {rest numeral : List Char},
      cursor.remaining = c :: rest → c.isDigit = true → numeralAt? (c :: rest) = some numeral →
        read cursor = readNumeral cursor.skipWhiteSpace numeral) :
    Spells read ends (finite false magnitude).positional [.number (.finite false magnitude)] := by
  intro rest others hrest h
  obtain ⟨decimal, value, places, htext, hdecimal, hbinary⟩ := magnitude.exists_numeral
  have hfound := htext.numeralAt? (hends rest hrest)
  obtain ⟨c, digits, hcons, hc⟩ := htext.exists_cons
  generalize (finite false magnitude).positional.toList = text at *
  subst hcons
  refine reads_cons (by simp) (fun cursor hcursor ↦ ?_) h
  refine ⟨cursor.skipWhiteSpace,
    remaining_skipWhiteSpace_of_cons hcursor (Character.isWhiteSpace_of_isDigit hc), ?_⟩
  rw [hnumeral cursor hcursor hc hfound, readNumeral, hdecimal]
  simp only [hbinary]

/-- A finite number is printed as its magnitude, with a minus before it if it is negative. -/
theorem positional_withoutSignOfZero (negative : Bool) (magnitude : Magnitude) :
    (finite negative magnitude).withoutSignOfZero.positional =
      if negative ∧ magnitude ≠ .zero then "-" ++ (finite false magnitude).positional
      else (finite false magnitude).positional := by
  split
  case isTrue hnegative =>
    have hsame : (finite negative magnitude).withoutSignOfZero = finite negative magnitude := by
      simp [withoutSignOfZero, isZero, hnegative.2]
    rw [hsame]
    simp [positional, signText, hnegative.1]
  case isFalse hnegative =>
    have hsame : (finite negative magnitude).withoutSignOfZero = finite false magnitude := by
      by_cases hzero : magnitude = .zero
      · simp [withoutSignOfZero, isZero, hzero, zero]
      · have hpositive : negative = false := by simpa [hzero] using hnegative
        simp [withoutSignOfZero, isZero, hzero, hpositive]
    rw [hsame]

/-- The text of a number, whatever its value, is its tokens. -/
theorem spells_kinds (hminus : ReadsAs read "-" (.operator .minus))
    (hmagnitude : ∀ magnitude : Magnitude,
      Spells read ends (finite false magnitude).positional [.number (.finite false magnitude)])
    (hsymbol : ∀ name : String, isWord name.toList = true → Spells read ends name [.symbol name])
    (value : Binary64) : Spells read ends value.withoutSignOfZero.positional value.kinds := by
  obtain ⟨negative, magnitude⟩ | negative | _ := value
  · rw [positional_withoutSignOfZero, kinds]
    split
    · exact hminus.before (hmagnitude magnitude)
    · exact hmagnitude magnitude
  · cases negative with
    | false => exact hsymbol "inf" (by decide)
    | true => exact hminus.before (hsymbol "inf" (by decide))
  · exact hsymbol "NaN" (by decide)

end

end Binary64

end FormulaText
