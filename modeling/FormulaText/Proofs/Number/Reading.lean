import FormulaText.Number.Numeral
import FormulaText.Number.Shortest
import FormulaText.Proofs.Scan.Pieces

/-!
# Numbers that are read back

The positional text of a number is one numeral, and the number it is read as is the one that was
written.
-/

namespace FormulaText

namespace Decimal

/-- A text is digits, then nothing or a point and more digits. -/
inductive IsPositional : List Char → Nat → Nat → Prop
  | whole {digits : List Char} (hne : digits ≠ []) (h : ∀ c ∈ digits, c.isDigit = true) :
    IsPositional digits (Nat.ofDigitChars 10 digits 0) 0
  | fraction {digits places : List Char} (hne : digits ≠ [])
    (h : ∀ c ∈ digits, c.isDigit = true) (hplaces : ∀ c ∈ places, c.isDigit = true) :
    IsPositional (digits ++ '.' :: places) (Nat.ofDigitChars 10 (digits ++ places) 0)
      places.length

variable {text : List Char} {value places : Nat}

theorem IsPositional.exists_cons (h : IsPositional text value places) :
    ∃ c rest, text = c :: rest ∧ c.isDigit = true := by
  cases h with
  | whole hne h =>
    obtain ⟨c, digits, rfl⟩ := List.exists_cons_of_ne_nil hne
    exact ⟨c, digits, rfl, h c List.mem_cons_self⟩
  | fraction hne h _ =>
    obtain ⟨c, digits, rfl⟩ := List.exists_cons_of_ne_nil hne
    exact ⟨c, _, rfl, h c List.mem_cons_self⟩

/-- Such a text is found as a numeral if what follows does not go on with it. -/
theorem IsPositional.numeralAt? (h : IsPositional text value places) {rest : List Char}
    (hrest : Scan.endsPiece rest = true) : Scan.numeralAt? (text ++ rest) = some text := by
  obtain ⟨c, tail, htail, hc⟩ := h.exists_cons
  have hany : text.any Char.isDigit = true := by
    rw [htail, List.any_cons, hc, Bool.true_or]
  have hcandidate : Scan.digitsAndPoint false (text ++ rest) = text := by
    cases h with
    | whole hne h =>
      rw [Scan.digitsAndPoint_digits h, Scan.digitsAndPoint_of_endsPiece false hrest,
        List.append_nil]
    | fraction hne h hplaces =>
      rw [List.append_assoc, Scan.digitsAndPoint_digits h, List.cons_append, Scan.digitsAndPoint]
      simp only [Char.reduceIsDigit, Bool.false_eq_true, if_false, Bool.not_false,
        decide_true, Bool.and_self, if_true]
      rw [Scan.digitsAndPoint_digits hplaces, Scan.digitsAndPoint_of_endsPiece true hrest,
        List.append_nil]
  simp only [Scan.numeralAt?, hcandidate, hany, if_true]

theorem takeWhile_isDigit_append {digits : List Char} (h : ∀ c ∈ digits, c.isDigit = true)
    (rest : List Char) (hrest : rest.head?.all (fun c ↦ !c.isDigit) = true) :
    (digits ++ rest).takeWhile Char.isDigit = digits ∧
      (digits ++ rest).dropWhile Char.isDigit = rest := by
  rw [List.takeWhile_append_of_pos h, List.dropWhile_append_of_pos h]
  cases rest with
  | nil => simp
  | cons c rest =>
    have hc : ¬c.isDigit = true := by simpa using hrest
    rw [List.takeWhile_cons_of_neg hc, List.dropWhile_cons_of_neg hc, List.append_nil]
    exact ⟨rfl, rfl⟩

theorem IsPositional.ofNumeral? (h : IsPositional text value places) :
    Decimal.ofNumeral? text = some ⟨value, -(places : Int)⟩ := by
  obtain ⟨c, tail, htail, hc⟩ := h.exists_cons
  have hany : text.any Char.isDigit = true := by
    rw [htail, List.any_cons, hc, Bool.true_or]
  have hpoint {digits : List Char} (hdigits : ∀ c ∈ digits, c.isDigit = true) : '.' ∉ digits := by
    intro hmem
    exact absurd (hdigits '.' hmem) (by decide)
  have hall {digits : List Char} (hdigits : ∀ c ∈ digits, c.isDigit = true) :
      digits.all (fun c ↦ c.isDigit || c == '.') = true := by
    rw [List.all_eq_true]
    intro c hmem
    rw [hdigits c hmem, Bool.true_or]
  cases h with
  | whole hne h =>
    have hsplit := takeWhile_isDigit_append h [] rfl
    rw [List.append_nil] at hsplit
    have hnumeral : isNumeral text = true := by
      simp [isNumeral, hany, hall h, List.count_eq_zero_of_not_mem (hpoint h)]
    rw [Decimal.ofNumeral?, if_pos hnumeral, hsplit.1, hsplit.2]
    simp only [List.drop_nil, List.append_nil]
    rfl
  | @fraction digits places hne h hplaces =>
    have hsplit := takeWhile_isDigit_append h ('.' :: places) rfl
    have hnumeral : isNumeral (digits ++ '.' :: places) = true := by
      simp only [isNumeral, hany, List.all_append, hall h, List.all_cons, hall hplaces,
        List.count_append, List.count_cons, List.count_eq_zero_of_not_mem (hpoint h),
        List.count_eq_zero_of_not_mem (hpoint hplaces)]
      decide
    rw [Decimal.ofNumeral?, if_pos hnumeral, hsplit.1, hsplit.2]
    rfl

theorem isDigit_of_mem_toDigits {number : Nat} : ∀ c ∈ Nat.toDigits 10 number, c.isDigit = true :=
  fun _ hmem ↦ Nat.isDigit_of_mem_toDigits (by decide) (by decide) hmem

/-- The positional text of a decimal number has its digits, all of them before the point if the
exponent is not negative. -/
theorem isPositional_positional (decimal : Decimal) :
    ∃ value places, IsPositional decimal.positional.toList value places ∧
      (⟨value, -(places : Int)⟩ : Decimal).numerator = decimal.numerator ∧
      (⟨value, -(places : Int)⟩ : Decimal).denominator = decimal.denominator := by
  obtain ⟨digits, exponent⟩ := decimal
  cases exponent with
  | ofNat zeros =>
    rw [positional]
    simp only [String.toList_ofList]
    refine ⟨_, _, .whole ?_ ?_, ?_, ?_⟩
    · simp [Nat.toDigits_ne_nil]
    · intro c hmem
      rcases List.mem_append.1 hmem with hmem | hmem
      · exact isDigit_of_mem_toDigits c hmem
      · rw [(List.mem_replicate.1 hmem).2]
        rfl
    · rw [Nat.ofDigitChars_append, Nat.ofDigitChars_ten_toDigits,
        Nat.ofDigitChars_replicate_zero, numerator, numerator]
      simp [tenPow, Nat.mul_comm]
    · simp [denominator]
  | negSucc places =>
    have hlength : (Nat.toDigits 10 (digits % tenPow (places + 1))).length ≤ places + 1 := by
      rw [Nat.length_toDigits_le_iff (by decide) (by omega)]
      exact Nat.mod_lt _ (tenPow_pos (places + 1))
    have hpadded : ((Nat.toDigits 10 (digits % tenPow (places + 1))).leftpad (places + 1)
        '0').length = places + 1 := by
      rw [List.length_leftpad, Nat.max_eq_left hlength]
    rw [positional]
    simp only [String.toList_ofList]
    refine ⟨_, _, .fraction Nat.toDigits_ne_nil isDigit_of_mem_toDigits ?_, ?_, ?_⟩
    · intro c hmem
      rw [List.leftpad] at hmem
      rcases List.mem_append.1 hmem with hmem | hmem
      · rw [(List.mem_replicate.1 hmem).2]
        rfl
      · exact isDigit_of_mem_toDigits c hmem
    · have hvalue : Nat.ofDigitChars 10 (Nat.toDigits 10 (digits / tenPow (places + 1)) ++
          (Nat.toDigits 10 (digits % tenPow (places + 1))).leftpad (places + 1) '0') 0 = digits := by
        rw [Nat.ofDigitChars_append, Nat.ofDigitChars_ten_toDigits,
          Nat.ofDigitChars_eq_ofDigitChars_zero, hpadded, List.leftpad, Nat.ofDigitChars_append,
          Nat.ofDigitChars_replicate_zero, Nat.mul_zero, Nat.ofDigitChars_ten_toDigits]
        exact Nat.div_add_mod digits (tenPow (places + 1))
      rw [hvalue, hpadded]
      rfl
    · rw [hpadded]
      rfl

/-- Only the quotient that a decimal number is counts for rounding. -/
theorem nearest?_congr {a b : Decimal} (hnumerator : a.numerator = b.numerator)
    (hdenominator : a.denominator = b.denominator) : a.nearest? = b.nearest? := by
  unfold nearest?
  rw [hnumerator, hdenominator]

theorem toBinary64_of_nearest? {decimal : Decimal} {magnitude : Magnitude} {negative : Bool}
    (h : decimal.nearest? = some magnitude) :
    decimal.toBinary64 negative = .finite negative magnitude := by
  rw [toBinary64, h, Option.elim_some]

end Decimal

/-- The text of a magnitude is a numeral that is read back as the magnitude. -/
theorem Magnitude.exists_numeral (magnitude : Magnitude) :
    ∃ (decimal : Decimal) (value places : Nat),
      Decimal.IsPositional (Binary64.finite false magnitude).positional.toList value places ∧
      Decimal.ofNumeral? (Binary64.finite false magnitude).positional.toList = some decimal ∧
      decimal.toBinary64 false = .finite false magnitude := by
  obtain ⟨value, places, htext, hnumerator, hdenominator⟩ :=
    Decimal.isPositional_positional magnitude.shortest
  have hpositional : (Binary64.finite false magnitude).positional =
      magnitude.shortest.positional := by
    simp [Binary64.positional, Binary64.signText]
  rw [hpositional]
  refine ⟨⟨value, -(places : Int)⟩, value, places, htext, htext.ofNumeral?, ?_⟩
  have hnearest := (Decimal.nearest?_congr hnumerator hdenominator).trans
    magnitude.nearest?_shortest
  exact Decimal.toBinary64_of_nearest? hnearest

end FormulaText
