import FormulaText.Number.Numeral
import Mathlib.Data.List.TakeWhile

/-!
# Numerals in the full notation of numbers

The full notation also has signs, exponents and words. None of their characters is in a numeral, so
a numeral is read alike in it. The bound that it sets to exponents changes nothing: a numeral with
more places behind the point than the bound allows is so small that it is rounded to zero.
-/

namespace FormulaText

theorem roundQuotient_eq_zero {numerator denominator : Nat} (h : 2 * numerator < denominator) :
    roundQuotient numerator denominator = 0 := by
  have hlt : numerator < denominator := by omega
  simp only [roundQuotient, Nat.div_eq_of_lt hlt, Nat.mod_eq_of_lt hlt]
  rw [if_neg (by omega)]

/-- What is less than half a unit is rounded to zero. -/
theorem Magnitude.nearest?_eq_zero {numerator denominator : Nat}
    (h : 2 * (numerator * unitsInOne) < denominator) :
    nearest? numerator denominator = some zero := by
  have hquotient : numerator * unitsInOne / denominator = 0 := Nat.div_eq_of_lt (by omega)
  have hexponent : fittingExponent 0 = 0 := rfl
  simp only [nearest?, hquotient, hexponent, twoPow_zero, Nat.mul_one, roundQuotient_eq_zero h]
  rfl

namespace Decimal

/-- A number is rounded to zero if four hundred places behind the point are zeros. -/
theorem nearest?_eq_zero {digits places : Nat}
    (h : 400 + (Nat.toDigits 10 digits).length ≤ places) :
    nearest? ⟨digits, -(places : Int)⟩ = some .zero := by
  have hlength : 0 < (Nat.toDigits 10 digits).length :=
    List.length_pos_iff.2 Nat.toDigits_ne_nil
  have hdigits : digits < tenPow (Nat.toDigits 10 digits).length :=
    (Nat.length_toDigits_le_iff (by decide) hlength).1 (Nat.le_refl _)
  have hunits : 2 * Magnitude.unitsInOne ≤ tenPow 400 := by decide +kernel
  have hnumerator : numerator ⟨digits, -(places : Int)⟩ = digits := by simp [numerator]
  have hdenominator : denominator ⟨digits, -(places : Int)⟩ = tenPow places := by
    simp [denominator]
  rw [nearest?, hnumerator, hdenominator]
  refine Magnitude.nearest?_eq_zero ?_
  calc 2 * (digits * Magnitude.unitsInOne)
      = digits * (2 * Magnitude.unitsInOne) := Nat.mul_left_comm _ _ _
    _ < tenPow (Nat.toDigits 10 digits).length * (2 * Magnitude.unitsInOne) :=
      Nat.mul_lt_mul_of_pos_right hdigits (by decide +kernel)
    _ ≤ tenPow (Nat.toDigits 10 digits).length * tenPow 400 := Nat.mul_le_mul_left _ hunits
    _ = tenPow ((Nat.toDigits 10 digits).length + 400) := (tenPow_add _ _).symm
    _ ≤ tenPow places := Nat.pow_le_pow_right (by decide) (by omega)

/-- The bound on exponents changes no number that has only places behind the point. -/
theorem nearest?_clampExponent (digits places : Nat) :
    (clampExponent ⟨digits, -(places : Int)⟩).nearest? = nearest? ⟨digits, -(places : Int)⟩ := by
  unfold clampExponent
  split
  · next hzero =>
    obtain rfl : digits = 0 := hzero
    have hnumerator (exponent : Int) : numerator ⟨0, exponent⟩ = 0 := Nat.zero_mul _
    have hnearest (exponent : Int) : nearest? ⟨0, exponent⟩ = some .zero := by
      rw [nearest?, hnumerator]
      exact Magnitude.nearest?_eq_zero (by simpa using denominator_pos ⟨0, exponent⟩)
    rw [hnearest, hnearest]
  · by_cases hplaces : places ≤ 400 + (Nat.toDigits 10 digits).length
    · have hsame : max (-(400 + (Nat.toDigits 10 digits).length : Int))
          (min 400 (-(places : Int))) = -(places : Int) := by
        omega
      simp only [hsame]
    · have hlowest : max (-(400 + (Nat.toDigits 10 digits).length : Int))
          (min 400 (-(places : Int))) = -((400 + (Nat.toDigits 10 digits).length : Nat) : Int) := by
        omega
      simp only [hlowest]
      rw [nearest?_eq_zero (Nat.le_refl _), nearest?_eq_zero (by omega)]

theorem toLower_eq_self {c : Char} (h : c.isDigit = true ∨ c = '.') : c.toLower = c := by
  rcases h with hdigit | rfl
  · simp only [Char.isDigit, Bool.and_eq_true, decide_eq_true_eq] at hdigit
    have hcapital : ¬(c.val ≥ 'A'.val ∧ c.val ≤ 'Z'.val) :=
      fun h ↦ absurd (UInt32.le_trans h.1 hdigit.2) (by decide)
    exact dif_neg hcapital
  · rfl

/-- A numeral is read alike in the full notation of decimal numbers. -/
theorem ofText?_of_isNumeral {numeral : List Char} (h : isNumeral numeral = true) :
    ofText? numeral = ofNumeral? numeral := by
  have hmarks : ∀ c ∈ numeral, (!(c == 'e' || c == 'E')) = true := by
    intro c hc
    have hpart := isDigit_or_point_of_isNumeral h c hc
    rw [Bool.not_eq_true', Bool.or_eq_false_iff, beq_eq_false_iff_ne, beq_eq_false_iff_ne]
    constructor
    all_goals
      rintro rfl
      exact absurd hpart (by decide)
  have htake : numeral.takeWhile (fun c ↦ !(c == 'e' || c == 'E')) = numeral :=
    List.takeWhile_eq_self_iff.2 hmarks
  have hdrop : numeral.dropWhile (fun c ↦ !(c == 'e' || c == 'E')) = [] :=
    List.dropWhile_eq_nil_iff.2 hmarks
  rw [ofText?]
  simp only [htake, hdrop]
  cases ofNumeral? numeral <;> rfl

/-- A numeral is read as digits and a number of places behind the point. -/
theorem ofNumeral?_eq_some {numeral : List Char} {decimal : Decimal}
    (h : ofNumeral? numeral = some decimal) :
    isNumeral numeral = true ∧ ∃ digits places : Nat, decimal = ⟨digits, -(places : Int)⟩ := by
  rw [ofNumeral?] at h
  split at h
  · next hnumeral =>
    obtain rfl := Option.some.inj h
    exact ⟨hnumeral, _, _, rfl⟩
  · contradiction

end Decimal

/-- A numeral is read alike in the full notation of numbers. -/
theorem Binary64.ofText?_ofList {numeral : List Char} {decimal : Decimal}
    (h : Decimal.ofNumeral? numeral = some decimal) :
    ofText? (String.ofList numeral) = some (decimal.toBinary64 false) := by
  obtain ⟨hnumeral, digits, places, rfl⟩ := Decimal.ofNumeral?_eq_some h
  have hparts := Decimal.isDigit_or_point_of_isNumeral hnumeral
  have hsign {c : Char} {body : List Char} (hc : ¬(c.isDigit = true ∨ c = '.')) :
      numeral ≠ c :: body := by
    rintro rfl
    exact hc (hparts c List.mem_cons_self)
  have hword {word : String} (c : Char) (hc : c ∈ word.toList)
      (hforeign : ¬(c.isDigit = true ∨ c = '.')) : String.ofList numeral ≠ word := by
    rintro rfl
    rw [String.toList_ofList] at hc
    exact hforeign (hparts c hc)
  have hlower : numeral.map Char.toLower = numeral :=
    (List.map_congr_left fun c hc ↦ Decimal.toLower_eq_self (hparts c hc)).trans (List.map_id _)
  have hnumber : (Decimal.clampExponent ⟨digits, -(places : Int)⟩).toBinary64 false =
      Decimal.toBinary64 false ⟨digits, -(places : Int)⟩ := by
    rw [Decimal.toBinary64, Decimal.nearest?_clampExponent, Decimal.toBinary64]
  unfold ofText?
  rw [String.toList_ofList]
  split
  next negative body hsplit =>
  split at hsplit
  -- neither a sign nor a letter is in a numeral
  · exact absurd rfl (hsign (by decide))
  · exact absurd rfl (hsign (by decide))
  · obtain ⟨rfl, rfl⟩ := Prod.mk.inj hsplit
    rw [hlower]
    split
    · next h => exact absurd h (hword 'i' (by decide) (by decide))
    · next h => exact absurd h (hword 'i' (by decide) (by decide))
    · next h => exact absurd h (hword 'n' (by decide) (by decide))
    · rw [Decimal.ofText?_of_isNumeral hnumeral, h, Option.map_some, hnumber]

end FormulaText
