import FormulaText.Number.Binary64

/-!
# Rounding to the nearest magnitude

A quotient of natural numbers is rounded to the nearest magnitude, and one that lies halfway
between two of them to the one with the even significand. Rounding leaves a quotient that is a
magnitude as it is.
-/

namespace FormulaText

/-- The whole number nearest to `numerator / denominator`, the even one of two. -/
def roundQuotient (numerator denominator : Nat) : Nat :=
  let quotient := numerator / denominator
  let doubled := 2 * (numerator % denominator)
  if denominator < doubled ∨ (doubled = denominator ∧ quotient % 2 = 1) then quotient + 1
  else quotient

theorem le_roundQuotient (numerator denominator : Nat) :
    numerator / denominator ≤ roundQuotient numerator denominator := by
  grind [roundQuotient]

theorem roundQuotient_mul {denominator : Nat} (h : 0 < denominator) (quotient : Nat) :
    roundQuotient (quotient * denominator) denominator = quotient := by
  simp [roundQuotient, Nat.mul_div_cancel _ h]
  omega

namespace Magnitude

/-- The exponent at which a number of units has at most 53 binary digits before the point. -/
def fittingExponent (units : Nat) : Nat := units.log2 - 52

theorem le_div_fittingExponent {units : Nat} (h : fittingExponent units ≠ 0) :
    twoPow 52 ≤ units / twoPow (fittingExponent units) := by
  have hlog : units.log2 = 52 + fittingExponent units := by grind [fittingExponent]
  have hne : units ≠ 0 := by
    rintro rfl
    simp [fittingExponent] at h
  rw [Nat.le_div_iff_mul_le (twoPow_pos _), ← twoPow_add, ← hlog]
  exact twoPow_log2_le hne

theorem le_roundQuotient_fittingExponent (units denominator : Nat) :
    fittingExponent (units / denominator) = 0 ∨
      twoPow 52 ≤
        roundQuotient units (denominator * twoPow (fittingExponent (units / denominator))) := by
  by_cases h : fittingExponent (units / denominator) = 0
  · exact .inl h
  · have hle := le_div_fittingExponent h
    rw [Nat.div_div_eq_div_mul] at hle
    exact .inr (Nat.le_trans hle (le_roundQuotient _ _))

/-- The magnitude nearest to `numerator / denominator`, unless that is too large for one. A
significand that is rounded up to 54 digits makes way for the next exponent. -/
def nearest? (numerator denominator : Nat) : Option Magnitude :=
  let units := numerator * unitsInOne
  let exponent := fittingExponent (units / denominator)
  let significand := roundQuotient units (denominator * twoPow exponent)
  if hs : significand < twoPow 53 then
    if he : exponent ≤ 2045 then
      some ⟨significand, exponent, hs, he, le_roundQuotient_fittingExponent units denominator⟩
    else none
  else if he : exponent + 1 ≤ 2045 then
    some ⟨twoPow 52, exponent + 1, one.significand_lt, he, .inr (Nat.le_refl _)⟩
  else none

theorem fittingExponent_units (magnitude : Magnitude) :
    fittingExponent magnitude.units = magnitude.exponent := by
  obtain ⟨significand, exponent, hs, -, hn⟩ := magnitude
  simp only [units]
  rcases hn with rfl | hn
  · by_cases hz : significand = 0
    · simp [fittingExponent, hz]
    · have := (Nat.log2_lt hz).2 hs
      simp only [fittingExponent, twoPow_zero, Nat.mul_one]
      omega
  · have hlog : (significand * twoPow exponent).log2 = 52 + exponent := by
      refine log2_eq_of_twoPow ?_ ?_
      · rw [twoPow_add]
        exact Nat.mul_le_mul_right _ hn
      · rw [Nat.add_right_comm, twoPow_add]
        exact Nat.mul_lt_mul_of_pos_right hs (twoPow_pos _)
    rw [fittingExponent, hlog]
    omega

/-- A quotient that is a magnitude is not changed. -/
theorem nearest?_eq_some {magnitude : Magnitude} {numerator denominator : Nat}
    (h : 0 < denominator) (heq : numerator * unitsInOne = magnitude.units * denominator) :
    nearest? numerator denominator = some magnitude := by
  have hquot : magnitude.units * denominator / denominator = magnitude.units :=
    Nat.mul_div_cancel _ h
  have hround : roundQuotient (magnitude.units * denominator)
      (denominator * twoPow magnitude.exponent) = magnitude.significand := by
    rw [units, Nat.mul_assoc, Nat.mul_comm (twoPow _) denominator]
    exact roundQuotient_mul (Nat.mul_pos h (twoPow_pos _)) _
  simp only [nearest?, heq, hquot, fittingExponent_units, hround, magnitude.significand_lt,
    magnitude.exponent_le, dite_true]

end Magnitude

end FormulaText
