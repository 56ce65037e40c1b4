import FormulaText.Number.Decimal

/-!
# The shortest decimal text of a number

A finite number is written with the fewest digits that read back to it, and of the texts with so
few digits with the nearest one. `nearest?_shortest` says that what is written reads back.
-/

namespace FormulaText

namespace Magnitude

/-- The point nearest to a magnitude, among the multiples of a power of ten next to it that read
back to it. Of two at the same distance it is the upper one. -/
def onGrid? (magnitude : Magnitude) (exponent : Int) : Option Decimal :=
  let numerator := magnitude.units * tenPow (-exponent).toNat
  let denominator := unitsInOne * tenPow exponent.toNat
  let below : Decimal := ⟨numerator / denominator, exponent⟩
  let above : Decimal := ⟨numerator / denominator + 1, exponent⟩
  let candidates :=
    if 2 * (numerator % denominator) < denominator then [below, above] else [above, below]
  candidates.find? fun decimal ↦ decimal.nearest? = some magnitude

/-- A power of ten that exceeds a magnitude, given by its exponent. -/
def coarsestGrid (magnitude : Magnitude) : Int :=
  ((magnitude.units.log2 : Int) - 1072) * 30103 / 100000 + 1

/-- The grids from the coarsest that can hold the decimal number to one of more than 17 digits. -/
def grids (magnitude : Magnitude) : List Int :=
  (List.range 24).map fun (step : Nat) ↦ magnitude.coarsestGrid - step

def exact (magnitude : Magnitude) : Decimal := ⟨magnitude.units * fivePow places, -(places : Int)⟩

def shortest (magnitude : Magnitude) : Decimal :=
  if magnitude = zero then ⟨0, 0⟩
  else (magnitude.grids.findSome? magnitude.onGrid?).getD magnitude.exact

theorem nearest?_of_onGrid? {magnitude : Magnitude} {exponent : Int} {decimal : Decimal}
    (h : magnitude.onGrid? exponent = some decimal) : decimal.nearest? = some magnitude := by
  simpa using List.find?_some h

theorem nearest?_exact (magnitude : Magnitude) : magnitude.exact.nearest? = some magnitude := by
  apply nearest?_eq_some (Decimal.denominator_pos _)
  simp only [Decimal.numerator, Decimal.denominator, exact, unitsInOne, Int.toNat_neg_natCast,
    Int.neg_neg, Int.toNat_natCast]
  rw [tenPow_zero, Nat.mul_one, Nat.mul_assoc, tenPow_eq]

/-- The shortest decimal number reads back. -/
theorem nearest?_shortest (magnitude : Magnitude) :
    magnitude.shortest.nearest? = some magnitude := by
  unfold shortest
  split
  · next h =>
    subst h
    decide +kernel
  · cases hfound : magnitude.grids.findSome? magnitude.onGrid? with
    | none => exact nearest?_exact magnitude
    | some decimal =>
      obtain ⟨exponent, -, h⟩ := List.exists_of_findSome?_eq_some hfound
      exact nearest?_of_onGrid? h

end Magnitude

namespace Binary64

def signText (negative : Bool) : String := if negative then "-" else ""

/-- The shortest text in positional notation, however long its run of zeros. A whole number has
no point. -/
def positional : Binary64 → String
  | .finite negative magnitude => signText negative ++ magnitude.shortest.positional
  | .infinite negative => signText negative ++ "inf"
  | .nan => "NaN"

/-- Whether a magnitude is written in scientific notation where both notations are in use: it is
at least `10 ^ 16`, or less than `10 ^ -4` and not zero. -/
def isScientific (magnitude : Magnitude) : Bool :=
  tenPow 16 * Magnitude.unitsInOne ≤ magnitude.units ||
    (magnitude ≠ .zero && tenPow 4 * magnitude.units < Magnitude.unitsInOne)

/-- The shortest text that shows at least one digit after the point or an exponent. -/
def fractional : Binary64 → String
  | .finite negative magnitude =>
    let decimal := magnitude.shortest
    signText negative ++
      if isScientific magnitude then decimal.scientific
      else if decimal.exponent < 0 then decimal.positional
      else decimal.positional ++ ".0"
  | .infinite negative => signText negative ++ "inf"
  | .nan => "NaN"

end Binary64

end FormulaText
