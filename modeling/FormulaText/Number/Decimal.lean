import FormulaText.Number.Rounding

/-!
# Decimal numbers

A decimal number is a whole number of tenths, hundredths, and so on. It stands between a binary
number and its text: it is read by rounding, and it is written in positional or in scientific
notation.
-/

namespace FormulaText

/-- The number `digits * 10 ^ exponent`. -/
structure Decimal where
  digits : Nat
  exponent : Int
deriving DecidableEq

namespace Decimal

def numerator (decimal : Decimal) : Nat := decimal.digits * tenPow decimal.exponent.toNat

def denominator (decimal : Decimal) : Nat := tenPow (-decimal.exponent).toNat

theorem denominator_pos (decimal : Decimal) : 0 < decimal.denominator :=
  tenPow_pos _

/-- The magnitude nearest to a decimal number, unless that is too large for one. -/
def nearest? (decimal : Decimal) : Option Magnitude :=
  Magnitude.nearest? decimal.numerator decimal.denominator

def toBinary64 (negative : Bool) (decimal : Decimal) : Binary64 :=
  decimal.nearest?.elim (.infinite negative) (.finite negative)

/-- The digits without an exponent: zeros fill the places up to the point on either side. -/
def positional (decimal : Decimal) : String :=
  match decimal.exponent with
  | .ofNat zeros => String.ofList (Nat.toDigits 10 decimal.digits ++ List.replicate zeros '0')
  | .negSucc places =>
    let scale := tenPow (places + 1)
    String.ofList (Nat.toDigits 10 (decimal.digits / scale) ++
      '.' :: (Nat.toDigits 10 (decimal.digits % scale)).leftpad (places + 1) '0')

/-- One digit before the point, the others after it, and the power of ten. -/
def scientific (decimal : Decimal) : String :=
  let digits := Nat.toDigits 10 decimal.digits
  let fraction := if digits.tail.isEmpty then "" else "." ++ String.ofList digits.tail
  let exponent := decimal.exponent + (digits.length - 1 : Nat)
  String.ofList (digits.take 1) ++ fraction ++ "e" ++ exponent.repr

end Decimal

end FormulaText
