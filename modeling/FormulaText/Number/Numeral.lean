import FormulaText.Number.Decimal

/-!
# Reading numerals

A numeral of a formula is digits with at most one point among them. The full notation adds a sign,
an exponent, and names for the infinities and for a value that is not a number. Either way the
text is read as a decimal number first, and that is rounded once.
-/

namespace FormulaText

namespace Decimal

/-- Whether a text is digits with at most one point, and at least one digit. -/
def isNumeral (text : List Char) : Bool :=
  text.any Char.isDigit && text.all (fun c ↦ c.isDigit || c == '.') && text.count '.' ≤ 1

def ofNumeral? (text : List Char) : Option Decimal :=
  if isNumeral text then
    let whole := text.takeWhile Char.isDigit
    let fraction := (text.dropWhile Char.isDigit).drop 1
    some ⟨Nat.ofDigitChars 10 (whole ++ fraction) 0, -(fraction.length : Int)⟩
  else none

theorem isSome_ofNumeral? (text : List Char) : (ofNumeral? text).isSome = isNumeral text := by
  simp only [ofNumeral?]
  split <;> simp_all

theorem isDigit_or_point_of_isNumeral {numeral : List Char} (h : isNumeral numeral = true) :
    ∀ c ∈ numeral, c.isDigit = true ∨ c = '.' := by
  simp only [isNumeral, Bool.and_eq_true] at h
  intro c hc
  simpa using List.all_eq_true.1 h.1.2 c hc

/-- The whole number that digits with an optional sign write. -/
def readExponent? (text : List Char) : Option Int :=
  let (sign, digits) := match text with
    | '-' :: digits => (-1, digits)
    | '+' :: digits => (1, digits)
    | digits => (1, digits)
  if digits.isEmpty || digits.any (!·.isDigit) then none
  else some (sign * (Nat.ofDigitChars 10 digits 0 : Int))

/-- A numeral with an optional exponent. -/
def ofText? (text : List Char) : Option Decimal := do
  let isMark : Char → Bool := fun c ↦ c == 'e' || c == 'E'
  let decimal ← ofNumeral? (text.takeWhile (!isMark ·))
  match text.dropWhile (!isMark ·) with
  | [] => some decimal
  | _ :: exponentText =>
    let exponent ← readExponent? exponentText
    some ⟨decimal.digits, decimal.exponent + exponent⟩

/-- The same decimal number, or one that rounds alike where the exponent takes the value far
beyond all magnitudes. -/
def clampExponent (decimal : Decimal) : Decimal :=
  let lowest := -(400 + (Nat.toDigits 10 decimal.digits).length : Int)
  if decimal.digits = 0 then ⟨0, 0⟩ else ⟨decimal.digits, max lowest (min 400 decimal.exponent)⟩

end Decimal

namespace Binary64

/-- The number nearest to a text with an optional sign. -/
def ofText? (text : String) : Option Binary64 :=
  let (negative, body) := match text.toList with
    | '-' :: body => (true, body)
    | '+' :: body => (false, body)
    | body => (false, body)
  match String.ofList (body.map Char.toLower) with
  | "inf" | "infinity" => some (.infinite negative)
  | "nan" => some .nan
  | _ => (Decimal.ofText? body).map fun decimal ↦ decimal.clampExponent.toBinary64 negative

end Binary64

end FormulaText
