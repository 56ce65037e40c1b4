import FormulaText.Number.Power

/-!
# Binary floating-point numbers

The numbers of a formula are binary64: a sign with a magnitude of at most 53 significant binary
digits, the two infinities, and a value that is not a number. Every finite magnitude is a whole
number of units of `2 ^ -1074`, and it has exactly one representation here.
-/

namespace FormulaText

/-- The magnitude `significand * 2 ^ exponent` in units of `2 ^ -1074`. The exponent is zero
unless the significand has all 53 binary digits. -/
structure Magnitude where
  significand : Nat
  exponent : Nat
  significand_lt : significand < twoPow 53
  exponent_le : exponent ≤ 2045
  normal : exponent = 0 ∨ twoPow 52 ≤ significand
deriving DecidableEq

namespace Magnitude

/-- The number of binary places after the point that a magnitude may have. -/
def places : Nat := 1074

def unitsInOne : Nat := twoPow places

def units (magnitude : Magnitude) : Nat := magnitude.significand * twoPow magnitude.exponent

def zero : Magnitude := ⟨0, 0, by decide, by decide, .inl rfl⟩

def one : Magnitude := ⟨twoPow 52, 1022, by decide, by decide, .inr (by decide)⟩

end Magnitude

/-- A binary64 number. Zero has two signs. -/
inductive Binary64 where
  | finite (negative : Bool) (magnitude : Magnitude)
  | infinite (negative : Bool)
  | nan
deriving DecidableEq

namespace Binary64

def zero : Binary64 := .finite false .zero

def one : Binary64 := .finite false .one

def neg : Binary64 → Binary64
  | .finite negative magnitude => .finite (!negative) magnitude
  | .infinite negative => .infinite (!negative)
  | .nan => .nan

def isZero : Binary64 → Bool
  | .finite _ magnitude => magnitude = .zero
  | _ => false

/-- Whether a number is less than zero. The negative zero is not, nor is a value that is not a
number. -/
def isNegative : Binary64 → Bool
  | .finite negative magnitude => negative && magnitude ≠ .zero
  | .infinite negative => negative
  | .nan => false

/-- Numeric equality: both zeros are equal, and a value that is not a number equals nothing. -/
def equal : Binary64 → Binary64 → Bool
  | .finite negative magnitude, .finite negative' magnitude' =>
    magnitude = magnitude' && (negative == negative' || magnitude = .zero)
  | .infinite negative, .infinite negative' => negative == negative'
  | _, _ => false

def withoutSignOfZero (x : Binary64) : Binary64 := if x.isZero then zero else x

def isFinite : Binary64 → Bool
  | .finite _ _ => true
  | _ => false

theorem equal_self_iff (x : Binary64) : x.equal x = true ↔ x ≠ .nan := by
  cases x <;> simp [equal]

theorem equal_comm (x y : Binary64) : x.equal y = y.equal x := by
  cases x <;> cases y <;> grind [equal]

theorem equal_trans {x y z : Binary64} (hxy : x.equal y) (hyz : y.equal z) : x.equal z := by
  cases x <;> cases y <;> cases z <;> grind [equal]

theorem equal_neg (x y : Binary64) : x.neg.equal y.neg = x.equal y := by
  cases x <;> cases y <;> grind [equal, neg]

/-- Equal numbers differ in the sign of zero at most. -/
theorem withoutSignOfZero_eq_of_equal {x y : Binary64} (h : x.equal y) :
    x.withoutSignOfZero = y.withoutSignOfZero := by
  cases x <;> cases y <;> grind [equal, withoutSignOfZero, isZero]

end Binary64

end FormulaText
