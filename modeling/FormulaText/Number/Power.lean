/-!
# Powers of two, five and ten

The scales between the binary and the decimal notation of numbers.
-/

namespace FormulaText

def twoPow (n : Nat) : Nat := Nat.pow 2 n

def fivePow (n : Nat) : Nat := Nat.pow 5 n

def tenPow (n : Nat) : Nat := Nat.pow 10 n

@[simp] theorem twoPow_zero : twoPow 0 = 1 := rfl

@[simp] theorem tenPow_zero : tenPow 0 = 1 := rfl

theorem twoPow_pos (n : Nat) : 0 < twoPow n := Nat.two_pow_pos n

theorem tenPow_pos (n : Nat) : 0 < tenPow n := Nat.pow_pos (by decide)

theorem twoPow_add (m n : Nat) : twoPow (m + n) = twoPow m * twoPow n := Nat.pow_add 2 m n

theorem tenPow_add (m n : Nat) : tenPow (m + n) = tenPow m * tenPow n := Nat.pow_add 10 m n

theorem tenPow_eq (n : Nat) : tenPow n = fivePow n * twoPow n := Nat.mul_pow 5 2 n

theorem twoPow_log2_le {n : Nat} (h : n ≠ 0) : twoPow n.log2 ≤ n := Nat.log2_self_le h

/-- The binary logarithm is given by the powers of two that a number lies between. -/
theorem log2_eq_of_twoPow {n k : Nat} (hlow : twoPow k ≤ n) (hhigh : n < twoPow (k + 1)) :
    n.log2 = k :=
  (Nat.log2_eq_iff (Nat.ne_of_gt (Nat.lt_of_lt_of_le (twoPow_pos k) hlow))).2 ⟨hlow, hhigh⟩

end FormulaText
