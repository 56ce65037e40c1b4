/-!
# Sets of characters given by ranges of code points

A character property beyond ASCII is a table of ranges in ascending order. Membership walks the
table and stops at the first range that ends at the character or after it.
-/

namespace FormulaText.Character

/-- Whether a code point lies in one of the ranges, whose ends belong to them. -/
def inRanges : List (Nat × Nat) → Nat → Bool
  | [], _ => false
  | (first, last) :: ranges, code =>
    if code ≤ last then first ≤ code else inRanges ranges code

@[simp] theorem inRanges_nil (code : Nat) : inRanges [] code = false := rfl

theorem inRanges_cons (first last : Nat) (ranges : List (Nat × Nat)) (code : Nat) :
    inRanges ((first, last) :: ranges) code =
      if code ≤ last then decide (first ≤ code) else inRanges ranges code := rfl

end FormulaText.Character
