import FormulaText.Character.Ranges

/-!
# White space

The characters that separate tokens without being one: the Unicode property White_Space.
-/

namespace FormulaText.Character

def whiteSpaceRanges : List (Nat × Nat) :=
  [(0x85, 0x85), (0xa0, 0xa0), (0x1680, 0x1680), (0x2000, 0x200a), (0x2028, 0x2029),
   (0x202f, 0x202f), (0x205f, 0x205f), (0x3000, 0x3000)]

/-- Whether a character is skipped between tokens. -/
def isWhiteSpace (c : Char) : Bool :=
  if c.toNat < 0x80 then c = ' ' || (0x09 ≤ c.toNat && c.toNat ≤ 0x0d)
  else inRanges whiteSpaceRanges c.toNat

end FormulaText.Character
