import FormulaText.Character.Alphabetic
import FormulaText.Character.WhiteSpace

/-!
# Classes of characters that do not overlap

A letter is neither white space nor a digit nor one of the ASCII characters that stand for
themselves. So the end of a name is seen from the character after it alone.
-/

namespace FormulaText.Character

/-- A code point in a set lies in one of its ranges. -/
theorem exists_range_of_inRanges {ranges : List (Nat × Nat)} {code : Nat}
    (h : inRanges ranges code = true) : ∃ range ∈ ranges, range.1 ≤ code ∧ code ≤ range.2 := by
  induction ranges with
  | nil => simp at h
  | cons range ranges ih =>
    rw [inRanges_cons] at h
    split at h
    · next hle => exact ⟨range, List.mem_cons_self, of_decide_eq_true h, hle⟩
    · obtain ⟨other, hmem, hother⟩ := ih h
      exact ⟨other, List.mem_cons_of_mem _ hmem, hother⟩

def rangesApart (left right : List (Nat × Nat)) : Bool :=
  left.all fun a ↦ right.all fun b ↦ a.2 < b.1 || b.2 < a.1

theorem inRanges_eq_false_of_rangesApart {left right : List (Nat × Nat)} {code : Nat}
    (hapart : rangesApart left right = true) (h : inRanges left code = true) :
    inRanges right code = false := by
  rw [← Bool.not_eq_true]
  intro hright
  obtain ⟨a, ha, hlow, hhigh⟩ := exists_range_of_inRanges h
  obtain ⟨b, hb, hlow', hhigh'⟩ := exists_range_of_inRanges hright
  have hcases := List.all_eq_true.1 (List.all_eq_true.1 hapart a ha) b hb
  simp only [Bool.or_eq_true, decide_eq_true_eq] at hcases
  omega

theorem rangesApart_whiteSpace_alphabetic :
    rangesApart whiteSpaceRanges alphabeticRanges = true := by
  decide +kernel

theorem isAlpha_iff_toNat {c : Char} :
    c.isAlpha = true ↔ (0x41 ≤ c.toNat ∧ c.toNat ≤ 0x5a) ∨ (0x61 ≤ c.toNat ∧ c.toNat ≤ 0x7a) := by
  change (decide (c.val ≥ 'A'.val ∧ c.val ≤ 'Z'.val) ||
    (decide (c.val ≥ 'a'.val) && decide (c.val ≤ 'z'.val))) = true ↔ _
  simp only [Bool.or_eq_true, Bool.and_eq_true, decide_eq_true_eq]
  rfl

theorem isAlphabetic_of_isWhiteSpace {c : Char} (h : isWhiteSpace c = true) :
    isAlphabetic c = false := by
  unfold isWhiteSpace at h
  split at h
  · next hlt =>
    rw [isAlphabetic_of_lt hlt, ← Bool.not_eq_true, isAlpha_iff_toNat]
    simp only [Bool.or_eq_true, Bool.and_eq_true, decide_eq_true_eq] at h
    rcases h with rfl | ⟨hlow, hhigh⟩
    · decide
    · omega
  · next hge =>
    rw [isAlphabetic, if_neg hge]
    exact inRanges_eq_false_of_rangesApart rangesApart_whiteSpace_alphabetic h

theorem isWhiteSpace_of_isAlphabetic {c : Char} (h : isAlphabetic c = true) :
    isWhiteSpace c = false := by
  rw [← Bool.not_eq_true]
  intro hspace
  rw [isAlphabetic_of_isWhiteSpace hspace] at h
  contradiction

theorem isAlphabetic_of_isDigit {c : Char} (h : c.isDigit = true) : isAlphabetic c = false := by
  obtain ⟨hlow, hhigh⟩ := Char.isDigit_iff_toNat.1 h
  simp only [Char.reduceToNat] at hlow hhigh
  rw [isAlphabetic_of_lt (by omega), ← Bool.not_eq_true, isAlpha_iff_toNat]
  omega

theorem isDigit_of_isAlphabetic {c : Char} (h : isAlphabetic c = true) : c.isDigit = false := by
  rw [← Bool.not_eq_true]
  intro hdigit
  rw [isAlphabetic_of_isDigit hdigit] at h
  contradiction

theorem isWhiteSpace_of_isDigit {c : Char} (h : c.isDigit = true) : isWhiteSpace c = false := by
  obtain ⟨hlow, hhigh⟩ := Char.isDigit_iff_toNat.1 h
  simp only [Char.reduceToNat] at hlow hhigh
  have hne : c ≠ ' ' := by
    rintro rfl
    simp at hlow
  rw [isWhiteSpace, if_pos (by omega)]
  simp only [hne, decide_false, Bool.false_or, Bool.and_eq_false_iff, decide_eq_false_iff_not]
  omega

/-- A letter differs from every character that is none. -/
theorem ne_of_isAlphabetic {c other : Char} (h : isAlphabetic c = true)
    (hother : isAlphabetic other = false) : c ≠ other := by
  rintro rfl
  rw [h] at hother
  contradiction

theorem isAlphabetic_of_isAlpha {c : Char} (h : c.isAlpha = true) : isAlphabetic c = true := by
  have hcode := isAlpha_iff_toNat.1 h
  rw [isAlphabetic_of_lt (by omega)]
  exact h

theorem isAlpha_eq_false {c : Char} (h : isAlphabetic c = false) : c.isAlpha = false := by
  rw [← Bool.not_eq_true]
  intro halpha
  rw [isAlphabetic_of_isAlpha halpha] at h
  contradiction

end FormulaText.Character
