import FormulaText.Proofs.Character.Classes
import FormulaText.Proofs.Grammar.Phrase

/-!
# Names with a meaning

Whether a name is a Greek letter or a function is seen from its lower case, in which the small
ASCII letters at its beginning stay as they are. No Greek letter is a function, a fraction or a
root.
-/

namespace FormulaText

namespace Text

open Character

theorem toNat_lt_of_isAlpha {c : Char} (h : c.isAlpha = true) : c.toNat < 0x80 := by
  have hcode := isAlpha_iff_toNat.1 h
  omega

/-- The lower case of an ASCII letter does not depend on where it stands. -/
theorem lowerInContext_of_isAlpha {c : Char} (h : c.isAlpha = true) (before after : List Char) :
    lowerInContext before c after = [c.toLower] := by
  have hne : c ≠ 'Σ' := by
    rintro rfl
    exact absurd h (by decide)
  rw [lowerInContext, if_neg hne, lower, if_pos (toNat_lt_of_isAlpha h)]

theorem lowerFrom_of_isAlpha {text : List Char} (h : ∀ c ∈ text, c.isAlpha = true)
    (before : List Char) : lowerFrom before text = text.map Char.toLower := by
  induction text generalizing before with
  | nil => rfl
  | cons c rest ih =>
    rw [lowerFrom, lowerInContext_of_isAlpha (h c List.mem_cons_self),
      ih fun other hother ↦ h other (List.mem_cons_of_mem _ hother)]
    rfl

theorem isAlpha_of_isLower {c : Char} (h : c.isLower = true) : c.isAlpha = true :=
  Bool.or_eq_true_iff.2 (.inr h)

theorem toLower_of_isLower {c : Char} (h : c.isLower = true) : c.toLower = c := by
  have hlow : c.val ≥ 'a'.val := of_decide_eq_true (Bool.and_eq_true_iff.1 h).1
  have hupper : ¬(c.val ≥ 'A'.val ∧ c.val ≤ 'Z'.val) := by
    intro hupper
    exact absurd (UInt32.le_trans hlow hupper.2) (by decide)
  exact dif_neg hupper

/-- Small ASCII letters at the beginning of a text stay there in lower case. -/
theorem isPrefix_lowerFrom {letters text : List Char} (hletters : ∀ c ∈ letters, c.isLower = true)
    (h : letters <+: text) (before : List Char) : letters <+: lowerFrom before text := by
  induction letters generalizing text before with
  | nil => exact List.nil_prefix
  | cons c letters ih =>
    obtain ⟨rest, rfl⟩ := h
    have hc := hletters c List.mem_cons_self
    have hrest := ih (fun other hother ↦ hletters other (List.mem_cons_of_mem _ hother))
      (List.prefix_append letters rest) (c :: before)
    rw [List.cons_append, lowerFrom, lowerInContext_of_isAlpha (isAlpha_of_isLower hc),
      toLower_of_isLower hc]
    exact List.cons_prefix_cons.2 ⟨rfl, hrest⟩

/-- A character is an ASCII letter if its lower case is. -/
theorem isAlpha_of_isLower_toLower {c : Char} (h : c.toLower.isLower = true) :
    c.isAlpha = true := by
  by_cases hupper : c.isUpper = true
  · exact Bool.or_eq_true_iff.2 (.inl hupper)
  · have hsame : c.toLower = c := dif_neg fun hbounds ↦ hupper (decide_eq_true hbounds)
    rw [hsame] at h
    exact isAlpha_of_isLower h

/-- Texts that are equal up to the case of ASCII letters are so in lower case. -/
theorem lowerCase_of_equalIgnoringAsciiCase {name word : String}
    (hword : word.toList.all Char.isLower = true) (h : equalIgnoringAsciiCase name word = true) :
    lowerCase name = word := by
  rw [List.all_eq_true] at hword
  have hlower : word.toList.map Char.toLower = word.toList := by
    rw [List.map_congr_left fun c hc ↦ toLower_of_isLower (hword c hc), List.map_id']
  rw [equalIgnoringAsciiCase, beq_iff_eq, hlower] at h
  have halpha : ∀ c ∈ name.toList, c.isAlpha = true := by
    intro c hc
    refine isAlpha_of_isLower_toLower (hword _ ?_)
    rw [← h]
    exact List.mem_map_of_mem hc
  rw [lowerCase, lowerFrom_of_isAlpha halpha, h, String.ofList_toList]

end Text

theorem lowerCase_commonFunctions :
    ∀ name ∈ commonFunctions, Text.lowerCase name = name := by
  decide

theorem isFunction_common_iff {name : String} :
    Vocabulary.common.isFunction name = true ↔ Text.lowerCase name ∈ commonFunctions := by
  rw [Vocabulary.common, Vocabulary.isFunction_withFunctions]
  constructor
  · rintro (hempty | ⟨added, hadded, hlower⟩)
    · contradiction
    · rw [hlower, lowerCase_commonFunctions added hadded]
      exact hadded
  · intro hmem
    exact .inr ⟨_, hmem, (lowerCase_commonFunctions _ hmem).symm⟩

theorem isGreekLetter_iff {name : String} :
    isGreekLetter name = true ↔ Text.lowerCase name ∈ greekLetters := by
  rw [isGreekLetter, List.contains_iff_mem]

theorem greekLetters_apart :
    ∀ name ∈ greekLetters, name ∉ commonFunctions ∧ name ≠ "frac" ∧ name ≠ "sqrt" := by
  decide

namespace Grammar

/-- A Greek letter stands for nothing else. -/
theorem roleOf_of_isGreekLetter {name : String} (h : isGreekLetter name = true) :
    roleOf .common name = .plain := by
  obtain ⟨hfunction, hfrac, hsqrt⟩ := greekLetters_apart _ (isGreekLetter_iff.1 h)
  have hnot (word : String) (hword : word.toList.all Char.isLower = true)
      (hne : Text.lowerCase name ≠ word) : Text.equalIgnoringAsciiCase name word = false := by
    rw [← Bool.not_eq_true]
    exact fun hequal ↦ hne (Text.lowerCase_of_equalIgnoringAsciiCase hword hequal)
  have hnotFunction : ¬Vocabulary.common.isFunction name = true :=
    fun hisFunction ↦ hfunction (isFunction_common_iff.1 hisFunction)
  rw [roleOf, hnot "frac" (by decide) hfrac, hnot "sqrt" (by decide) hsqrt]
  simp [hnotFunction]

end Grammar

end FormulaText
