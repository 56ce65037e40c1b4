import FormulaText.Proofs.Vocabulary.Names
import Mathlib.Data.List.Sort
import Mathlib.Data.String.Basic

/-!
# Functions added in batches

Functions are added to a vocabulary name by name. The names are kept in strict order, so what comes
of some batches is settled by the names that are there in the end. The order of the batches, that of
the names in a batch, and repetitions do not matter.
-/

namespace FormulaText.Vocabulary

variable {vocabulary other : Vocabulary} {names : List String} {batches others : List (List String)}
  {name word : String}

def withBatches (vocabulary : Vocabulary) (batches : List (List String)) : Vocabulary :=
  batches.foldl withFunctions vocabulary

/-- Whether a word is the lower case of a name in some batch. -/
def Adds (batches : List (List String)) (word : String) : Prop :=
  ∃ batch ∈ batches, ∃ added ∈ batch, Text.lowerCase added = word

theorem withBatches_eq (vocabulary : Vocabulary) (batches : List (List String)) :
    vocabulary.withBatches batches = vocabulary.withFunctions batches.flatten :=
  List.foldl_flatten.symm

theorem mem_functions_withBatches :
    word ∈ (vocabulary.withBatches batches).functions ↔
      word ∈ vocabulary.functions ∨ Adds batches word := by
  rw [withBatches_eq, mem_functions_withFunctions, Adds]
  simp only [List.mem_flatten]
  grind

theorem isFunction_withBatches :
    (vocabulary.withBatches batches).isFunction name = true ↔
      vocabulary.isFunction name = true ∨ Adds batches (Text.lowerCase name) := by
  simp only [isFunction, List.contains_iff_mem, mem_functions_withBatches]

/-! ## Names in order -/

/-- Whether the names of a vocabulary stand in strict order. -/
def IsOrdered (vocabulary : Vocabulary) : Prop := vocabulary.functions.Pairwise (· < ·)

theorem pairwise_insertName (h : names.Pairwise (· < ·)) (name : String) :
    (insertName name names).Pairwise (· < ·) := by
  induction names with
  | nil => exact List.pairwise_singleton _ name
  | cons head names ih =>
    obtain ⟨hhead, hnames⟩ := List.pairwise_cons.1 h
    rw [insertName]
    split
    · exact h
    · next hne =>
      split
      · next hlt =>
        refine List.pairwise_cons.2 ⟨List.forall_mem_cons.2 ⟨hlt, fun later hlater ↦ ?_⟩, h⟩
        exact lt_trans hlt (hhead later hlater)
      · next hnot =>
        have hlt : head < name := lt_of_le_of_ne (not_lt.1 hnot) (Ne.symm hne)
        refine List.pairwise_cons.2 ⟨fun later hlater ↦ ?_, ih hnames⟩
        obtain rfl | hlater := mem_insertName.1 hlater
        · exact hlt
        · exact hhead later hlater

theorem IsOrdered.addFunction (h : IsOrdered vocabulary) (name : String) :
    IsOrdered (vocabulary.addFunction name) :=
  pairwise_insertName h _

theorem IsOrdered.withFunctions (h : IsOrdered vocabulary) (names : List String) :
    IsOrdered (vocabulary.withFunctions names) := by
  induction names generalizing vocabulary with
  | nil => exact h
  | cons head names ih => exact ih (h.addFunction head)

theorem isOrdered_common : IsOrdered common := by
  have hempty : IsOrdered empty := List.Pairwise.nil
  exact hempty.withFunctions commonFunctions

/-- Vocabularies in order with the same names are the same. -/
theorem IsOrdered.eq_of_mem_iff (h : IsOrdered vocabulary) (hother : IsOrdered other)
    (hmem : ∀ word, word ∈ vocabulary.functions ↔ word ∈ other.functions) :
    vocabulary = other := by
  have hfunctions := List.Pairwise.eq_of_mem_iff h hother hmem
  cases vocabulary
  cases other
  exact congrArg Vocabulary.mk hfunctions

/-- Batches that add the same words come to the same. -/
theorem IsOrdered.withBatches_congr (h : IsOrdered vocabulary)
    (hadds : ∀ word, Adds batches word ↔ Adds others word) :
    vocabulary.withBatches batches = vocabulary.withBatches others := by
  refine eq_of_mem_iff ?_ ?_ fun word ↦ ?_
  · rw [Vocabulary.withBatches_eq]
    exact h.withFunctions _
  · rw [Vocabulary.withBatches_eq]
    exact h.withFunctions _
  · rw [mem_functions_withBatches, mem_functions_withBatches, hadds]

end FormulaText.Vocabulary
