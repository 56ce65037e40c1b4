import FormulaText.Latex.Scanner
import FormulaText.Proofs.Scan.Pieces
import FormulaText.Proofs.Vocabulary.Names

/-!
# Control words that the table does not hold

Whether a control word is kept as it is depends on its letters alone. Names of Greek letters and of
functions are kept, because no control word of the table begins one of them.
-/

namespace FormulaText.Latex

open Scan

/-- Whether a backslash and a word are read as that control word. -/
def isControlName (name : List Char) : Bool :=
  isWord name && (lexemeAt? table ('\\' :: name)).isNone

theorem isWord_of_isControlName {name : List Char} (h : isControlName name = true) :
    isWord name = true := by
  rw [isControlName, Bool.and_eq_true] at h
  exact h.1

/-- A fixed text that begins with a backslash goes on with letters only, or not with a letter. -/
def keyIsWhole (key : List Char) : Bool :=
  match key with
  | '\\' :: letters => letters.all Char.isLower ||
      letters.head?.any fun c ↦ !Character.isAlphabetic c
  | _ => true

theorem keyIsWhole_lexemes :
    ∀ entry ∈ lexemes, keyIsWhole entry.1.toList = true ∧ entry.1.toList ∉ [[], ['\\']] := by
  decide

/-- A key that begins with a backslash, and whose next character is no letter, begins no text of a
backslash and a word. -/
theorem keyIsWhole_cases {letters text : List Char} (h : keyIsWhole ('\\' :: letters) = true)
    (hne : letters ≠ []) (hbegins : letters <+: text)
    (htext : text.head?.all Character.isAlphabetic = true) :
    letters.all Char.isLower = true := by
  rw [keyIsWhole, Bool.or_eq_true] at h
  refine h.resolve_right fun hhead ↦ ?_
  obtain ⟨c, letters, rfl⟩ := List.exists_cons_of_ne_nil hne
  obtain ⟨rest, rfl⟩ := hbegins
  simp only [List.head?_cons, List.cons_append, Option.any_some, Option.all_some,
    Bool.not_eq_true'] at hhead htext
  rw [hhead] at htext
  contradiction

theorem head?_all_of_isWord {name : List Char} (h : isWord name = true) (rest : List Char) :
    (name ++ rest).head?.all Character.isAlphabetic = true := by
  obtain ⟨c, letters, rfl, hc⟩ := exists_cons_of_isWord h
  exact hc

/-- A key of the table that begins a text of a backslash, a word and a rest without a letter is no
longer than the word. -/
theorem key_isPrefix_iff {entry : String × Lexeme} (hentry : entry ∈ lexemes)
    {name rest : List Char} (hname : isWord name = true)
    (hrest : rest.head?.all (fun c ↦ !Character.isAlphabetic c) = true) :
    entry.1.toList <+: '\\' :: (name ++ rest) ↔ entry.1.toList <+: '\\' :: name := by
  obtain ⟨hwhole, hne⟩ := keyIsWhole_lexemes entry hentry
  constructor
  · intro h
    obtain ⟨tail, htail⟩ := h
    cases hkey : entry.1.toList with
    | nil => exact List.nil_prefix
    | cons first letters =>
      rw [hkey, List.cons_append, List.cons.injEq] at htail
      obtain ⟨rfl, htail⟩ := htail
      rw [hkey] at hwhole hne
      have hletters := keyIsWhole_cases hwhole (by simpa using hne) ⟨tail, htail⟩
        (head?_all_of_isWord hname rest)
      have halphabetic : ∀ c ∈ letters, Character.isAlphabetic c = true := by
        intro c hc
        exact Character.isAlphabetic_of_isAlpha
          (Text.isAlpha_of_isLower (List.all_eq_true.1 hletters c hc))
      -- letters cannot go beyond the word
      have hword := wordAt_append hname hrest
      rw [← htail, wordAt, List.takeWhile_append_of_pos halphabetic] at hword
      refine List.cons_prefix_cons.2 ⟨rfl, ?_⟩
      rw [← hword]
      exact List.prefix_append _ _
  · rintro ⟨tail, htail⟩
    exact ⟨tail ++ rest, by rw [← List.append_assoc, htail, List.cons_append]⟩

/-- What follows a control word without a letter does not matter for it. -/
theorem lexemeAt?_control {name rest : List Char} (hname : isWord name = true)
    (hrest : rest.head?.all (fun c ↦ !Character.isAlphabetic c) = true) :
    lexemeAt? table ('\\' :: (name ++ rest)) = lexemeAt? table ('\\' :: name) := by
  refine lexemeAt?_congr ?_ ?_
  · intro entry hentry
    rw [Bool.eq_iff_iff, List.isPrefixOf_iff_prefix, List.isPrefixOf_iff_prefix]
    exact key_isPrefix_iff hentry hname hrest
  · intro entry hentry hkey
    obtain ⟨tail, htail⟩ := (key_isPrefix_iff hentry hname hrest).1 hkey
    have hwhole : '\\' :: (name ++ rest) = entry.1.toList ++ (tail ++ rest) := by
      rw [← List.append_assoc, htail, List.cons_append]
    rw [hwhole, ← htail, List.drop_left, List.drop_left]
    cases tail with
    | cons c tail => rfl
    | nil =>
      cases rest with
      | nil => rfl
      | cons c rest =>
        have hc : Character.isAlphabetic c = false := by simpa using hrest
        simp [Character.isAlpha_eq_false hc]

theorem isControlName_of_lexemeAt? {name rest : List Char} (hname : isWord name = true)
    (hrest : rest.head?.all (fun c ↦ !Character.isAlphabetic c) = true)
    (h : lexemeAt? table ('\\' :: (name ++ rest)) = none) : isControlName name = true := by
  rw [lexemeAt?_control hname hrest] at h
  rw [isControlName, hname, h]
  rfl

/-- No name of a letter or a function goes on from a control word of the table. -/
theorem keys_not_begin_names :
    ∀ entry ∈ lexemes, entry.1.toList.tail.all Char.isLower = true →
      entry.1.toList.head? = some '\\' →
        ∀ name ∈ greekLetters ++ "sqrt" :: commonFunctions,
          entry.1.toList.tail.isPrefixOf name.toList = false := by
  decide

/-- The names of letters and functions are kept as they are, in any spelling. -/
theorem isControlName_of_lowerCase {name : String} (hword : isWord name.toList = true)
    (h : Text.lowerCase name ∈ greekLetters ++ "sqrt" :: commonFunctions) :
    isControlName name.toList = true := by
  rw [isControlName, hword, Bool.true_and, Option.isNone_iff_eq_none]
  refine lexemeAt?_eq_none fun entry hentry ↦ ?_
  rw [← Bool.not_eq_true, List.isPrefixOf_iff_prefix]
  rintro ⟨rest, hrest⟩
  obtain ⟨hwhole, hne⟩ := keyIsWhole_lexemes entry hentry
  have hapart := keys_not_begin_names entry hentry
  cases hkey : entry.1.toList with
  | nil => simp [hkey] at hne
  | cons first letters =>
    rw [hkey, List.cons_append, List.cons.injEq] at hrest
    obtain ⟨rfl, hrest⟩ := hrest
    rw [hkey] at hwhole hne hapart
    have hhead := head?_all_of_isWord hword []
    rw [List.append_nil] at hhead
    have hletters := keyIsWhole_cases hwhole (by simpa using hne) ⟨rest, hrest⟩ hhead
    have hlower := Text.isPrefix_lowerFrom (List.all_eq_true.1 hletters) ⟨rest, hrest⟩ []
    have hnot := hapart hletters rfl _ h
    rw [Text.lowerCase, String.toList_ofList, List.tail_cons, ← Bool.not_eq_true,
      List.isPrefixOf_iff_prefix] at hnot
    exact hnot hlower

/-- A function is kept as a control word. -/
theorem isControlName_of_function {name : String} (hword : isWord name.toList = true)
    (hrole : Grammar.roleOf .common name = .function) : isControlName name.toList = true := by
  refine isControlName_of_lowerCase hword (List.mem_append_right _ (List.mem_cons_of_mem _ ?_))
  rw [← isFunction_common_iff]
  unfold Grammar.roleOf at hrole
  split at hrole
  · contradiction
  split at hrole
  · contradiction
  split at hrole
  · assumption
  · contradiction

end FormulaText.Latex
