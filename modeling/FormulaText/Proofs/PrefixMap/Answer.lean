import FormulaText.Proofs.PrefixMap.Longest
import Mathlib.Data.List.Induction

/-!
# What a list of entries answers

A list of entries says what a prefix map made of it has to answer, without a word on how the map
finds it: the longest key that the text begins with, and the value that stands last for this key.
There is exactly one such answer, and its length ends between two characters of the text.
-/

namespace FormulaText

namespace PrefixMap

variable {V : Type} {entries : List (String × V)} {text : List Char}

/-- The value that stands last for a key. -/
def lastValue? (entries : List (String × V)) (key : String) : Option V :=
  (entries.reverse.find? (·.1 = key)).map (·.2)

theorem lastValue?_eq (entries : List (String × V)) (key : String) :
    lastValue? entries key = (entries.filter (·.1 = key)).getLast?.map (·.2) := by
  rw [lastValue?, ← List.head?_filter, List.filter_reverse, List.head?_reverse]

theorem lastValue?_append (entries extra : List (String × V)) (key : String) :
    lastValue? (entries ++ extra) key = (lastValue? extra key).or (lastValue? entries key) := by
  rw [lastValue?, List.reverse_append, List.find?_append, Option.map_or, lastValue?, lastValue?]

theorem lastValue?_singleton (entry : String × V) (key : String) :
    lastValue? [entry] key = if entry.1 = key then some entry.2 else none := by
  by_cases hkey : entry.1 = key <;> simp [lastValue?, hkey]

theorem lastValue?_concat (entries : List (String × V)) (entry : String × V) (key : String) :
    lastValue? (entries ++ [entry]) key =
      if entry.1 = key then some entry.2 else lastValue? entries key := by
  rw [lastValue?_append, lastValue?_singleton]
  by_cases hkey : entry.1 = key <;> simp [hkey]

theorem lastValue?_cons (entry : String × V) (entries : List (String × V)) (key : String) :
    lastValue? (entry :: entries) key =
      (lastValue? entries key).or (if entry.1 = key then some entry.2 else none) := by
  rw [← List.singleton_append, lastValue?_append, lastValue?_singleton]

theorem lastValue?_eq_none {key : String} (h : ∀ entry ∈ entries, entry.1 ≠ key) :
    lastValue? entries key = none := by
  rw [lastValue?, Option.map_eq_none_iff, List.find?_eq_none]
  simpa using h

theorem exists_mem_of_lastValue? {key : String} {value : V}
    (h : lastValue? entries key = some value) : (key, value) ∈ entries := by
  obtain ⟨entry, hfind, rfl⟩ := Option.map_eq_some_iff.1 h
  have hkey : entry.1 = key := by simpa using List.find?_some hfind
  exact hkey ▸ List.mem_reverse.1 (List.mem_of_find?_eq_some hfind)

theorem lastValue?_of_mem {entry : String × V} (h : entry ∈ entries) :
    ∃ value, lastValue? entries entry.1 = some value := by
  have hfound : (entries.reverse.find? (·.1 = entry.1)).isSome :=
    List.find?_isSome.2 ⟨entry, List.mem_reverse.2 h, by simp⟩
  obtain ⟨found, hfind⟩ := Option.isSome_iff_exists.1 hfound
  exact ⟨found.2, by rw [lastValue?, hfind, Option.map_some]⟩

/-- What a map of some entries has to answer about a text: the length and the last value of a key
that the text begins with, where no entry has a longer such key. -/
def IsAnswer (entries : List (String × V)) (text : List Char) : Option (Nat × V) → Prop
  | none => ∀ entry ∈ entries, ¬entry.1.toList <+: text
  | some (bytes, value) => ∃ key : String, key.toList <+: text ∧ key.utf8ByteSize = bytes ∧
      lastValue? entries key = some value ∧
      ∀ entry ∈ entries, entry.1.toList <+: text → entry.1.utf8ByteSize ≤ bytes

/-- Two keys of the same length that one text begins with are the same. -/
theorem eq_of_isPrefix {key other : String} (hkey : key.toList <+: text)
    (hother : other.toList <+: text) (hsize : key.utf8ByteSize = other.utf8ByteSize) :
    key = other := by
  rw [← length_utf8Bytes_toList, ← length_utf8Bytes_toList] at hsize
  have hsame : utf8Bytes key.toList = utf8Bytes other.toList :=
    (List.prefix_of_prefix_length_le (utf8Bytes_isPrefix_iff.2 hkey)
      (utf8Bytes_isPrefix_iff.2 hother) (Nat.le_of_eq hsize)).eq_of_length hsize
  exact eq_of_utf8Bytes hsame

theorem IsAnswer.unique {answer other : Option (Nat × V)} (hanswer : IsAnswer entries text answer)
    (hother : IsAnswer entries text other) : answer = other := by
  match answer, other with
  | none, none => rfl
  | none, some (bytes, value) =>
    obtain ⟨key, hkey, -, hvalue, -⟩ := hother
    exact absurd hkey (hanswer _ (exists_mem_of_lastValue? hvalue))
  | some (bytes, value), none =>
    obtain ⟨key, hkey, -, hvalue, -⟩ := hanswer
    exact absurd hkey (hother _ (exists_mem_of_lastValue? hvalue))
  | some (bytes, value), some (count, held) =>
    obtain ⟨key, hkey, rfl, hvalue, hlongest⟩ := hanswer
    obtain ⟨word, hword, rfl, hheld, hlongest'⟩ := hother
    have hsize : key.utf8ByteSize = word.utf8ByteSize := Nat.le_antisymm
      (hlongest' _ (exists_mem_of_lastValue? hvalue) hkey)
      (hlongest _ (exists_mem_of_lastValue? hheld) hword)
    obtain rfl := eq_of_isPrefix hkey hword hsize
    rw [hvalue] at hheld
    rw [Option.some.inj hheld]

/-- The length in an answer ends between two characters. -/
theorem IsAnswer.isValid {bytes : Nat} {value : V} {query : String}
    (h : IsAnswer entries query.toList (some (bytes, value))) :
    (⟨bytes⟩ : String.Pos.Raw).IsValid query := by
  obtain ⟨key, ⟨rest, hrest⟩, rfl, -⟩ := h
  refine String.Pos.Raw.isValid_iff_exists_append.2 ⟨key, String.ofList rest, ?_, rfl⟩
  rw [← String.toList_inj, String.toList_append, String.toList_ofList, hrest]

/-- What is answered without the last entry is still answered if its key is shorter, or not one
that the text begins with. -/
theorem IsAnswer.concat {bytes : Nat} {value : V} (h : IsAnswer entries text (some (bytes, value)))
    {entry : String × V} (hentry : entry.1.toList <+: text → entry.1.utf8ByteSize < bytes) :
    IsAnswer (entries ++ [entry]) text (some (bytes, value)) := by
  obtain ⟨key, hkey, hsize, hvalue, hlongest⟩ := h
  refine ⟨key, hkey, hsize, ?_, ?_⟩
  · have hne : entry.1 ≠ key := by
      rintro rfl
      exact absurd hsize (Nat.ne_of_lt (hentry hkey))
    rw [lastValue?_concat, if_neg hne, hvalue]
  · rw [List.forall_mem_append, List.forall_mem_singleton]
    exact ⟨hlongest, fun hbegins ↦ Nat.le_of_lt (hentry hbegins)⟩

/-- One more entry is the answer if the text begins with its key and the answer is no longer. -/
theorem IsAnswer.noting {found? : Option (Nat × V)} (h : IsAnswer entries text found?)
    (entry : String × V) :
    IsAnswer (entries ++ [entry]) text (PrefixMap.noting text found? entry) := by
  unfold PrefixMap.noting
  split
  case isFalse hbegins =>
    rw [List.isPrefixOf_iff_prefix] at hbegins
    cases found? with
    | none => exact List.forall_mem_append.2 ⟨h, List.forall_mem_singleton.2 hbegins⟩
    | some found => exact h.concat fun hentry ↦ absurd hentry hbegins
  case isTrue hbegins =>
    rw [List.isPrefixOf_iff_prefix] at hbegins
    unfold longer
    split
    case isTrue hle =>
      have hvalue : lastValue? (entries ++ [entry]) entry.1 = some entry.2 := by
        rw [lastValue?_concat, if_pos rfl]
      refine ⟨entry.1, hbegins, rfl, hvalue,
        List.forall_mem_append.2 ⟨fun other hother hkey ↦ ?_, by simp⟩⟩
      cases found? with
      | none => exact absurd hkey (h other hother)
      | some found =>
        obtain ⟨-, -, -, -, hlongest⟩ := h
        exact Nat.le_trans (hlongest other hother hkey) (by simpa using hle)
    case isFalse hlt =>
      cases found? with
      | none => exact absurd rfl hlt
      | some found =>
        have hshorter : entry.1.utf8ByteSize < found.1 := by simpa using hlt
        exact h.concat fun _ ↦ hshorter

/-- Taking the entries one after another finds the answer. -/
theorem isAnswer_longestOf (entries : List (String × V)) (text : List Char) :
    IsAnswer entries text (longestOf entries text) := by
  induction entries using List.reverseRecOn with
  | nil => exact fun entry hentry ↦ nomatch hentry
  | append_singleton entries entry ih =>
    rw [longestOf, List.foldl_append]
    exact ih.noting entry

/-- Whether a map answers about every text as some entries say. -/
def Answers {M : Type} [PrefixMap M V] (map : M) (entries : List (String × V)) : Prop :=
  ∀ text, IsAnswer entries text (longestPrefix? map text)

/-- Maps of the same entries give the same answers. -/
theorem Answers.eq {M N : Type} [PrefixMap M V] [PrefixMap N V] {map : M} {other : N}
    (hmap : Answers map entries) (hother : Answers other entries) (text : List Char) :
    longestPrefix? map text = longestPrefix? other text :=
  (hmap text).unique (hother text)

theorem Answers.eq_some_iff {M : Type} [PrefixMap M V] {map : M} (h : Answers map entries)
    {answer : Nat × V} :
    longestPrefix? map text = some answer ↔ IsAnswer entries text (some answer) := by
  constructor
  · intro heq
    exact heq ▸ h text
  · exact (h text).unique

theorem answers_trie (entries : List (String × V)) : Answers (Trie.ofList entries) entries := by
  intro text
  have h := isAnswer_longestOf entries text
  rwa [← Trie.longestPrefix?_ofList] at h

/-! ## Keys asked for by their lengths -/

/-- A find at the greatest length at which there is something. -/
def IsGreatestHit (valueAt? : Nat → Option V) : Option (Nat × V) → Prop
  | none => ∀ length, valueAt? length = none
  | some (length, value) => valueAt? length = some value ∧
      ∀ longer, length < longer → valueAt? longer = none

/-- Whoever finds at each length the last value of the key that the text begins with finds the
answer at the greatest length. -/
theorem IsGreatestHit.isAnswer {valueAt? : Nat → Option V} {find? : Option (Nat × V)}
    (h : IsGreatestHit valueAt? find?)
    (hvalueAt? : ∀ length value, valueAt? length = some value ↔ ∃ key : String,
      key.toList <+: text ∧ key.utf8ByteSize = length ∧ lastValue? entries key = some value) :
    IsAnswer entries text find? := by
  have hhit {entry : String × V} (hentry : entry ∈ entries) (hbegins : entry.1.toList <+: text) :
      valueAt? entry.1.utf8ByteSize ≠ none := by
    obtain ⟨value, hvalue⟩ := lastValue?_of_mem hentry
    rw [(hvalueAt? _ value).2 ⟨entry.1, hbegins, rfl, hvalue⟩]
    exact Option.some_ne_none value
  cases find? with
  | none => exact fun entry hentry hbegins ↦ hhit hentry hbegins (h _)
  | some found =>
    obtain ⟨hfound, hlonger⟩ := h
    obtain ⟨key, hkey, hsize, hvalue⟩ := (hvalueAt? _ _).1 hfound
    refine ⟨key, hkey, hsize, hvalue, fun entry hentry hbegins ↦ ?_⟩
    exact Nat.le_of_not_lt fun hlt ↦ hhit hentry hbegins (hlonger _ hlt)

end PrefixMap

end FormulaText
