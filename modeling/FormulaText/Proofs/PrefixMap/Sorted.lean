import FormulaText.PrefixMap.Sorted
import FormulaText.Proofs.PrefixMap.Answer

/-!
# A sorted list answers what its entries say

Sorting brings the entries of one key together without changing their order, so the last one of
each run is the last one for its key. Longer keys come first, so the first key that fits is the
longest one.
-/

namespace FormulaText

namespace SortedMap

variable {V : Type}

open PrefixMap

/-! ## The order of keys -/

theorem precedes_iff {key other : String} :
    precedes key other ↔ other.utf8ByteSize < key.utf8ByteSize ∨
      other.utf8ByteSize = key.utf8ByteSize ∧
        utf8Bytes key.toList < utf8Bytes other.toList := by
  rw [precedes, Bool.or_eq_true, Bool.and_eq_true, decide_eq_true_iff, decide_eq_true_iff,
    decide_eq_true_iff, eq_comm]

theorem comes_iff {left right : String × V} :
    comes left right ↔ right.1.utf8ByteSize < left.1.utf8ByteSize ∨
      right.1.utf8ByteSize = left.1.utf8ByteSize ∧
        utf8Bytes left.1.toList ≤ utf8Bytes right.1.toList := by
  rw [comes, Bool.not_eq_true', ← Bool.not_eq_true, precedes_iff, ← List.not_lt]
  grind

theorem comes_trans (first second third : String × V) (hleft : comes first second)
    (hright : comes second third) : comes first third := by
  rw [comes_iff] at hleft hright ⊢
  obtain hlt | ⟨hsize, hle⟩ := hleft
  · omega
  · obtain hlt' | ⟨hsize', hle'⟩ := hright
    · omega
    · exact .inr ⟨by omega, List.le_trans hle hle'⟩

theorem comes_total (left right : String × V) : (comes left right || comes right left) := by
  rw [Bool.or_eq_true, comes_iff, comes_iff]
  have hbytes := List.le_total (utf8Bytes left.1.toList) (utf8Bytes right.1.toList)
  obtain hlt | hsize | hlt := Nat.lt_trichotomy left.1.utf8ByteSize right.1.utf8ByteSize
  · exact .inr (.inl hlt)
  · exact hbytes.imp (fun hle ↦ .inr ⟨hsize.symm, hle⟩) fun hle ↦ .inr ⟨hsize, hle⟩
  · exact .inl (.inl hlt)

/-- Entries that may stand in both orders have the same key. -/
theorem eq_of_comes {left right : String × V} (hleft : comes left right)
    (hright : comes right left) : left.1 = right.1 := by
  rw [comes_iff] at hleft hright
  obtain ⟨-, hle⟩ := hleft.resolve_left (by omega)
  obtain ⟨-, hge⟩ := hright.resolve_left (by omega)
  exact eq_of_utf8Bytes (List.le_antisymm hle hge)

theorem comes_of_eq {left right : String × V} (h : left.1 = right.1) : comes left right := by
  rw [comes_iff, h]
  exact .inr ⟨rfl, List.le_refl _⟩

theorem precedes_of_comes {left right : String × V} (h : comes left right)
    (hne : right.1 ≠ left.1) : precedes left.1 right.1 := by
  rw [precedes_iff]
  refine (comes_iff.1 h).imp_right fun ⟨hsize, hle⟩ ↦ ⟨hsize, ?_⟩
  exact Std.lt_of_le_of_ne hle fun hbytes ↦ hne (eq_of_utf8Bytes hbytes).symm

/-! ## The last entry of each run -/

theorem keepLast_sublist (held : String × V) (rest : List (String × V)) :
    (keepLast held rest).Sublist (held :: rest) := by
  induction rest generalizing held with
  | nil => exact List.Sublist.refl _
  | cons later rest ih =>
    rw [keepLast]
    split
    · exact (ih later).trans (List.sublist_cons_self _ _)
    · exact (ih later).cons_cons held

/-- No key is lost. -/
theorem exists_mem_keepLast {held : String × V} {rest : List (String × V)} {entry : String × V}
    (h : entry ∈ held :: rest) : ∃ kept ∈ keepLast held rest, kept.1 = entry.1 := by
  induction rest generalizing held entry with
  | nil => exact ⟨held, List.mem_singleton_self _, by rw [List.mem_singleton.1 h]⟩
  | cons later rest ih =>
    rw [keepLast]
    split
    case isTrue hsame =>
      obtain rfl | hrest := List.mem_cons.1 h
      · obtain ⟨kept, hkept, hkey⟩ := ih List.mem_cons_self
        exact ⟨kept, hkept, hkey.trans hsame⟩
      · exact ih hrest
    case isFalse =>
      obtain rfl | hrest := List.mem_cons.1 h
      · exact ⟨entry, List.mem_cons_self, rfl⟩
      · obtain ⟨kept, hkept, hkey⟩ := ih hrest
        exact ⟨kept, List.mem_cons_of_mem _ hkept, hkey⟩

/-- Where the key changes in sorted entries, it does not come back: a later entry with it would let
the one in between stand in front. -/
theorem ne_of_mem_behind {held later : String × V} {rest : List (String × V)}
    (hsorted : (held :: later :: rest).Pairwise (comes · ·)) (hother : later.1 ≠ held.1)
    {entry : String × V} (h : entry ∈ later :: rest) : entry.1 ≠ held.1 := by
  intro hkey
  obtain ⟨hfirst, htail⟩ := List.pairwise_cons.1 hsorted
  have hback : comes later held := by
    obtain rfl | hrest := List.mem_cons.1 h
    · exact comes_of_eq hkey
    · exact comes_trans _ _ _ (List.rel_of_pairwise_cons htail hrest) (comes_of_eq hkey)
  exact hother (eq_of_comes hback (hfirst later List.mem_cons_self))

/-- Of sorted entries no key is kept twice. -/
theorem pairwise_keepLast {held : String × V} {rest : List (String × V)}
    (hsorted : (held :: rest).Pairwise (comes · ·)) :
    (keepLast held rest).Pairwise fun left right ↦ precedes left.1 right.1 := by
  induction rest generalizing held with
  | nil => exact List.pairwise_singleton _ _
  | cons later rest ih =>
    rw [keepLast]
    split
    case isTrue => exact ih hsorted.of_cons
    case isFalse hother =>
      refine List.pairwise_cons.2 ⟨fun kept hkept ↦ ?_, ih hsorted.of_cons⟩
      have hmem := (keepLast_sublist later rest).subset hkept
      exact precedes_of_comes (List.rel_of_pairwise_cons hsorted hmem)
        (ne_of_mem_behind hsorted hother hmem)

/-- What is kept of sorted entries is the last value for each key. -/
theorem lastValue?_of_mem_keepLast {held : String × V} {rest : List (String × V)}
    (hsorted : (held :: rest).Pairwise (comes · ·)) {entry : String × V}
    (h : entry ∈ keepLast held rest) : lastValue? (held :: rest) entry.1 = some entry.2 := by
  induction rest generalizing held with
  | nil =>
    obtain rfl := List.mem_singleton.1 h
    simp [lastValue?]
  | cons later rest ih =>
    have htail := hsorted.of_cons
    rw [keepLast] at h
    split at h
    case isTrue =>
      rw [lastValue?_cons, ih htail h, Option.some_or]
    case isFalse hother =>
      obtain rfl | hkept := List.mem_cons.1 h
      · have hgone : ∀ other ∈ later :: rest, other.1 ≠ entry.1 :=
          fun other ↦ ne_of_mem_behind hsorted hother
        rw [lastValue?_cons, lastValue?_eq_none hgone, Option.none_or, if_pos rfl]
      · rw [lastValue?_cons, ih htail hkept, Option.some_or]

/-! ## The sorted entries -/

/-- Sorting leaves the entries of one key in their order. -/
theorem filter_mergeSort (entries : List (String × V)) (key : String) :
    (entries.mergeSort comes).filter (·.1 = key) = entries.filter (·.1 = key) := by
  have hkey {entry : String × V} (h : entry ∈ entries.filter (·.1 = key)) : entry.1 = key := by
    simpa using (List.mem_filter.1 h).2
  have hsame : (entries.filter (·.1 = key)).Pairwise (comes · ·) :=
    List.pairwise_of_forall_mem_list fun left hleft right hright ↦
      comes_of_eq ((hkey hleft).trans (hkey hright).symm)
  have hsub := (List.sublist_mergeSort comes_trans comes_total hsame List.filter_sublist).filter
    (·.1 = key)
  rw [List.filter_filter] at hsub
  simp only [Bool.and_self] at hsub
  have hperm := (List.mergeSort_perm entries comes).filter (·.1 = key)
  exact (hsub.eq_of_length hperm.length_eq.symm).symm

theorem lastValue?_mergeSort (entries : List (String × V)) (key : String) :
    lastValue? (entries.mergeSort comes) key = lastValue? entries key := by
  rw [lastValue?_eq, filter_mergeSort, lastValue?_eq]

/-- The entries that a sorted map keeps: in order, with every key once, and with the last value of
each. -/
theorem entries_ofList (entries : List (String × V)) :
    ((ofList entries).entries.Pairwise fun left right ↦ precedes left.1 right.1) ∧
      (∀ entry ∈ entries, ∃ kept ∈ (ofList entries).entries, kept.1 = entry.1) ∧
      ∀ kept ∈ (ofList entries).entries, lastValue? entries kept.1 = some kept.2 := by
  have hsorted := List.pairwise_mergeSort comes_trans comes_total entries
  have hmem (entry : String × V) : entry ∈ entries ↔ entry ∈ entries.mergeSort comes :=
    (List.mergeSort_perm entries comes).mem_iff.symm
  simp only [← lastValue?_mergeSort entries, hmem]
  rw [ofList]
  cases hsort : entries.mergeSort comes with
  | nil => simp
  | cons first rest =>
    rw [hsort] at hsorted
    exact ⟨pairwise_keepLast hsorted, fun entry ↦ exists_mem_keepLast,
      fun kept ↦ lastValue?_of_mem_keepLast hsorted⟩

/-- A sorted map finds the last one of the entries with the longest key. -/
theorem answers_ofList (entries : List (String × V)) :
    Answers (ofList entries) entries := by
  intro text
  obtain ⟨hsorted, hkeys, hvalues⟩ := entries_ofList entries
  change IsAnswer entries text (((ofList entries).entries.find? (·.1.toList.isPrefixOf text)).map
    fun entry ↦ (entry.1.utf8ByteSize, entry.2))
  cases hfind : (ofList entries).entries.find? (·.1.toList.isPrefixOf text) with
  | none =>
    intro entry hentry hbegins
    obtain ⟨kept, hkept, hkey⟩ := hkeys entry hentry
    refine List.find?_eq_none.1 hfind kept hkept (List.isPrefixOf_iff_prefix.2 ?_)
    rwa [hkey]
  | some found =>
    obtain ⟨hfound, before, behind, hsplit, hbefore⟩ := List.find?_eq_some_iff_append.1 hfind
    have hmem : found ∈ (ofList entries).entries := List.mem_of_find?_eq_some hfind
    refine ⟨found.1, List.isPrefixOf_iff_prefix.1 hfound, rfl, hvalues found hmem, ?_⟩
    intro entry hentry hbegins
    obtain ⟨kept, hkept, hkey⟩ := hkeys entry hentry
    rw [← hkey] at hbegins ⊢
    rw [hsplit] at hsorted hkept
    obtain hkept | hkept := List.mem_append.1 hkept
    · have hnot := hbefore kept hkept
      rw [List.isPrefixOf_iff_prefix.2 hbegins] at hnot
      contradiction
    · obtain rfl | hbehind := List.mem_cons.1 hkept
      · exact Nat.le_refl _
      · have hprecedes := List.rel_of_pairwise_cons (List.pairwise_append.1 hsorted).2.1 hbehind
        exact (precedes_iff.1 hprecedes).elim Nat.le_of_lt fun hsize ↦ Nat.le_of_eq hsize.1

end SortedMap

end FormulaText
