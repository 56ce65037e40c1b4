import FormulaText.Proofs.PrefixMap.Sorted

/-!
# Sorted maps are canonical

A sorted map holds each key once, with its last value, and its entries stand in strict order. So the
map says no more of a list of entries than the last value of each key: two lists make equal maps
exactly if they agree on these values, however values are compared.
-/

namespace FormulaText

namespace SortedMap

variable {V : Type}

open PrefixMap

/-! ## Strict order -/

theorem precedes_irrefl (key : String) : ¬precedes key key := by
  rw [precedes_iff]
  rintro (hlt | ⟨-, hlt⟩)
  · exact Nat.lt_irrefl _ hlt
  · exact List.lt_irrefl _ hlt

/-- Of two keys one stands before the other, unless they are the same. -/
theorem precedes_trichotomy (key other : String) :
    precedes key other ∨ key = other ∨ precedes other key := by
  rw [precedes_iff, precedes_iff]
  obtain hlt | hsize | hlt := Nat.lt_trichotomy key.utf8ByteSize other.utf8ByteSize
  · exact .inr (.inr (.inl hlt))
  · obtain hlt | hbytes | hlt :=
      Std.lt_trichotomy (utf8Bytes key.toList) (utf8Bytes other.toList)
    · exact .inl (.inr ⟨hsize.symm, hlt⟩)
    · exact .inr (.inl (eq_of_utf8Bytes hbytes))
    · exact .inr (.inr (.inr ⟨hsize, hlt⟩))
  · exact .inl (.inl hlt)

/-! ## Entries in strict order -/

/-- Whether entries stand in strict order, longer keys first and keys of one length by their
bytes. -/
def IsStrict (entries : List (String × V)) : Prop :=
  entries.Pairwise fun left right ↦
    right.1.utf8ByteSize < left.1.utf8ByteSize ∨
      right.1.utf8ByteSize = left.1.utf8ByteSize ∧
        utf8Bytes left.1.toList < utf8Bytes right.1.toList

theorem isStrict_iff {entries : List (String × V)} :
    IsStrict entries ↔ entries.Pairwise fun left right ↦ precedes left.1 right.1 := by
  simp only [IsStrict, precedes_iff]

section Lookup

variable {entry other : String × V} {rest tail : List (String × V)}

/-- The first key of strict entries does not stand behind it. -/
theorem lastValue?_eq_none_of_isStrict (h : IsStrict (entry :: rest)) :
    lastValue? rest entry.1 = none := by
  refine lastValue?_eq_none fun later hlater hkey ↦ ?_
  have hprecedes := List.rel_of_pairwise_cons (isStrict_iff.1 h) hlater
  rw [hkey] at hprecedes
  exact precedes_irrefl _ hprecedes

theorem lastValue?_cons_self (h : IsStrict (entry :: rest)) :
    lastValue? (entry :: rest) entry.1 = some entry.2 := by
  rw [lastValue?_cons, lastValue?_eq_none_of_isStrict h, Option.none_or, if_pos rfl]

theorem lastValue?_cons_of_ne {key : String} (h : entry.1 ≠ key) :
    lastValue? (entry :: rest) key = lastValue? rest key := by
  rw [lastValue?_cons, if_neg h, Option.or_none]

/-- A key in front of the first of strict entries is none of theirs. -/
theorem lastValue?_eq_none_of_precedes {key : String} (h : IsStrict (entry :: rest))
    (hkey : precedes key entry.1) : lastValue? (entry :: rest) key = none := by
  refine lastValue?_eq_none fun later hlater heq ↦ ?_
  subst heq
  obtain rfl | hrest := List.mem_cons.1 hlater
  · exact precedes_irrefl _ hkey
  · have hprecedes := List.rel_of_pairwise_cons (isStrict_iff.1 h) hrest
    rw [precedes_iff] at hkey hprecedes
    obtain hlt | ⟨hsize, hlt⟩ := hkey
    · omega
    · obtain hlt' | ⟨-, hlt'⟩ := hprecedes
      · omega
      · exact List.lt_irrefl _ (List.lt_trans hlt hlt')

end Lookup

/-- Entries with equal values for all keys begin with the same key, because the smaller one of two
first keys would be missing on the other side. -/
theorem fst_eq_of_beq [BEq V] {entry other : String × V} {rest tail : List (String × V)}
    (hleft : IsStrict (entry :: rest)) (hright : IsStrict (other :: tail))
    (h : ∀ key, (lastValue? (entry :: rest) key == lastValue? (other :: tail) key) = true) :
    entry.1 = other.1 := by
  obtain hprecedes | heq | hprecedes := precedes_trichotomy entry.1 other.1
  · have hkey := h entry.1
    rw [lastValue?_cons_self hleft, lastValue?_eq_none_of_precedes hright hprecedes] at hkey
    contradiction
  · exact heq
  · have hkey := h other.1
    rw [lastValue?_cons_self hright, lastValue?_eq_none_of_precedes hleft hprecedes] at hkey
    contradiction

/-- Strict entries are equal, in whatever sense values are, if all keys have equal values. -/
theorem beq_iff_of_isStrict [BEq V] {left right : List (String × V)} (hleft : IsStrict left)
    (hright : IsStrict right) :
    (left == right) = true ↔ ∀ key, (lastValue? left key == lastValue? right key) = true := by
  induction left generalizing right with
  | nil =>
    cases right with
    | nil => simp [lastValue?]
    | cons other tail =>
      refine iff_of_false Bool.false_ne_true fun h ↦ ?_
      have hkey := h other.1
      rw [lastValue?_cons_self hright] at hkey
      contradiction
  | cons entry rest ih =>
    cases right with
    | nil =>
      refine iff_of_false Bool.false_ne_true fun h ↦ ?_
      have hkey := h entry.1
      rw [lastValue?_cons_self hleft] at hkey
      contradiction
    | cons other tail =>
      have hpair : (entry == other) = (entry.1 == other.1 && entry.2 == other.2) := rfl
      rw [List.cons_beq_cons, hpair, Bool.and_eq_true, Bool.and_eq_true, beq_iff_eq,
        ih hleft.of_cons hright.of_cons]
      constructor
      · rintro ⟨⟨heq, hvalue⟩, hrest⟩ key
        by_cases hkey : entry.1 = key
        · subst hkey
          rw [lastValue?_cons_self hleft, heq, lastValue?_cons_self hright]
          exact hvalue
        · rw [lastValue?_cons_of_ne hkey, lastValue?_cons_of_ne (heq ▸ hkey)]
          exact hrest key
      · intro h
        have heq := fst_eq_of_beq hleft hright h
        refine ⟨⟨heq, ?_⟩, fun key ↦ ?_⟩
        · have hvalue := h entry.1
          rw [lastValue?_cons_self hleft, heq, lastValue?_cons_self hright] at hvalue
          exact hvalue
        · by_cases hkey : entry.1 = key
          · subst hkey
            rw [lastValue?_eq_none_of_isStrict hleft, heq, lastValue?_eq_none_of_isStrict hright]
            rfl
          · have hkeys := h key
            rwa [lastValue?_cons_of_ne hkey, lastValue?_cons_of_ne (heq ▸ hkey)] at hkeys

/-! ## The entries of a sorted map -/

theorem isStrict_ofList (entries : List (String × V)) : IsStrict (ofList entries).entries :=
  isStrict_iff.2 (entries_ofList entries).1

/-- A sorted map holds the last value of each key and nothing else. -/
theorem mem_entries_ofList {entries : List (String × V)} {key : String} {value : V} :
    (key, value) ∈ (ofList entries).entries ↔ lastValue? entries key = some value := by
  obtain ⟨-, hkeys, hvalues⟩ := entries_ofList entries
  constructor
  · exact hvalues (key, value)
  · intro hvalue
    obtain ⟨⟨found, held⟩, hkept, rfl⟩ := hkeys _ (exists_mem_of_lastValue? hvalue)
    have hheld := hvalues _ hkept
    rw [hvalue, Option.some.injEq] at hheld
    exact hheld ▸ hkept

theorem lastValue?_entries_ofList (entries : List (String × V)) (key : String) :
    lastValue? (ofList entries).entries key = lastValue? entries key := by
  cases hvalue : lastValue? entries key with
  | none =>
    refine lastValue?_eq_none fun kept hkept hkey ↦ ?_
    rw [← hkey, mem_entries_ofList.1 hkept] at hvalue
    contradiction
  | some value =>
    obtain ⟨held, hheld⟩ := lastValue?_of_mem (mem_entries_ofList.2 hvalue)
    have hlast := mem_entries_ofList.1 (exists_mem_of_lastValue? hheld)
    rw [hheld, ← hlast, hvalue]

theorem beq_entries_ofList_iff [BEq V] {xs ys : List (String × V)} :
    ((ofList xs).entries == (ofList ys).entries) = true ↔
      ∀ key, (lastValue? xs key == lastValue? ys key) = true := by
  rw [beq_iff_of_isStrict (isStrict_ofList xs) (isStrict_ofList ys)]
  simp only [lastValue?_entries_ofList]

/-- Equality of maps is the case in which a value is equal only to itself. -/
theorem ofList_eq_iff {xs ys : List (String × V)} :
    ofList xs = ofList ys ↔ ∀ key, lastValue? xs key = lastValue? ys key := by
  have := Classical.decEq V
  rw [SortedMap.mk.injEq, ← beq_iff_eq, beq_entries_ofList_iff]
  simp only [beq_iff_eq]

/-- The entries of a sorted map stand in strict order, with each key of the list once, with its last
value, and with no other key. Two lists make the same map exactly if every key has the same last
value in both or in none, and they make maps that are equal entry by entry exactly if these values
are equal. -/
theorem ofList_isCanonical (V : Type) [BEq V] :
    (∀ entries : List (String × V),
      IsStrict (ofList entries).entries ∧ ((ofList entries).entries.map Prod.fst).Nodup ∧
        ∀ key value,
          (key, value) ∈ (ofList entries).entries ↔ lastValue? entries key = some value) ∧
    ∀ xs ys : List (String × V),
      (ofList xs = ofList ys ↔ ∀ key, lastValue? xs key = lastValue? ys key) ∧
      (((ofList xs).entries == (ofList ys).entries) = true ↔
        ∀ key, (lastValue? xs key == lastValue? ys key) = true) := by
  refine ⟨fun entries ↦ ⟨isStrict_ofList entries, ?_, fun key value ↦ mem_entries_ofList⟩,
    fun xs ys ↦ ⟨ofList_eq_iff, beq_entries_ofList_iff⟩⟩
  have hsorted := isStrict_iff.1 (isStrict_ofList entries)
  refine List.pairwise_map.2 (hsorted.imp fun {left right} hprecedes heq ↦ ?_)
  rw [heq] at hprecedes
  exact precedes_irrefl _ hprecedes

/-- Of a key that stands three times only the last value counts, and the longer key comes first. -/
example : ofList [("x", 0), ("x", 1), ("xy", 2), ("x", 3)] = ⟨[("xy", 2), ("x", 3)]⟩ := by
  cbv

end SortedMap

end FormulaText
