import FormulaText.PrefixMap.Subtries
import FormulaText.Proofs.PrefixMap.Answer

/-!
# A map of byte strings answers what its entries say

Nothing is known of the map of byte strings but its documented behaviour. A lookup that stops at
the first beginning without keys misses none, and a value at the end of some bytes belongs to a key
that is a text, so it never ends within a character.
-/

namespace FormulaText

/-- The documented behaviour of a map of byte strings: an insertion replaces the value of its key
alone, and a part has exactly the keys that begin with its bytes. -/
class LawfulByteMap (T : Type → Type) [ByteMap T] : Prop where
  get?_empty {V : Type} (key : List UInt8) : ByteMap.get? (ByteMap.empty : T V) key = none
  get?_insert {V : Type} (map : T V) (key : List UInt8) (value : V) (other : List UInt8) :
    ByteMap.get? (ByteMap.insert map key value) other =
      if key = other then some value else ByteMap.get? map other
  get?_subtrie {V : Type} (map : T V) (bytes key : List UInt8) :
    ByteMap.get? (ByteMap.subtrie map bytes) key =
      if bytes.isPrefixOf key then ByteMap.get? map key else none
  isEmpty_iff {V : Type} (map : T V) :
    ByteMap.isEmpty map ↔ ∀ key, ByteMap.get? map key = none

/-- Entries, each of which is in front of those inserted before. -/
structure EntryMap (V : Type) where
  entries : List (List UInt8 × V)

namespace EntryMap

instance : ByteMap EntryMap where
  empty := ⟨[]⟩
  insert map key value := ⟨(key, value) :: map.entries⟩
  get? map key := (map.entries.find? (·.1 = key)).map (·.2)
  subtrie map bytes := ⟨map.entries.filter (bytes.isPrefixOf ·.1)⟩
  isEmpty map := map.entries.isEmpty

theorem get?_eq (map : EntryMap V) (key : List UInt8) :
    ByteMap.get? map key = (map.entries.find? (·.1 = key)).map (·.2) := rfl

instance : LawfulByteMap EntryMap where
  get?_empty _ := rfl
  get?_insert map key value other := by
    rw [get?_eq, get?_eq, ByteMap.insert, instByteMap, List.find?_cons]
    by_cases h : key = other <;> simp [h]
  get?_subtrie map bytes key := by
    rw [get?_eq, get?_eq, ByteMap.subtrie, instByteMap, List.find?_filter]
    by_cases h : bytes.isPrefixOf key
    · rw [if_pos h]
      congr 2
      funext entry
      by_cases hkey : entry.1 = key <;> simp_all
    · rw [if_neg h, Option.map_eq_none_iff, List.find?_eq_none]
      grind
  isEmpty_iff map := by
    rw [ByteMap.isEmpty, instByteMap, List.isEmpty_iff]
    constructor
    · intro h key
      rw [get?_eq, h, List.find?_nil, Option.map_none]
    · intro h
      rw [List.eq_nil_iff_forall_not_mem]
      intro entry hentry
      have hnone := h entry.1
      rw [get?_eq, Option.map_eq_none_iff, List.find?_eq_none] at hnone
      exact hnone entry hentry (by simp)

end EntryMap

namespace SubtrieMap

variable {T : Type → Type} {V : Type} [ByteMap T]

open PrefixMap LawfulByteMap

/-- The value at each length of some bytes up to a bound. -/
def valueUpTo? (map : T V) (bytes : List UInt8) (bound length : Nat) : Option V :=
  if length ≤ bound then ByteMap.get? map (bytes.take length) else none

/-- A greater bound finds no more where the map has nothing between the two. -/
theorem valueUpTo?_eq {map : T V} {bytes : List UInt8} {bound bound' : Nat} (hle : bound ≤ bound')
    (h : ∀ length, bound < length → length ≤ bound' →
      ByteMap.get? map (bytes.take length) = none) :
    valueUpTo? map bytes bound' = valueUpTo? map bytes bound := by
  funext length
  unfold valueUpTo?
  by_cases hlength : length ≤ bound
  · rw [if_pos hlength, if_pos (Nat.le_trans hlength hle)]
  · rw [if_neg hlength, ite_eq_right_iff]
    exact h length (Nat.lt_of_not_le hlength)

theorem isGreatestHit_zero (map : T V) (bytes : List UInt8) :
    IsGreatestHit (valueUpTo? map bytes 0) ((ByteMap.get? map []).map (0, ·)) := by
  cases hzero : ByteMap.get? map [] with
  | some value =>
    exact ⟨by rw [valueUpTo?, if_pos (Nat.le_refl 0), List.take_zero, hzero],
      fun longer hlt ↦ if_neg (Nat.not_le.2 hlt)⟩
  | none =>
    intro length
    unfold valueUpTo?
    split
    case isTrue hle => rw [Nat.le_zero.1 hle, List.take_zero, hzero]
    case isFalse => rfl

/-- A value at the next length is the greatest hit, and else the old one stays it. -/
theorem isGreatestHit_succ {map : T V} {bytes : List UInt8} {bound : Nat}
    {longest? : Option (Nat × V)} (h : IsGreatestHit (valueUpTo? map bytes bound) longest?) :
    IsGreatestHit (valueUpTo? map bytes (bound + 1))
      (((ByteMap.get? map (bytes.take (bound + 1))).map (bound + 1, ·)).or longest?) := by
  cases hnext : ByteMap.get? map (bytes.take (bound + 1)) with
  | some value =>
    refine ⟨by rw [valueUpTo?, if_pos (Nat.le_refl _), hnext], fun longer hlt ↦ ?_⟩
    exact if_neg (Nat.not_le.2 hlt)
  | none =>
    have hsame : valueUpTo? map bytes (bound + 1) = valueUpTo? map bytes bound :=
      valueUpTo?_eq (Nat.le_succ bound) fun length hlt hle ↦ Nat.le_antisymm hle hlt ▸ hnext
    rwa [hsame]

variable [LawfulByteMap T]

/-- The values of a map are those that stand last for the texts with its bytes. -/
theorem get?_ofList (entries : List (String × V)) (bytes : List UInt8) (value : V) :
    ByteMap.get? (ofList entries : SubtrieMap T V).held bytes = some value ↔
      ∃ key : String, utf8Bytes key.toList = bytes ∧ lastValue? entries key = some value := by
  induction entries using List.reverseRecOn with
  | nil => simp [ofList, get?_empty, lastValue?]
  | append_singleton entries entry ih =>
    rw [ofList, List.foldl_append, List.foldl_cons, List.foldl_nil, get?_insert]
    split
    case isTrue hbytes =>
      constructor
      · rintro ⟨⟩
        exact ⟨entry.1, hbytes, by rw [lastValue?_concat, if_pos rfl]⟩
      · rintro ⟨key, hkey, hvalue⟩
        rwa [lastValue?_concat, if_pos (eq_of_utf8Bytes (hbytes.trans hkey.symm))] at hvalue
    case isFalse hbytes =>
      have hkept {key : String} (hkey : utf8Bytes key.toList = bytes) :
          lastValue? (entries ++ [entry]) key = lastValue? entries key := by
        have hne : entry.1 ≠ key := by
          rintro rfl
          exact hbytes hkey
        rw [lastValue?_concat, if_neg hne]
      refine ih.trans (exists_congr fun key ↦ and_congr_right fun hkey ↦ ?_)
      rw [hkept hkey]

/-- A walk that has found the greatest hit so far finds the greatest hit of all. -/
theorem isGreatestHit_walk {map part : T V} {gone rest : List UInt8} {longest? : Option (Nat × V)}
    (hpart : ∀ key, gone <+: key → ByteMap.get? part key = ByteMap.get? map key)
    (hlongest : IsGreatestHit (valueUpTo? map (gone ++ rest) gone.length) longest?) :
    IsGreatestHit (valueUpTo? map (gone ++ rest) (gone ++ rest).length)
      (walk part gone longest? rest) := by
  induction rest generalizing part gone longest? with
  | nil => simpa [walk] using hlongest
  | cons byte rest ih =>
    have hsplit : gone ++ byte :: rest = (gone ++ [byte]) ++ rest := List.append_cons ..
    have hbelow (key : List UInt8) (hkey : gone ++ [byte] <+: key) :
        ByteMap.get? (ByteMap.subtrie part (gone ++ [byte])) key = ByteMap.get? map key := by
      rw [get?_subtrie, if_pos (List.isPrefixOf_iff_prefix.2 hkey)]
      exact hpart key ((List.prefix_append gone [byte]).trans hkey)
    rw [walk]
    split
    case isTrue hempty =>
      have hnone (length : Nat) (hlt : gone.length < length) :
          ByteMap.get? map ((gone ++ byte :: rest).take length) = none := by
        have hbegins : gone ++ [byte] <+: (gone ++ byte :: rest).take length := by
          rw [List.prefix_take_iff, hsplit, List.length_append, List.length_singleton]
          exact ⟨List.prefix_append _ _, hlt⟩
        rw [← hbelow _ hbegins]
        exact (isEmpty_iff _).1 hempty _
      have hle : gone.length ≤ (gone ++ byte :: rest).length :=
        (List.prefix_append _ _).length_le
      have hsame := valueUpTo?_eq hle fun length hlt _ ↦ hnone length hlt
      rwa [hsame]
    case isFalse =>
      rw [hsplit] at hlongest ⊢
      refine ih hbelow ?_
      have htake : ((gone ++ [byte]) ++ rest).take (gone.length + 1) = gone ++ [byte] :=
        List.take_left' (by simp)
      have hnext := isGreatestHit_succ hlongest
      rw [htake, ← hbelow _ List.prefix_rfl] at hnext
      simpa using hnext

/-- A map cut down byte by byte finds the last one of the entries with the longest key. -/
theorem answers_ofList (entries : List (String × V)) :
    Answers (ofList entries : SubtrieMap T V) entries := by
  intro text
  have hwhole (key : List UInt8) (_ : [] <+: key) :
      ByteMap.get? (ByteMap.subtrie (ofList entries : SubtrieMap T V).held []) key =
        ByteMap.get? (ofList entries : SubtrieMap T V).held key := by
    rw [get?_subtrie, List.isPrefixOf, if_pos rfl]
  have hstart := isGreatestHit_zero (ofList entries : SubtrieMap T V).held (utf8Bytes text)
  rw [← hwhole [] List.prefix_rfl] at hstart
  refine (isGreatestHit_walk hwhole hstart).isAnswer fun length value ↦ ?_
  rw [List.nil_append, valueUpTo?, Option.ite_none_right_eq_some, get?_ofList]
  constructor
  · rintro ⟨hle, key, hkey, hvalue⟩
    have hbegins : utf8Bytes key.toList <+: utf8Bytes text := hkey ▸ List.take_prefix _ _
    refine ⟨key, utf8Bytes_isPrefix_iff.1 hbegins, ?_, hvalue⟩
    rw [← length_utf8Bytes_toList, hkey, List.length_take_of_le hle]
  · rintro ⟨key, hbegins, rfl, hvalue⟩
    have hbytes := utf8Bytes_isPrefix_iff.2 hbegins
    rw [← length_utf8Bytes_toList]
    exact ⟨hbytes.length_le, key, List.prefix_iff_eq_take.1 hbytes, hvalue⟩

end SubtrieMap

end FormulaText
