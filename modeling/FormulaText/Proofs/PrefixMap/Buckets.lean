import FormulaText.PrefixMap.Buckets
import FormulaText.Proofs.PrefixMap.Answer

/-!
# Hash tables by length answer what their entries say

A table for keys of one length holds for each of them the value of the last entry, whatever the
hash function is. Asking the tables from the longest length down, the first hit is the longest key.
-/

namespace FormulaText

namespace PrefixMap

variable {V : Type}

/-- The first bytes of a text are some characters exactly if these begin the text and have so many
bytes. -/
theorem takeBytes?_eq_some_iff {bytes : Nat} {text key : List Char} :
    takeBytes? bytes text = some key ↔ key <+: text ∧ (utf8Bytes key).length = bytes := by
  fun_induction takeBytes? bytes text generalizing key with
  | case1 text =>
    cases key with
    | nil => simp [utf8Bytes]
    | cons c key =>
      have hpos := Char.utf8Size_pos c
      rw [length_utf8Bytes_cons]
      grind
  | case2 bytes =>
    rw [List.prefix_nil]
    constructor
    · intro h
      contradiction
    · rintro ⟨rfl, h⟩
      contradiction
  | case3 bytes c rest hle ih =>
    rw [Option.map_eq_some_iff]
    constructor
    · rintro ⟨key, hkey, rfl⟩
      obtain ⟨hbegins, hlength⟩ := ih.1 hkey
      rw [length_utf8Bytes_cons]
      exact ⟨List.cons_prefix_cons.2 ⟨rfl, hbegins⟩, by omega⟩
    · rintro ⟨hbegins, hlength⟩
      cases key with
      | nil => contradiction
      | cons first key =>
        obtain ⟨rfl, hrest⟩ := List.cons_prefix_cons.1 hbegins
        rw [length_utf8Bytes_cons] at hlength
        exact ⟨key, ih.2 ⟨hrest, by omega⟩, rfl⟩
  | case4 bytes c rest hlt =>
    constructor
    · intro h
      contradiction
    · rintro ⟨hbegins, hlength⟩
      cases key with
      | nil => contradiction
      | cons first key =>
        obtain ⟨rfl, -⟩ := List.cons_prefix_cons.1 hbegins
        rw [length_utf8Bytes_cons] at hlength
        omega

end PrefixMap

namespace BucketMap

variable {hash : String → UInt64} {V : Type}

open PrefixMap

def value? (map : BucketMap hash V) (key : String) : Option V := do
  let bucket ← map.buckets[key.utf8ByteSize]?
  bucket[(⟨key⟩ : HashedText hash)]?

/-- Where tables are added, they are empty. -/
theorem getElem?_append_replicate (map : BucketMap hash V) (missing : Nat) (key : String) :
    ((map.buckets ++ Array.replicate missing ∅)[key.utf8ByteSize]?.bind fun bucket ↦
      bucket[(⟨key⟩ : HashedText hash)]?) = map.value? key := by
  rw [value?, Array.getElem?_append]
  split
  · rfl
  · next hsize =>
    rw [Array.getElem?_replicate, Array.getElem?_eq_none (Nat.le_of_not_lt hsize)]
    split <;> simp

theorem value?_insert (map : BucketMap hash V) (key : String) (value : V) (other : String) :
    (map.insert key value).value? other = if key = other then some value else map.value? other := by
  rw [← getElem?_append_replicate map (key.utf8ByteSize + 1 - map.buckets.size) other, value?,
    insert]
  simp only [Array.getElem?_modify, bind]
  split
  case isTrue hsize =>
    have hlt : other.utf8ByteSize < (map.buckets ++ Array.replicate
        (key.utf8ByteSize + 1 - map.buckets.size) ∅).size := by
      rw [Array.size_append, Array.size_replicate]
      omega
    rw [Array.getElem?_eq_getElem hlt, Option.map_some, Option.bind_some, Option.bind_some,
      Std.HashMap.getElem?_insert]
    simp
  case isFalse hsize =>
    have hne : key ≠ other := fun h ↦ hsize (congrArg String.utf8ByteSize h)
    rw [if_neg hne]

theorem value?_ofList (entries : List (String × V)) (key : String) :
    (ofList entries : BucketMap hash V).value? key = lastValue? entries key := by
  induction entries using List.reverseRecOn with
  | nil => rfl
  | append_singleton entries entry ih =>
    rw [ofList, List.foldl_append, List.foldl_cons, List.foldl_nil, value?_insert,
      lastValue?_concat]
    exact if_congr Iff.rfl rfl ih

/-- The table for a length has a hit exactly for a key of this length that the text begins with. -/
theorem prefixAt?_eq_some_iff {map : BucketMap hash V} {text : List Char} {length bytes : Nat}
    {value : V} : map.prefixAt? text length = some (bytes, value) ↔
      ∃ key : String, key.toList <+: text ∧ key.utf8ByteSize = length ∧
        map.value? key = some value ∧ bytes = length := by
  simp only [prefixAt?, bind, Option.bind_eq_some_iff, takeBytes?_eq_some_iff, value?]
  constructor
  · rintro ⟨key, ⟨hbegins, hlength⟩, bucket, hbucket, held, hheld, hfind⟩
    obtain ⟨rfl, rfl⟩ := Prod.mk.inj (Option.some.inj hfind)
    have hsize : (String.ofList key).utf8ByteSize = length := by
      rw [← length_utf8Bytes_toList, String.toList_ofList, hlength]
    exact ⟨String.ofList key, by rwa [String.toList_ofList], hsize,
      ⟨bucket, hsize.symm ▸ hbucket, hheld⟩, rfl⟩
  · rintro ⟨key, hbegins, rfl, ⟨bucket, hbucket, hvalue⟩, rfl⟩
    exact ⟨key.toList, ⟨hbegins, length_utf8Bytes_toList key⟩, bucket, hbucket, value,
      by rwa [String.ofList_toList], rfl⟩

/-- Where there is a hit, there is a table for its length. -/
theorem lt_size_of_prefixAt? {map : BucketMap hash V} {text : List Char} {length : Nat}
    (h : map.prefixAt? text length ≠ none) : length < map.buckets.size := by
  obtain ⟨find, hfind⟩ := Option.ne_none_iff_exists'.1 h
  obtain ⟨key, -, rfl, hvalue, -⟩ := prefixAt?_eq_some_iff.1 hfind
  obtain ⟨bucket, hbucket, -⟩ := Option.bind_eq_some_iff.1 hvalue
  exact (Array.getElem?_eq_some_iff.1 hbucket).1

/-- The first hit from the longest length down is the one at the greatest length. -/
theorem isGreatestHit_longestPrefix? (map : BucketMap hash V) (text : List Char) :
    IsGreatestHit (fun length ↦ (map.prefixAt? text length).map (·.2))
      (map.longestPrefix? text) := by
  have hmem {length : Nat} (h : map.prefixAt? text length ≠ none) :
      length ∈ (List.range map.buckets.size).reverse :=
    List.mem_reverse.2 (List.mem_range.2 (lt_size_of_prefixAt? h))
  rw [longestPrefix?]
  cases hfind : (List.range map.buckets.size).reverse.findSome? (map.prefixAt? text) with
  | none =>
    intro length
    rw [Option.map_eq_none_iff]
    by_contra hhit
    exact hhit (List.findSome?_eq_none_iff.1 hfind length (hmem hhit))
  | some find =>
    obtain ⟨before, length, behind, hsplit, hfound, hbefore⟩ := List.findSome?_eq_some_iff.1 hfind
    obtain ⟨-, -, -, -, hbytes⟩ := prefixAt?_eq_some_iff.1 hfound
    have hdown : (before ++ length :: behind).Pairwise (· > ·) := by
      rw [← hsplit, List.pairwise_reverse]
      exact List.pairwise_lt_range
    refine ⟨by simp only [hbytes, hfound, Option.map_some], fun longer hlt ↦ ?_⟩
    rw [Option.map_eq_none_iff]
    by_contra hhit
    have hlonger := hmem hhit
    rw [hsplit] at hlonger
    obtain hasked | hlonger := List.mem_append.1 hlonger
    · exact hhit (hbefore longer hasked)
    · obtain hhere | hbehind := List.mem_cons.1 hlonger
      · omega
      · have hless := List.rel_of_pairwise_cons (List.pairwise_append.1 hdown).2.1 hbehind
        omega

/-- Buckets find the last one of the entries with the longest key. -/
theorem answers_ofList (entries : List (String × V)) :
    Answers (ofList entries : BucketMap hash V) entries := by
  intro text
  refine (isGreatestHit_longestPrefix? _ text).isAnswer fun length value ↦ ?_
  rw [Option.map_eq_some_iff]
  constructor
  · rintro ⟨⟨bytes, value⟩, hfind, rfl⟩
    obtain ⟨key, hbegins, hsize, hvalue, -⟩ := prefixAt?_eq_some_iff.1 hfind
    exact ⟨key, hbegins, hsize, value?_ofList entries key ▸ hvalue⟩
  · rintro ⟨key, hbegins, hsize, hvalue⟩
    exact ⟨(length, value), prefixAt?_eq_some_iff.2
      ⟨key, hbegins, hsize, (value?_ofList entries key).trans hvalue, rfl⟩, rfl⟩

end BucketMap

end FormulaText
