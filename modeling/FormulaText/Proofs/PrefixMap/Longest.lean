import FormulaText.PrefixMap.Trie

/-!
# The longest prefix among entries

What a prefix map answers is determined by the list of its entries: the last entry of the longest
key that the text begins with. A trie answers so after each insertion.
-/

namespace FormulaText

namespace PrefixMap

variable {V : Type}

/-- The new one of two finds, if it is as long. -/
def longer (found? : Option (Nat × V)) (new : Nat × V) : Option (Nat × V) :=
  if found?.all (·.1 ≤ new.1) then some new else found?

def noting (text : List Char) (found? : Option (Nat × V)) (entry : String × V) : Option (Nat × V) :=
  if entry.1.toList.isPrefixOf text then longer found? (entry.1.utf8ByteSize, entry.2) else found?

/-- The length and the value of the last entry with the longest key that a text begins with. -/
def longestOf (entries : List (String × V)) (text : List Char) : Option (Nat × V) :=
  entries.foldl (noting text) none

theorem longestOf_eq_none {entries : List (String × V)} {text : List Char}
    (h : ∀ entry ∈ entries, entry.1.toList.isPrefixOf text = false) :
    longestOf entries text = none := by
  rw [longestOf]
  induction entries with
  | nil => rfl
  | cons entry entries ih =>
    rw [List.foldl_cons, noting, h entry List.mem_cons_self]
    exact ih fun other hother ↦ h other (List.mem_cons_of_mem _ hother)

/-- Only which keys a text begins with counts for what is found. -/
theorem longestOf_congr {entries : List (String × V)} {text other : List Char}
    (h : ∀ entry ∈ entries, entry.1.toList.isPrefixOf text = entry.1.toList.isPrefixOf other) :
    longestOf entries text = longestOf entries other := by
  rw [longestOf, longestOf]
  generalize none = found?
  induction entries generalizing found? with
  | nil => rfl
  | cons entry entries ih =>
    rw [List.foldl_cons, List.foldl_cons, noting, noting, h entry List.mem_cons_self]
    exact ih (fun other hother ↦ h other (List.mem_cons_of_mem _ hother)) _

/-- A property of all entries whose keys begin the text is one of what is found. -/
theorem of_foldl_noting {entries : List (String × V)} {text : List Char} {P : Nat × V → Prop}
    {found? : Option (Nat × V)} {find : Nat × V} (hfound : ∀ found, found? = some found → P found)
    (h : ∀ entry ∈ entries, entry.1.toList.isPrefixOf text → P (entry.1.utf8ByteSize, entry.2))
    (hfind : entries.foldl (noting text) found? = some find) : P find := by
  induction entries generalizing found? with
  | nil => exact hfound find hfind
  | cons entry entries ih =>
    refine ih ?_ (fun other hother ↦ h other (List.mem_cons_of_mem _ hother)) hfind
    intro found hnew
    unfold noting longer at hnew
    split at hnew
    · next hbegins =>
      split at hnew
      · rw [Option.some.injEq] at hnew
        exact hnew ▸ h entry List.mem_cons_self hbegins
      · exact hfound found hnew
    · exact hfound found hnew

/-- What is found is an entry whose key begins the text. -/
theorem exists_entry_of_longestOf {entries : List (String × V)} {text : List Char} {bytes : Nat}
    {value : V} (h : longestOf entries text = some (bytes, value)) :
    ∃ entry ∈ entries, entry.1.toList <+: text ∧ (bytes, value) = (entry.1.utf8ByteSize, entry.2) := by
  refine of_foldl_noting (P := fun find ↦ ∃ entry ∈ entries, entry.1.toList <+: text ∧
    find = (entry.1.utf8ByteSize, entry.2)) ?_ ?_ h
  · intro found hfound
    contradiction
  · intro entry hentry hbegins
    exact ⟨entry, hentry, List.isPrefixOf_iff_prefix.1 hbegins, rfl⟩

/-! ## Texts and bytes -/

theorem utf8Bytes_append (left right : List Char) :
    utf8Bytes (left ++ right) = utf8Bytes left ++ utf8Bytes right :=
  List.flatMap_append

theorem length_utf8Bytes_toList (text : String) :
    (utf8Bytes text.toList).length = text.utf8ByteSize := by
  rw [← String.size_toByteArray, ← String.utf8Encode_toList, List.utf8Encode, utf8Bytes]
  exact (List.size_toByteArray).symm

/-- A text begins with a key exactly if its bytes begin with those of the key. -/
theorem utf8Bytes_isPrefixOf (key text : List Char) :
    (utf8Bytes key).isPrefixOf (utf8Bytes text) = key.isPrefixOf text := by
  rw [Bool.eq_iff_iff, List.isPrefixOf_iff_prefix, List.isPrefixOf_iff_prefix]
  constructor
  · rintro ⟨rest, hrest⟩
    refine List.isPrefix_of_utf8Encode_append_eq_utf8Encode rest.toByteArray ?_
    rw [List.utf8Encode, List.utf8Encode, ← List.toByteArray_append]
    exact congrArg List.toByteArray hrest
  · rintro ⟨rest, rfl⟩
    rw [utf8Bytes_append]
    exact List.prefix_append _ _

theorem utf8Bytes_isPrefix_iff {key text : List Char} :
    utf8Bytes key <+: utf8Bytes text ↔ key <+: text := by
  rw [← List.isPrefixOf_iff_prefix, utf8Bytes_isPrefixOf, List.isPrefixOf_iff_prefix]

/-- A text is known by its bytes. -/
theorem eq_of_utf8Bytes {key other : String}
    (h : utf8Bytes key.toList = utf8Bytes other.toList) : key = other := by
  have hleft : key.toList <+: other.toList :=
    utf8Bytes_isPrefix_iff.1 (h ▸ List.prefix_rfl)
  have hright : other.toList <+: key.toList :=
    utf8Bytes_isPrefix_iff.1 (h ▸ List.prefix_rfl)
  exact String.toList_inj.1 (hleft.eq_of_length_le hright.length_le)

theorem length_utf8Bytes_cons (c : Char) (text : List Char) :
    (utf8Bytes (c :: text)).length = c.utf8Size + (utf8Bytes text).length := by
  rw [utf8Bytes, List.flatMap_cons, List.length_append, String.length_utf8EncodeChar]
  rfl

/-- The characters of a key are those that its bytes take from a text. -/
theorem takeBytes_length_utf8Bytes (key rest : List Char) :
    takeBytes (utf8Bytes key).length (key ++ rest) = key := by
  induction key with
  | nil =>
    cases rest with
    | nil => rfl
    | cons c rest =>
      have hpos := Char.utf8Size_pos c
      have hnot : ¬c.utf8Size ≤ (utf8Bytes []).length := Nat.not_le.2 hpos
      rw [List.nil_append, takeBytes, if_neg hnot]
  | cons c key ih =>
    rw [length_utf8Bytes_cons, List.cons_append, takeBytes, if_pos (Nat.le_add_right _ _),
      Nat.add_sub_cancel_left, ih]

theorem longer_eq_some (found? : Option (Nat × V)) (new : Nat × V) :
    ∃ find, longer found? new = some find := by
  cases found? with
  | none => exact ⟨new, rfl⟩
  | some found =>
    unfold longer
    split
    · exact ⟨new, rfl⟩
    · exact ⟨found, rfl⟩

/-- Of a deeper find and another one, only the deeper one counts for what is longer. -/
theorem longer_or {deep? shallow? : Option (Nat × V)} {new : Nat × V}
    (hshallow : shallow?.all (·.1 ≤ new.1)) :
    longer (deep?.or shallow?) new = (longer deep? new).or shallow? := by
  cases deep? with
  | none =>
    rw [Option.none_or, longer, if_pos hshallow]
    rfl
  | some deep =>
    obtain ⟨find, hfind⟩ := longer_eq_some (some deep) new
    rw [Option.some_or, hfind, Option.some_or]

theorem longer_of_lt {deep? : Option (Nat × V)} {new : Nat × V}
    (hdeep : deep?.all (new.1 < ·.1)) : longer deep? new = deep?.or (some new) := by
  cases deep? with
  | none => rfl
  | some deep =>
    have hlt : new.1 < deep.1 := by simpa using hdeep
    have hnot : ¬(some deep).all (·.1 ≤ new.1) = true := by simpa using hlt
    rw [longer, if_neg hnot, Option.some_or]

end PrefixMap

namespace Trie

variable {V : Type}

open PrefixMap

namespace Branches

/-- The longest key below some branches that bytes begin with, where `depth` bytes led there. -/
def longest? : Nat → Branches V → List UInt8 → Option (Nat × V)
  | _, _, [] => none
  | depth, branches, byte :: bytes =>
    match branches.find? byte with
    | none => none
    | some (value?, below) =>
      (longest? (depth + 1) below bytes).or (value?.map (depth + 1, ·))

@[simp] theorem longest?_nil (depth : Nat) (branches : Branches V) :
    branches.longest? depth [] = none := rfl

@[simp] theorem longest?_empty (depth : Nat) (bytes : List UInt8) :
    (empty : Branches V).longest? depth bytes = none := by
  cases bytes <;> rfl

/-- A find below some branches goes on where these begin. -/
theorem lt_longest? (depth : Nat) (branches : Branches V) (bytes : List UInt8) :
    (branches.longest? depth bytes).all (depth < ·.1) := by
  induction bytes generalizing depth branches with
  | nil => rfl
  | cons byte bytes ih =>
    rw [longest?]
    split
    · rfl
    · next value? below hfind =>
      have hbelow := ih (depth + 1) below
      cases hdeep : below.longest? (depth + 1) bytes with
      | none => cases value? <;> simp
      | some deep =>
        rw [hdeep] at hbelow
        have hlt : depth + 1 < deep.1 := by simpa using hbelow
        simp only [Option.some_or, Option.all_some, decide_eq_true_eq]
        omega

theorem path_cons (byte next : UInt8) (value : V) (rest : List UInt8) :
    path byte value (next :: rest) = .branch byte none (insert next rest value .empty) .empty :=
  rfl

def at? (branches : Branches V) (byte : UInt8) : Option V × Branches V :=
  (branches.find? byte).getD (none, .empty)

/-- Only the branch of the first byte of a key changes when the key is inserted. -/
theorem find?_insert_of_ne {byte other : UInt8} (hne : other ≠ byte) (rest : List UInt8) (value : V)
    (branches : Branches V) :
    (branches.insert byte rest value).find? other = branches.find? other := by
  induction branches with
  | empty => cases rest <;> simp [insert, path, find?, hne]
  | branch head value? below beside _ ih =>
    by_cases hhead : byte = head
    · subst hhead
      cases rest <;> simp [insert, find?, hne]
    · simp only [insert, if_neg hhead, find?, ih]

theorem find?_insert_nil (byte : UInt8) (value : V) (branches : Branches V) :
    (branches.insert byte [] value).find? byte = some (some value, (branches.at? byte).2) := by
  induction branches with
  | empty => simp [insert, path, find?, at?]
  | branch head value? below beside _ ih =>
    by_cases hhead : byte = head
    · simp [insert, find?, at?, hhead]
    · simpa [insert, find?, at?, hhead] using ih

theorem find?_insert_cons (byte next : UInt8) (rest : List UInt8) (value : V)
    (branches : Branches V) :
    (branches.insert byte (next :: rest) value).find? byte =
      some ((branches.at? byte).1, (branches.at? byte).2.insert next rest value) := by
  induction branches with
  | empty => simp [insert, path_cons, find?, at?]
  | branch head value? below beside _ ih =>
    by_cases hhead : byte = head
    · simp [insert, find?, at?, hhead]
    · simpa [insert, find?, at?, hhead] using ih

theorem longest?_cons (depth : Nat) (branches : Branches V) (byte : UInt8) (bytes : List UInt8) :
    branches.longest? depth (byte :: bytes) =
      ((branches.at? byte).2.longest? (depth + 1) bytes).or
        ((branches.at? byte).1.map (depth + 1, ·)) := by
  rw [longest?, at?]
  cases branches.find? byte <;> simp

/-- An inserted key is found exactly where bytes begin with it and no longer key is. -/
theorem longest?_insert (depth : Nat) (branches : Branches V) (byte : UInt8) (rest : List UInt8)
    (value : V) (bytes : List UInt8) :
    (branches.insert byte rest value).longest? depth bytes =
      if (byte :: rest).isPrefixOf bytes then
        longer (branches.longest? depth bytes) (depth + (rest.length + 1), value)
      else branches.longest? depth bytes := by
  induction rest generalizing depth branches byte bytes with
  | nil =>
    cases bytes with
    | nil => rfl
    | cons first bytes =>
      by_cases hfirst : first = byte
      · subst hfirst
        have hbegins : [first].isPrefixOf (first :: bytes) = true := by simp
        rw [longest?, find?_insert_nil, if_pos hbegins, longest?_cons]
        rw [longer_or (by cases (branches.at? first).1 <;> simp)]
        rw [longer_of_lt (lt_longest? (depth + 1) _ bytes), Option.or_assoc]
        rfl
      · have hbegins : ¬[byte].isPrefixOf (first :: bytes) = true := by simp [Ne.symm hfirst]
        rw [longest?, find?_insert_of_ne hfirst, if_neg hbegins, longest?]
  | cons next rest ih =>
    cases bytes with
    | nil => rfl
    | cons first bytes =>
      by_cases hfirst : first = byte
      · subst hfirst
        rw [longest?, find?_insert_cons, longest?_cons]
        simp only [ih]
        have hbegins : (first :: next :: rest).isPrefixOf (first :: bytes) =
            (next :: rest).isPrefixOf bytes := by
          simp [List.isPrefixOf]
        rw [hbegins]
        split
        · have hshallow : ((branches.at? first).1.map (depth + 1, ·)).all
              (·.1 ≤ depth + ((next :: rest).length + 1)) := by
            cases (branches.at? first).1 <;> simp
          rw [longer_or hshallow, List.length_cons, Nat.add_assoc, Nat.add_comm 1]
        · rfl
      · have hbegins : ¬(byte :: next :: rest).isPrefixOf (first :: bytes) = true := by
          simp [List.isPrefixOf, Ne.symm hfirst]
        rw [longest?, find?_insert_of_ne hfirst, if_neg hbegins, longest?]

end Branches

namespace Walk

theorem longest?_foldl_step_of_empty (depth : Nat) (found? : Option (Nat × V))
    (bytes : List UInt8) :
    (bytes.foldl step (⟨.empty, depth, found?⟩ : Walk V)).longest? = found? := by
  induction bytes generalizing depth with
  | nil => rfl
  | cons byte bytes ih => exact ih (depth + 1)

/-- A walk along some bytes finds the longest key below its branches, or else what it has found. -/
theorem longest?_foldl_step (walk : Walk V) (bytes : List UInt8) :
    (bytes.foldl step walk).longest? =
      (walk.branches.longest? walk.depth bytes).or walk.longest? := by
  induction bytes generalizing walk with
  | nil => simp
  | cons byte bytes ih =>
    rw [List.foldl_cons, step, Branches.longest?]
    cases walk.branches.find? byte with
    | none => exact longest?_foldl_step_of_empty _ _ bytes
    | some found =>
      obtain ⟨value?, below⟩ := found
      rw [ih, Option.or_assoc]

theorem along_longest? (walk : Walk V) (text : List Char) :
    (walk.along text).longest? = ((utf8Bytes text).foldl step walk).longest? := by
  induction text generalizing walk with
  | nil => rfl
  | cons c rest ih =>
    have hbytes : utf8Bytes (c :: rest) = String.utf8EncodeChar c ++ utf8Bytes rest := rfl
    rw [along, hbytes, List.foldl_append]
    split
    · next hempty =>
      obtain ⟨branches, depth, found?⟩ := walk
      cases branches with
      | empty => rw [← List.foldl_append, longest?_foldl_step_of_empty]
      | branch => contradiction
    · exact ih _

end Walk

theorem longestPrefix?_eq (trie : Trie V) (text : List Char) :
    trie.longestPrefix? text =
      (trie.branches.longest? 0 (utf8Bytes text)).or (trie.value?.map (0, ·)) := by
  rw [longestPrefix?, Walk.along_longest?, Walk.longest?_foldl_step]
  rfl

/-- An inserted entry is found where the text begins with its key and no longer key is found. -/
theorem longestPrefix?_insert (trie : Trie V) (key : String) (value : V) (text : List Char) :
    (trie.insert key value).longestPrefix? text =
      noting text (trie.longestPrefix? text) (key, value) := by
  rw [noting, ← utf8Bytes_isPrefixOf, ← length_utf8Bytes_toList, longestPrefix?_eq,
    longestPrefix?_eq, insert]
  cases utf8Bytes key.toList with
  | nil =>
    have hdeep := Branches.lt_longest? 0 trie.branches (utf8Bytes text)
    have hshallow : (trie.value?.map (0, ·)).all (·.1 ≤ ([] : List UInt8).length) := by
      cases trie.value? <;> simp
    simp only [List.isPrefixOf, if_true, Option.map_some]
    rw [longer_or hshallow, List.length_nil, longer_of_lt hdeep, Option.or_assoc]
    rfl
  | cons byte rest =>
    simp only [Branches.longest?_insert]
    split
    · have hshallow : (trie.value?.map (0, ·)).all (·.1 ≤ (byte :: rest).length) := by
        cases trie.value? <;> simp
      rw [longer_or hshallow, List.length_cons, Nat.zero_add]
    · rfl

/-- A trie of some entries finds the last one with the longest key. -/
theorem longestPrefix?_ofList (entries : List (String × V)) (text : List Char) :
    (ofList entries).longestPrefix? text = longestOf entries text := by
  have hfold (trie : Trie V) :
      (entries.foldl (fun trie entry ↦ trie.insert entry.1 entry.2) trie).longestPrefix? text =
        entries.foldl (noting text) (trie.longestPrefix? text) := by
    induction entries generalizing trie with
    | nil => rfl
    | cons entry entries ih =>
      rw [List.foldl_cons, List.foldl_cons, ih, longestPrefix?_insert]
  rw [ofList, hfold, longestOf]
  congr 1
  rw [longestPrefix?_eq]
  exact Option.or_none ▸ Branches.longest?_empty 0 _

end Trie

end FormulaText
