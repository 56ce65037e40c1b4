import FormulaText.Proofs.PrefixMap.Agreement

/-!
# Keys that stand nowhere in a text

Entries added behind a table may take the place of others, and an empty key is found at every place
where nothing was found before. Still a scanner notices none of this in a text in which the added
keys do not stand: a key with characters is found where it was found, with the same value, and an
empty one counts as nothing.
-/

namespace FormulaText

namespace PrefixMap

variable {V : Type} {entries extra : List (String × V)} {text : List Char}

/-- Whether the keys with characters among some entries stand nowhere in a text. -/
def AreAbsent (extra : List (String × V)) (text : List Char) : Prop :=
  ∀ entry ∈ extra, entry.1 = "" ∨ ¬entry.1.toList <:+: text

theorem AreAbsent.suffix (h : AreAbsent extra text) {rest : List Char} (hrest : rest <:+ text) :
    AreAbsent extra rest :=
  fun entry hentry ↦
    (h entry hentry).imp_right fun habsent hstands ↦ habsent (hstands.trans hrest.isInfix)

/-- The key of an absent entry that a text begins with is empty. -/
theorem AreAbsent.eq_empty (h : AreAbsent extra text) {entry : String × V} (hentry : entry ∈ extra)
    (hbegins : entry.1.toList <+: text) : entry.1 = "" :=
  (h entry hentry).resolve_right fun habsent ↦ habsent hbegins.isInfix

/-- Absent entries give no value to a key with characters that the text begins with. -/
theorem AreAbsent.lastValue?_append (h : AreAbsent extra text) {key : String}
    (hkey : key.toList <+: text) (hne : key ≠ "") :
    lastValue? (entries ++ extra) key = lastValue? entries key := by
  have hnone : lastValue? extra key = none := by
    refine lastValue?_eq_none fun entry hentry heq ↦ hne ?_
    rw [← heq]
    exact h.eq_empty hentry (heq ▸ hkey)
  rw [PrefixMap.lastValue?_append, hnone, Option.none_or]

/-- Absent entries change no answer with characters in it. -/
theorem AreAbsent.isAnswer_append_iff (h : AreAbsent extra text) {bytes : Nat} (hbytes : 0 < bytes)
    {value : V} :
    IsAnswer (entries ++ extra) text (some (bytes, value)) ↔
      IsAnswer entries text (some (bytes, value)) := by
  have hvalue (key : String) (hkey : key.toList <+: text) (hsize : key.utf8ByteSize = bytes) :
      lastValue? (entries ++ extra) key = lastValue? entries key := by
    refine h.lastValue?_append hkey ?_
    rintro rfl
    exact absurd hsize (Nat.ne_of_lt hbytes)
  constructor
  · rintro ⟨key, hkey, hsize, hlast, hlongest⟩
    exact ⟨key, hkey, hsize, hvalue key hkey hsize ▸ hlast,
      fun entry hentry ↦ hlongest entry (List.mem_append_left extra hentry)⟩
  · rintro ⟨key, hkey, hsize, hlast, hlongest⟩
    refine ⟨key, hkey, hsize, (hvalue key hkey hsize).trans hlast,
      List.forall_mem_append.2 ⟨hlongest, fun entry hentry hbegins ↦ ?_⟩⟩
    rw [h.eq_empty hentry hbegins]
    exact Nat.zero_le bytes

end PrefixMap

namespace Scan

open PrefixMap

variable {M N : Type} [PrefixMap M Lexeme] [PrefixMap N Lexeme] {table : M} {wider : N}
  {entries extra : List (String × Lexeme)} {text : List Char}

/-- An answer without characters is no lexeme. -/
theorem lexemeAt?_eq_none_of_forall
    (h : ∀ bytes lexeme, 0 < bytes → longestPrefix? table text ≠ some (bytes, lexeme)) :
    lexemeAt? table text = none := by
  cases hfound : longestPrefix? table text with
  | none => rw [lexemeAt?, hfound]
  | some found =>
    have hzero : found.1 = 0 := by
      by_contra hne
      exact h found.1 found.2 (Nat.pos_of_ne_zero hne) hfound
    have hempty : takeBytes 0 text = [] := by
      cases text with
      | nil => rfl
      | cons c rest => simp [takeBytes, Nat.not_le.2 c.utf8Size_pos]
    rw [lexemeAt?, hfound]
    simp [hzero, hempty]

/-- Tables with the same answers, as far as there are characters in them, have the same lexemes. -/
theorem lexemeAt?_eq_of_pos
    (h : ∀ bytes lexeme, 0 < bytes → (longestPrefix? table text = some (bytes, lexeme) ↔
      longestPrefix? wider text = some (bytes, lexeme))) :
    lexemeAt? table text = lexemeAt? wider text := by
  by_cases hfound : ∃ bytes lexeme, 0 < bytes ∧ longestPrefix? table text = some (bytes, lexeme)
  case pos =>
    obtain ⟨bytes, lexeme, hbytes, htable⟩ := hfound
    rw [lexemeAt?, lexemeAt?, htable, (h bytes lexeme hbytes).1 htable]
  case neg =>
    have htable : lexemeAt? table text = none :=
      lexemeAt?_eq_none_of_forall fun bytes lexeme hbytes heq ↦
        hfound ⟨bytes, lexeme, hbytes, heq⟩
    have hwider : lexemeAt? wider text = none :=
      lexemeAt?_eq_none_of_forall fun bytes lexeme hbytes heq ↦
        hfound ⟨bytes, lexeme, hbytes, (h bytes lexeme hbytes).2 heq⟩
    rw [htable, hwider]

theorem lexemeAt?_append_of_areAbsent (htable : Answers table entries)
    (hwider : Answers wider (entries ++ extra)) (h : AreAbsent extra text) :
    lexemeAt? table text = lexemeAt? wider text := by
  refine lexemeAt?_eq_of_pos fun bytes lexeme hbytes ↦ ?_
  rw [htable.eq_some_iff, hwider.eq_some_iff, h.isAnswer_append_iff hbytes]

end Scan

open PrefixMap

theorem serveAlikeIn_of_areAbsent {M N : Type} [PrefixMap M Lexeme] [PrefixMap N Lexeme]
    {table : M} {wider : N} {entries extra : List (String × Lexeme)} {text : String}
    (htable : Answers table entries) (hwider : Answers wider (entries ++ extra))
    (h : AreAbsent extra text.toList) : ServeAlikeIn table wider text :=
  serveAlikeIn_of_lexemeAt? fun _ hrest ↦
    Scan.lexemeAt?_append_of_areAbsent htable hwider (h.suffix hrest)

/-- Entries added behind a table change nothing for a text if each of their keys is empty or stands
nowhere in it: pull by pull, both scanners give the same tokens, at the same places, and the same
errors. It does not matter which kind of map the table is, and whether it stays the same kind. -/
theorem absentEntries_change_nothing (T : Type → Type) [ByteMap T] [LawfulByteMap T]
    (hash : String → UInt64) (entries extra : List (String × Lexeme)) (text : String)
    (h : ∀ entry ∈ extra, entry.1 = "" ∨ ¬entry.1.toList <:+: text.toList) :
    (∀ (M N : Type) [PrefixMap M Lexeme] [PrefixMap N Lexeme] (table : M) (wider : N),
      Answers table entries → Answers wider (entries ++ extra) → ServeAlikeIn table wider text) ∧
    ServeAlikeIn (Trie.ofList entries) (Trie.ofList (entries ++ extra)) text ∧
    ServeAlikeIn (SortedMap.ofList entries) (SortedMap.ofList (entries ++ extra)) text ∧
    ServeAlikeIn (BucketMap.ofList entries : BucketMap hash Lexeme)
      (BucketMap.ofList (entries ++ extra) : BucketMap hash Lexeme) text ∧
    ServeAlikeIn (SubtrieMap.ofList entries : SubtrieMap T Lexeme)
      (SubtrieMap.ofList (entries ++ extra) : SubtrieMap T Lexeme) text := by
  have hserve (M N : Type) [PrefixMap M Lexeme] [PrefixMap N Lexeme] (table : M) (wider : N)
      (htable : Answers table entries) (hwider : Answers wider (entries ++ extra)) :
      ServeAlikeIn table wider text :=
    serveAlikeIn_of_areAbsent htable hwider h
  refine ⟨hserve, ?_, ?_, ?_, ?_⟩
  · exact hserve _ _ _ _ (answers_trie _) (answers_trie _)
  · exact hserve _ _ _ _ (SortedMap.answers_ofList _) (SortedMap.answers_ofList _)
  · exact hserve _ _ _ _ (BucketMap.answers_ofList _) (BucketMap.answers_ofList _)
  · exact hserve _ _ _ _ (SubtrieMap.answers_ofList _) (SubtrieMap.answers_ofList _)

/-- An empty key and a longer control word change nothing in front of a shorter one. -/
theorem absentEntries_change_nothing_space :
    let entries := [("\\a", .space), ("+", .operator .plus)]
    let extra := [("", .equal), ("\\ab", .underscore), ("++", .space)]
    (∀ entry ∈ extra, entry.1 = "" ∨ ¬entry.1.toList <:+: "+\\a+b".toList) ∧
      ServeAlikeIn (SortedMap.ofList entries) (SortedMap.ofList (entries ++ extra)) "+\\a+b" := by
  intro entries extra
  have habsent : ∀ entry ∈ extra, entry.1 = "" ∨ ¬entry.1.toList <:+: "+\\a+b".toList := by
    decide
  have hserve := absentEntries_change_nothing EntryMap fnv1a entries extra "+\\a+b" habsent
  exact ⟨habsent, hserve.2.2.1⟩

end FormulaText
