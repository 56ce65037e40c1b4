import FormulaText.Proofs.PrefixMap.Buckets
import FormulaText.Proofs.PrefixMap.Sorted
import FormulaText.Proofs.PrefixMap.Subtries
import FormulaText.Proofs.Scan.Lockstep

/-!
# All prefix maps are the same function

Whatever a prefix map is made of, its answers are those of its entries, and a scanner learns
nothing else of its table. So scanners with tables of the same entries give the same tokens and the
same errors, pull by pull, also behind an error.
-/

namespace FormulaText

variable {M N : Type} [PrefixMap M Lexeme] [PrefixMap N Lexeme] {left : M} {right : N}

theorem Scan.lexemeAt?_eq (h : ∀ text, PrefixMap.longestPrefix? left text =
    PrefixMap.longestPrefix? right text) (text : List Char) :
    lexemeAt? left text = lexemeAt? right text := by
  rw [lexemeAt?, lexemeAt?, h]

/-- Whether two tables serve both scanners alike, in every text and at every pull. -/
def ServeAlike (left : M) (right : N) : Prop :=
  ∀ text count,
    TokenSource.answer (Latex.Scanner.withTable left text) count =
      TokenSource.answer (Latex.Scanner.withTable right text) count ∧
    TokenSource.answer (Linear.Scanner.withTable left text) count =
      TokenSource.answer (Linear.Scanner.withTable right text) count

/-- Tables with the same answers serve alike: they lead to the same places in the text. -/
theorem serveAlike_of_eq (h : ∀ text, PrefixMap.longestPrefix? left text =
    PrefixMap.longestPrefix? right text) : ServeAlike left right :=
  fun _ ↦ serveAlikeIn_of_lexemeAt? fun rest _ ↦ Scan.lexemeAt?_eq h rest

/-- Of the entries of a list, the sorted list, the hash tables with any hash function, the map of
byte strings and the trie give the same answer to every query: the only one that the entries allow.
Its length is that of some characters at the beginning of the query. With any of the maps for a
table, the scanners give the same tokens and errors, pull by pull. -/
theorem prefixMaps_agree (T : Type → Type) [ByteMap T] [LawfulByteMap T]
    (hash : String → UInt64) :
    (∀ (V : Type) (entries : List (String × V)) (query : String), ∃ answer,
      PrefixMap.IsAnswer entries query.toList answer ∧
      (∀ other, PrefixMap.IsAnswer entries query.toList other → other = answer) ∧
      (∀ bytes value, answer = some (bytes, value) →
        (⟨bytes⟩ : String.Pos.Raw).IsValid query) ∧
      (SortedMap.ofList entries).longestPrefix? query.toList = answer ∧
      (BucketMap.ofList entries : BucketMap hash V).longestPrefix? query.toList = answer ∧
      (SubtrieMap.ofList entries : SubtrieMap T V).longestPrefix? query.toList = answer ∧
      (Trie.ofList entries).longestPrefix? query.toList = answer) ∧
    ∀ entries : List (String × Lexeme),
      ServeAlike (SortedMap.ofList entries) (Trie.ofList entries) ∧
      ServeAlike (BucketMap.ofList entries : BucketMap hash Lexeme) (Trie.ofList entries) ∧
      ServeAlike (SubtrieMap.ofList entries : SubtrieMap T Lexeme) (Trie.ofList entries) := by
  constructor
  · intro V entries query
    have hanswer := PrefixMap.answers_trie entries query.toList
    refine ⟨_, hanswer, fun other hother ↦ hother.unique hanswer, ?_, ?_, ?_, ?_, rfl⟩
    · intro bytes value h
      rw [h] at hanswer
      exact hanswer.isValid
    · exact (SortedMap.answers_ofList entries query.toList).unique hanswer
    · exact (BucketMap.answers_ofList entries query.toList).unique hanswer
    · exact (SubtrieMap.answers_ofList entries query.toList).unique hanswer
  · intro entries
    have htrie := PrefixMap.answers_trie entries
    exact ⟨serveAlike_of_eq ((SortedMap.answers_ofList entries).eq htrie),
      serveAlike_of_eq ((BucketMap.answers_ofList entries).eq htrie),
      serveAlike_of_eq ((SubtrieMap.answers_ofList entries).eq htrie)⟩

/-- The last of two entries with a key of two bytes counts, in a map of byte strings and in hash
tables, and the empty key only where no other one fits. -/
theorem prefixMaps_agree_entryMap :
    let entries := [("é", 1), ("", 0), ("éa", 2), ("é", 3)]
    (SubtrieMap.ofList entries : SubtrieMap EntryMap Nat).longestPrefix? ['é', 'b'] = some (2, 3) ∧
      (BucketMap.ofList entries : BucketMap fnv1a Nat).longestPrefix? ['e'] = some (0, 0) := by
  obtain ⟨long, -, -, -, -, -, hlong, htrie⟩ := (prefixMaps_agree EntryMap fnv1a).1 Nat
    [("é", 1), ("", 0), ("éa", 2), ("é", 3)] "éb"
  obtain ⟨short, -, -, -, -, hshort, -, htrie'⟩ := (prefixMaps_agree EntryMap fnv1a).1 Nat
    [("é", 1), ("", 0), ("éa", 2), ("é", 3)] "e"
  exact ⟨hlong.trans (htrie.symm.trans (by decide)), hshort.trans (htrie'.symm.trans (by decide))⟩

end FormulaText
