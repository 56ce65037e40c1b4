import FormulaText.Proofs.Number.Notation
import FormulaText.Proofs.Scan.Settling

/-!
# The longest numeral

What is taken for a numeral at the beginning of a text is the longest one that the text begins with.
A run of digits and points goes on behind a point only if it is the first one, and a point alone is
told from a numeral by the length of the run. The full notation of numbers gives the same number for
each numeral, so whatever is taken for one is read, and no scanner ever refuses a numeral.
-/

namespace FormulaText

open PrefixMap

namespace Scan

variable {text piece numeral : List Char}

/-- A text begins with a numeral, and with no longer one. -/
structure IsLongestNumeral (text numeral : List Char) : Prop where
  isPrefix : numeral <+: text
  isNumeral : Decimal.isNumeral numeral = true
  longest (other : List Char) (hbegins : other <+: text) (h : Decimal.isNumeral other = true) :
    other.length ≤ numeral.length

/-- Digits with at most one point at the beginning of a text are part of the run there. -/
theorem isPrefix_digitsAndPoint {pointSeen : Bool} (hbegins : piece <+: text)
    (hall : ∀ c ∈ piece, c.isDigit = true ∨ c = '.')
    (hcount : piece.count '.' ≤ if pointSeen then 0 else 1) :
    piece <+: digitsAndPoint pointSeen text := by
  induction piece generalizing text pointSeen with
  | nil => exact List.nil_prefix
  | cons c piece ih =>
    obtain ⟨rest, rfl⟩ := hbegins
    rw [List.forall_mem_cons] at hall
    rw [List.cons_append, digitsAndPoint]
    split
    · next hdigit =>
      have hpoint : c ≠ '.' := by
        rintro rfl
        contradiction
      rw [List.count_cons_of_ne hpoint] at hcount
      exact List.cons_prefix_cons.2 ⟨rfl, ih (List.prefix_append _ _) hall.2 hcount⟩
    · next hdigit =>
      obtain rfl := hall.1.resolve_left hdigit
      rw [List.count_cons_self] at hcount
      -- the point is counted, so none was seen before it and none may follow
      cases pointSeen with
      | true => exact absurd hcount (Nat.not_succ_le_zero _)
      | false =>
        have hrest : piece.count '.' ≤ 0 := Nat.le_of_succ_le_succ hcount
        simp only [decide_true, Bool.not_false, Bool.and_self, if_true]
        exact List.cons_prefix_cons.2 ⟨rfl, ih (List.prefix_append _ _) hall.2 hrest⟩

/-- Each numeral that a text begins with is the beginning of what is taken for one. -/
theorem exists_numeralAt?_of_isPrefix (hbegins : numeral <+: text)
    (h : Decimal.isNumeral numeral = true) :
    ∃ longest, numeralAt? text = some longest ∧ numeral <+: longest := by
  have hall := Decimal.isDigit_or_point_of_isNumeral h
  simp only [Decimal.isNumeral, Bool.and_eq_true, decide_eq_true_eq] at h
  have hrun : numeral <+: digitsAndPoint false text := isPrefix_digitsAndPoint hbegins hall h.2
  obtain ⟨c, hc, hdigit⟩ := List.any_eq_true.1 h.1.1
  have hany : (digitsAndPoint false text).any Char.isDigit = true :=
    List.any_eq_true.2 ⟨c, hrun.subset hc, hdigit⟩
  exact ⟨_, numeralAt?_eq_some_iff.2 ⟨rfl, hany⟩, hrun⟩

theorem numeralAt?_eq_some_iff_isLongestNumeral :
    numeralAt? text = some numeral ↔ IsLongestNumeral text numeral := by
  constructor
  · intro h
    refine ⟨numeralAt?_isPrefix h, isNumeral_of_numeralAt? h, fun other hbegins hother ↦ ?_⟩
    obtain ⟨longest, hlongest, hprefix⟩ := exists_numeralAt?_of_isPrefix hbegins hother
    obtain rfl := Option.some.inj (h.symm.trans hlongest)
    exact hprefix.length_le
  · rintro ⟨hbegins, hnumeral, hlongest⟩
    obtain ⟨longest, hfound, hprefix⟩ := exists_numeralAt?_of_isPrefix hbegins hnumeral
    have hle := hlongest longest (numeralAt?_isPrefix hfound) (isNumeral_of_numeralAt? hfound)
    rw [hfound, hprefix.eq_of_length_le hle]

theorem isSome_numeralAt?_iff :
    (numeralAt? text).isSome = true ↔
      ∃ literal, literal <+: text ∧ Decimal.isNumeral literal = true := by
  constructor
  · intro h
    obtain ⟨numeral, hnumeral⟩ := Option.isSome_iff_exists.1 h
    exact ⟨numeral, numeralAt?_isPrefix hnumeral, isNumeral_of_numeralAt? hnumeral⟩
  · rintro ⟨literal, hbegins, hliteral⟩
    obtain ⟨longest, hlongest, -⟩ := exists_numeralAt?_of_isPrefix hbegins hliteral
    rw [hlongest]
    rfl

/-- The length of a run tells whether it is a numeral: one character is enough unless it is a
point. -/
theorem isSome_numeralAt?_iff_length :
    (numeralAt? text).isSome = true ↔
      1 < (digitsAndPoint false text).length ∨
        '.' ∉ digitsAndPoint false text ∧ 0 < (digitsAndPoint false text).length := by
  obtain ⟨hall, hcount⟩ := all_digitsAndPoint false text
  have hsome : (numeralAt? text).isSome = (digitsAndPoint false text).any Char.isDigit := by
    rw [numeralAt?]
    cases (digitsAndPoint false text).any Char.isDigit <;> rfl
  rw [hsome]
  generalize digitsAndPoint false text = run at hall hcount
  simp only [List.all_eq_true, Bool.or_eq_true, beq_iff_eq] at hall
  constructor
  · intro hany
    obtain ⟨c, hc, hdigit⟩ := List.any_eq_true.1 hany
    by_cases hpoint : '.' ∈ run
    · -- the point and the digit are two characters
      have hne : c ≠ '.' := by
        rintro rfl
        contradiction
      refine .inl (Nat.lt_of_not_le fun hle ↦ hne ?_)
      obtain ⟨only, rfl⟩ :=
        List.length_eq_one_iff.1 (Nat.le_antisymm hle (List.length_pos_of_mem hc))
      rw [List.mem_singleton.1 hc, List.mem_singleton.1 hpoint]
    · exact .inr ⟨hpoint, List.length_pos_of_mem hc⟩
  · intro hlength
    by_contra hnone
    simp only [List.any_eq_true, not_exists, not_and] at hnone
    have hpoints : run = List.replicate run.length '.' :=
      List.eq_replicate_iff.2 ⟨rfl, fun c hc ↦ (hall c hc).resolve_left (hnone c hc)⟩
    rw [hpoints, List.count_replicate_self] at hcount
    rcases hlength with hlong | ⟨hpoint, hpos⟩
    · exact absurd hcount (Nat.not_le.2 hlong)
    · rw [hpoints] at hpoint
      exact hpoint (List.mem_replicate.2 ⟨Nat.ne_of_gt hpos, rfl⟩)

theorem length_utf8Bytes_of_isNumeral (h : Decimal.isNumeral numeral = true) :
    (utf8Bytes numeral).length = numeral.length := by
  have hall := Decimal.isDigit_or_point_of_isNumeral h
  clear h
  induction numeral with
  | nil => rfl
  | cons c rest ih =>
    rw [List.forall_mem_cons] at hall
    have hsize : c.utf8Size = 1 := by
      rcases hall.1 with hdigit | rfl
      · simp only [Char.isDigit, Bool.and_eq_true, decide_eq_true_eq] at hdigit
        rw [Char.utf8Size_eq_one_iff]
        exact UInt32.le_trans hdigit.2 (by decide)
      · rfl
    rw [length_utf8Bytes_cons, ih hall.2, hsize, List.length_cons, Nat.add_comm]

end Scan

/-! ## What scanners refuse -/

/-- Whether a scanner refuses a text with this fault: a symbol is unknown, or a delimiter has no
bracket. -/
def Fault.isOfScanner : Fault → Bool
  | .unknownSymbol _ => true
  | .bareDelimiter _ => true
  | _ => false

/-- The message of such a fault begins with another letter than that of an invalid number. -/
theorem Fault.head?_message_ne {fault : Fault} (h : fault.isOfScanner = true) :
    fault.message.toList.head? ≠ some 'I' := by
  cases fault with
  | unknownSymbol text =>
    have hfirst : "Unknown symbol ".toList.head? = some 'U' := by decide
    have hmessage : (unknownSymbol text).message = "Unknown symbol " ++ Text.quoted text := rfl
    rw [hmessage, String.toList_append, List.head?_append, hfirst, Option.some_or]
    decide
  | bareDelimiter opens => cases opens <;> decide
  | _ => contradiction

theorem Fault.not_invalidNumber_of_isOfScanner {fault : Fault} (h : fault.isOfScanner = true) :
    (∀ text, fault ≠ .invalidNumber text) ∧
      ¬"Invalid number".toList <+: fault.message.toList := by
  constructor
  · rintro text rfl
    contradiction
  · rintro ⟨rest, hrest⟩
    have hfirst : "Invalid number".toList.head? = some 'I' := by decide
    refine head?_message_ne h ?_
    rw [← hrest, List.head?_append, hfirst, Option.some_or]

namespace Scan

theorem Steps.isOfScanner {read : Cursor → Except SyntaxError Token × Cursor} {start : Cursor}
    {result : Except SyntaxError Token × Cursor} (h : Steps read start result) {error : SyntaxError}
    (herror : result.1 = .error error) : error.fault.isOfScanner = true := by
  cases h with
  | progress htakes =>
    have hprogress := htakes.isProgress
    rw [herror] at hprogress
    obtain ⟨opens, hopens⟩ := hprogress
    rw [hopens]
    rfl
  | final hanswer _ _ =>
    rw [herror] at hanswer
    obtain ⟨symbol, hsymbol⟩ := hanswer
    rw [hsymbol]
    rfl

theorem readNumeral_eq_read {place : Cursor} {numeral : List Char}
    (h : numeralAt? place.remaining = some numeral) :
    ∃ value, Binary64.ofText? (String.ofList numeral) = some value ∧
      readNumeral place numeral = place.read (.number value) numeral.length := by
  obtain ⟨decimal, hdecimal⟩ := exists_decimal_of_numeralAt? h
  refine ⟨_, Binary64.ofText?_ofList hdecimal, ?_⟩
  rw [readNumeral, hdecimal]

end Scan

section Scanners

open Scan TokenSource

variable {M : Type} [PrefixMap M Lexeme]

theorem Latex.isOfScanner_of_next (scanner : Latex.Scanner M) {error : SyntaxError}
    (h : (next scanner).1 = .error error) : error.fault.isOfScanner = true :=
  (Latex.steps_readToken scanner.table scanner.cursor).isOfScanner h

theorem Linear.isOfScanner_of_next (scanner : Linear.Scanner M) {error : SyntaxError}
    (h : (next scanner).1 = .error error) : error.fault.isOfScanner = true :=
  (Linear.steps_readToken scanner.table scanner.cursor).isOfScanner h

/-- What is taken for a numeral is the longest one that the text begins with, and there is one
exactly if the run of digits and points is longer than a point alone. The full notation of numbers
reads it, and both scanners give the number. So with any table, in any state, neither of them finds
that a numeral is none. -/
theorem scanners_take_longestNumeral :
    (∀ text, ((numeralAt? text).isSome = true ↔
        ∃ literal, literal <+: text ∧ Decimal.isNumeral literal = true) ∧
      ((numeralAt? text).isSome = true ↔
        1 < (digitsAndPoint false text).length ∨
          '.' ∉ digitsAndPoint false text ∧ 0 < (digitsAndPoint false text).length)) ∧
    (∀ text numeral, (numeralAt? text = some numeral ↔ IsLongestNumeral text numeral) ∧
      (numeralAt? text = some numeral → (utf8Bytes numeral).length = numeral.length)) ∧
    (∀ place numeral, numeralAt? place.remaining = some numeral →
      ∃ value, Binary64.ofText? (String.ofList numeral) = some value ∧
        Latex.readFree place = place.read (.number value) numeral.length ∧
        Linear.readFree place = place.read (.number value) numeral.length) ∧
    (∀ (scanner : Latex.Scanner M) error, (next scanner).1 = .error error →
      (∀ text, error.fault ≠ .invalidNumber text) ∧
        ¬"Invalid number".toList <+: error.message.toList) ∧
    ∀ (scanner : Linear.Scanner M) error, (next scanner).1 = .error error →
      (∀ text, error.fault ≠ .invalidNumber text) ∧
        ¬"Invalid number".toList <+: error.message.toList := by
  refine ⟨fun text ↦ ⟨isSome_numeralAt?_iff, isSome_numeralAt?_iff_length⟩,
    fun text numeral ↦ ⟨numeralAt?_eq_some_iff_isLongestNumeral,
      fun h ↦ length_utf8Bytes_of_isNumeral (isNumeral_of_numeralAt? h)⟩,
    fun place numeral h ↦ ?_, fun scanner error h ↦ ?_, fun scanner error h ↦ ?_⟩
  · obtain ⟨value, hvalue, hread⟩ := readNumeral_eq_read h
    refine ⟨value, hvalue, ?_, ?_⟩
    · simp only [Latex.readFree, h, hread]
    · simp only [Linear.readFree, h, hread]
  · exact Fault.not_invalidNumber_of_isOfScanner (Latex.isOfScanner_of_next scanner h)
  · exact Fault.not_invalidNumber_of_isOfScanner (Linear.isOfScanner_of_next scanner h)

/-- Behind a second point a numeral ends. A point alone is refused as a symbol, and behind a
delimiter as no bracket. -/
theorem longestNumeral_points :
    let latex := Latex.Scanner.withTable (Trie.ofList [("\\left", Lexeme.delimiter true)]) "\\left."
    let linear := Linear.Scanner.withTable (Trie.ofList [("+", Lexeme.equal)]) "."
    IsLongestNumeral "1.5.2".toList "1.5".toList ∧
      (∃ value, Binary64.ofText? "1.5" = some value ∧
        Latex.readFree (.ofText "1.5.2") = (Cursor.ofText "1.5.2").read (.number value) 3) ∧
      (∃ error, (next latex).1 = .error error ∧ error.fault = .bareDelimiter true ∧
        ¬"Invalid number".toList <+: error.message.toList) ∧
      ∃ error, (next linear).1 = .error error ∧ error.fault = .unknownSymbol "." ∧
        ¬"Invalid number".toList <+: error.message.toList := by
  intro latex linear
  obtain ⟨-, hlongest, hread, hlatex, hlinear⟩ :=
    scanners_take_longestNumeral (M := Trie Lexeme)
  have hnumeral : numeralAt? (Cursor.ofText "1.5.2").remaining = some "1.5".toList := by decide
  have hdelimiter : (next latex).1 = .error ⟨1, 6, "\\left.", .bareDelimiter true⟩ := by
    decide +kernel
  have hsymbol : (next linear).1 = .error ⟨1, 2, ".", .unknownSymbol "."⟩ := by
    decide +kernel
  obtain ⟨value, hvalue, hfree, -⟩ := hread _ _ hnumeral
  exact ⟨(hlongest _ _).1.1 hnumeral, ⟨value, hvalue, hfree⟩,
    ⟨_, hdelimiter, rfl, (hlatex _ _ hdelimiter).2⟩, _, hsymbol, rfl, (hlinear _ _ hsymbol).2⟩

end Scanners

end FormulaText
