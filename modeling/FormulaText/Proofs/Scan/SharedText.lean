import FormulaText.Latex.Formula
import FormulaText.Linear.Formula
import FormulaText.Proofs.Character.Classes
import FormulaText.Proofs.Grammar.Resemblance
import FormulaText.Proofs.Scan.Spans
import Mathlib.Data.List.Basic

/-!
# Text that both notations share

Without backslashes and percent signs, LaTeX and the linear notation have the same fixed texts,
numerals and words. They differ where a parenthesis follows a word at once, because the word is a
call in the linear notation only. If no function, fraction or root is called in this way, a text is
read as the same formula in both notations, or both refuse it with the same error.
-/

namespace FormulaText

/-- Whether a name is that of no fraction, no root and no common function. -/
def IsPlainName (name : String) : Prop :=
  Text.equalIgnoringAsciiCase name "frac" = false ∧
    Text.equalIgnoringAsciiCase name "sqrt" = false ∧ Vocabulary.common.isFunction name = false

instance (name : String) : Decidable (IsPlainName name) := inferInstanceAs (Decidable (_ ∧ _))

/-- If a whole run of letters stands behind `before`, it is a plain name. -/
def MayCall (before word : List Char) : Prop :=
  word ≠ [] → word.all Character.isAlphabetic = true →
    before.getLast?.any Character.isAlphabetic = false → IsPlainName (String.ofList word)

instance (before word : List Char) : Decidable (MayCall before word) :=
  inferInstanceAs (Decidable (_ → _))

/-- Neither a backslash nor a percent sign stands in the text, and each word that a parenthesis
follows at once is a plain name. -/
structure IsShared (text : List Char) : Prop where
  no_backslash : '\\' ∉ text
  no_percent : '%' ∉ text
  calls (before word after : List Char) (h : text = before ++ word ++ '(' :: after) :
    MayCall before word

/-- A text has only so many places for a word. -/
theorem isShared_iff {text : List Char} :
    IsShared text ↔ '\\' ∉ text ∧ '%' ∉ text ∧
      ∀ start ≤ text.length, ∀ length ≤ text.length,
        ((text.drop start).drop length).head? = some '(' →
          MayCall (text.take start) ((text.drop start).take length) := by
  constructor
  · intro h
    refine ⟨h.no_backslash, h.no_percent, fun start _ length _ hnext ↦ ?_⟩
    obtain ⟨after, hafter⟩ := List.head?_eq_some_iff.1 hnext
    apply h.calls _ _ after
    rw [← hafter, List.append_assoc, List.take_append_drop, List.take_append_drop]
  · rintro ⟨hbackslash, hpercent, hcalls⟩
    refine ⟨hbackslash, hpercent, fun before word after h ↦ ?_⟩
    have hcall := hcalls before.length (by simp [h]) word.length (by simp [h]; omega)
    rw [h, List.append_assoc, List.drop_left, List.take_left, List.drop_left, List.take_left]
      at hcall
    exact hcall rfl

instance (text : List Char) : Decidable (IsShared text) := decidable_of_iff' _ isShared_iff

open Grammar PrefixMap

/-! ## The tables -/

/-- Entries with keys that the text does not begin with play no role. -/
theorem PrefixMap.longestOf_filter {V : Type} {entries : List (String × V)} {text : List Char}
    (keep : String × V → Bool)
    (h : ∀ entry, keep entry = false → entry.1.toList.isPrefixOf text = false) :
    longestOf (entries.filter keep) text = longestOf entries text := by
  rw [longestOf, longestOf]
  generalize none = found?
  induction entries generalizing found? with
  | nil => rfl
  | cons entry entries ih =>
    cases hkeep : keep entry with
    | true => rw [List.filter_cons_of_pos hkeep, List.foldl_cons, List.foldl_cons, ih]
    | false =>
      have hskip : noting text found? entry = found? := by
        rw [noting, h entry hkeep, if_neg Bool.false_ne_true]
      rw [List.filter_cons_of_neg (by simp [hkeep]), List.foldl_cons, hskip, ih]

def isSharedEntry (entry : String × Lexeme) : Bool :=
  entry.1.toList.head? != some '\\' && entry.1.toList.head? != some '%'

theorem filter_lexemes :
    Latex.lexemes.filter isSharedEntry = Linear.lexemes.filter isSharedEntry := by
  decide

/-- Where no backslash and no percent sign is next, both tables have the same lexeme. -/
theorem Scan.lexemeAt?_tables {text : List Char} (hbackslash : text.head? ≠ some '\\')
    (hpercent : text.head? ≠ some '%') :
    lexemeAt? Latex.table text = lexemeAt? Linear.table text := by
  have hskip (entry : String × Lexeme) (hentry : isSharedEntry entry = false) :
      entry.1.toList.isPrefixOf text = false := by
    rw [← Bool.not_eq_true, List.isPrefixOf_iff_prefix]
    rintro ⟨rest, rfl⟩
    cases hkey : entry.1.toList with
    | nil => simp [isSharedEntry, hkey] at hentry
    | cons c key =>
      simp only [isSharedEntry, hkey, List.head?_cons, List.cons_append] at hentry hbackslash hpercent
      simp_all
  have hlongest : longestOf Latex.lexemes text = longestOf Linear.lexemes text := by
    rw [← longestOf_filter isSharedEntry hskip, filter_lexemes, longestOf_filter _ hskip]
  rw [lexemeAt?, lexemeAt?, Latex.table, Linear.table, longestPrefix?_trie, longestPrefix?_trie,
    hlongest]

/-- The fixed texts of the linear notation are tokens, and no letters. -/
theorem Linear.lexemes_isSome : ∀ entry ∈ Linear.lexemes, entry.2.kind?.isSome = true ∧
    entry.1.toList.any Character.isAlphabetic = false := by
  decide

theorem any_isAlphabetic_eq_false {c? : Option Char}
    (h : ∀ c ∈ c?, Character.isAlphabetic c = false) :
    c?.any Character.isAlphabetic = false := by
  cases c? with
  | none => rfl
  | some c => exact h c rfl

/-! ## Places between words -/

/-- The cursor stands in shared text, and not in the middle of a word. -/
structure Cursor.IsShared (cursor : Cursor) : Prop where
  exact : cursor.IsExact
  shared : FormulaText.IsShared cursor.text.toList
  apart : cursor.consumed.getLast?.any Character.isAlphabetic = false ∨
    cursor.remaining.head?.any Character.isAlphabetic = false

namespace Cursor.IsShared

variable {cursor : Cursor}

theorem ofText {text : String} (h : FormulaText.IsShared text.toList) :
    (Cursor.ofText text).IsShared where
  exact := isExact_ofText text
  shared := h
  apart := by
    have hconsumed : (Cursor.ofText text).consumed = [] := consumed_eq_of_append rfl
    left
    rw [hconsumed]
    rfl

variable (h : cursor.IsShared)

include h

theorem mem_text {c : Char} (hc : c ∈ cursor.remaining) : c ∈ cursor.text.toList := by
  rw [h.exact.text_eq]
  exact List.mem_append_right _ hc

/-- The cursor may go on behind some text that does not end in a letter. -/
theorem advance {count : Nat}
    (hlast : (cursor.remaining.take count).getLast?.any Character.isAlphabetic = false) :
    (cursor.advance count).IsShared where
  exact := h.exact.advance count
  shared := h.shared
  apart := by
    rw [h.exact.consumed_advance, remaining_advance]
    cases htaken : cursor.remaining.take count with
    | nil =>
      have hrest := List.take_append_drop count cursor.remaining
      rw [htaken, List.nil_append] at hrest
      rw [List.append_nil, hrest]
      exact h.apart
    | cons c taken =>
      rw [htaken] at hlast
      rw [List.getLast?_append_of_ne_nil _ (List.cons_ne_nil _ _)]
      exact .inl hlast

/-- The cursor may go on to where no letter is next. -/
theorem advance_of_head {count : Nat}
    (hhead : (cursor.remaining.drop count).head?.any Character.isAlphabetic = false) :
    (cursor.advance count).IsShared where
  exact := h.exact.advance count
  shared := h.shared
  apart := .inr hhead

theorem skipWhiteSpace : cursor.skipWhiteSpace.IsShared := by
  apply h.advance
  have htake : cursor.remaining.take (cursor.remaining.takeWhile Character.isWhiteSpace).length =
      cursor.remaining.takeWhile Character.isWhiteSpace :=
    (List.prefix_iff_eq_take.1 (List.takeWhile_prefix _)).symm
  rw [htake]
  apply any_isAlphabetic_eq_false
  intro c hc
  exact Character.isAlphabetic_of_isWhiteSpace
    (List.all_eq_true.1 List.all_takeWhile c (List.mem_of_getLast? hc))

/-- The cursor may go on to the end of a word. -/
theorem advance_wordAt : (cursor.advance (Scan.wordAt cursor.remaining).length).IsShared := by
  apply h.advance_of_head
  have hsplit : Scan.wordAt cursor.remaining ++
      cursor.remaining.dropWhile Character.isAlphabetic = cursor.remaining :=
    List.takeWhile_append_dropWhile
  have hdrop : cursor.remaining.drop (Scan.wordAt cursor.remaining).length =
      cursor.remaining.dropWhile Character.isAlphabetic := by
    calc cursor.remaining.drop (Scan.wordAt cursor.remaining).length =
          (Scan.wordAt cursor.remaining ++
            cursor.remaining.dropWhile Character.isAlphabetic).drop
              (Scan.wordAt cursor.remaining).length := by rw [hsplit]
      _ = cursor.remaining.dropWhile Character.isAlphabetic := List.drop_left
  rw [hdrop]
  apply any_isAlphabetic_eq_false
  intro c hc
  have hnot := List.head?_dropWhile_not Character.isAlphabetic cursor.remaining
  rw [Option.mem_def.1 hc] at hnot
  exact hnot

/-- A word with a parenthesis behind it is called by its whole name. -/
theorem roleOf_wordAt {c : Char} {letters : List Char}
    (hword : Scan.wordAt cursor.remaining = c :: letters)
    (hcall : (cursor.remaining.drop (c :: letters).length).head? == some '(') :
    roleOf .common (String.ofList (c :: letters)) = .plain := by
  have hletters : (c :: letters).all Character.isAlphabetic = true := by
    rw [← hword]
    exact List.all_takeWhile
  obtain ⟨rest, hrest⟩ := Scan.wordAt_isPrefix cursor.remaining
  rw [hword] at hrest
  rw [← hrest, List.drop_left, beq_iff_eq, List.head?_eq_some_iff] at hcall
  obtain ⟨after, rfl⟩ := hcall
  have hbefore : cursor.consumed.getLast?.any Character.isAlphabetic = false := by
    obtain hbefore | hhead := h.apart
    · exact hbefore
    · have hletter : Character.isAlphabetic c = true :=
        List.all_eq_true.1 hletters c List.mem_cons_self
      rw [← hrest, List.cons_append, List.head?_cons, Option.any_some, hletter] at hhead
      contradiction
  have htext : cursor.text.toList = cursor.consumed ++ (c :: letters) ++ '(' :: after := by
    rw [h.exact.text_eq, List.append_assoc, hrest]
  obtain ⟨hfrac, hsqrt, hfunction⟩ :=
    h.shared.calls _ _ _ htext (List.cons_ne_nil _ _) hletters hbefore
  rw [roleOf, hfrac, hsqrt, hfunction]
  rfl

end Cursor.IsShared

/-! ## Tokens -/

def IsSamePlace (place other : Cursor) : Prop := place.IsShared ∧ other = place

variable {place : Cursor}

theorem answersAlike_read {kind : Token.Kind} {count : Nat} (hkind : kind.isNamed = false)
    (h : (place.advance count).IsShared) :
    AnswersAlike .common IsSamePlace (place.read kind count) (place.read kind count) :=
  .token ⟨.same hkind, rfl, rfl⟩ ⟨h, rfl⟩

theorem answersAlike_readNumeral (h : place.IsShared) {numeral : List Char}
    (hnumeral : Scan.numeralAt? place.remaining = some numeral) :
    AnswersAlike .common IsSamePlace (Scan.readNumeral place numeral) (Scan.readNumeral place numeral) := by
  unfold Scan.readNumeral
  split
  · next decimal hdecimal =>
    apply answersAlike_read rfl
    apply h.advance
    have htake := List.prefix_iff_eq_take.1 (Scan.numeralAt?_isPrefix hnumeral)
    rw [← htake]
    apply any_isAlphabetic_eq_false
    intro c hc
    have hisNumeral := Scan.isNumeral_of_ofNumeral? hdecimal
    obtain hdigit | rfl :=
      Decimal.isDigit_or_point_of_isNumeral hisNumeral c (List.mem_of_getLast? hc)
    · exact Character.isAlphabetic_of_isDigit hdigit
    · decide
  · exact .error _ _ _

/-- A word is a symbol in LaTeX, and a call in the linear notation if a parenthesis follows. -/
theorem answersAlike_readFree (h : place.IsShared) :
    AnswersAlike .common IsSamePlace (Latex.readFree place) (Linear.readFree place) := by
  unfold Latex.readFree Linear.readFree
  cases hnumeral : Scan.numeralAt? place.remaining with
  | some numeral => exact answersAlike_readNumeral h hnumeral
  | none =>
    dsimp only
    cases hword : Scan.wordAt place.remaining with
    | nil =>
      dsimp only
      split
      · contradiction
      · next rest _ hremaining =>
        have hbackslash := h.mem_text (hremaining ▸ List.mem_cons_self)
        exact absurd hbackslash h.shared.no_backslash
      · exact .error _ _ _
    | cons c letters =>
      have hnext := h.advance_wordAt
      rw [hword] at hnext
      dsimp only
      split
      · next hcall => exact .token ⟨.called (h.roleOf_wordAt hword hcall), rfl, rfl⟩ ⟨hnext, rfl⟩
      · exact answersAlike_read rfl hnext

/-- The next tokens at the same place of shared text resemble each other. -/
theorem answersAlike_readToken {cursor : Cursor} (h : cursor.IsShared) :
    AnswersAlike .common IsSamePlace (Latex.readToken Latex.table cursor)
      (Linear.readToken Linear.table cursor) := by
  rw [Latex.readToken, Linear.readToken]
  have hplace := h.skipWhiteSpace
  generalize cursor.skipWhiteSpace = place at hplace
  split
  · apply answersAlike_read rfl
    apply hplace.advance
    rw [List.take_zero]
    rfl
  · have htables : Scan.lexemeAt? Latex.table place.remaining =
        Scan.lexemeAt? Linear.table place.remaining := by
      apply Scan.lexemeAt?_tables
      · exact fun hhead ↦ hplace.shared.no_backslash (hplace.mem_text (List.mem_of_head? hhead))
      · exact fun hhead ↦ hplace.shared.no_percent (hplace.mem_text (List.mem_of_head? hhead))
    rw [← htables]
    have hfixed {length : Nat} {lexeme : Lexeme}
        (hlexeme : Scan.lexemeAt? Latex.table place.remaining = some (length, lexeme)) :
        lexeme.kind?.isSome = true ∧ (place.advance length).IsShared := by
      rw [htables] at hlexeme
      obtain ⟨key, hkey, rfl, hvalue⟩ :=
        Scan.exists_key_of_lexemeAt? (answers_trie Linear.lexemes) hlexeme
      obtain ⟨hsome, hletters⟩ := Linear.lexemes_isSome _ (exists_mem_of_lastValue? hvalue)
      refine ⟨hsome, hplace.advance ?_⟩
      rw [← List.prefix_iff_eq_take.1 hkey]
      exact any_isAlphabetic_eq_false fun c hc ↦
        Bool.eq_false_iff.2 (List.any_eq_false.1 hletters c (List.mem_of_getLast? hc))
    split
    · next length hlexeme => exact absurd (hfixed hlexeme).1 Bool.false_ne_true
    · next length opens hlexeme => exact absurd (hfixed hlexeme).1 Bool.false_ne_true
    iterate 4
      next hlexeme =>
      rw [hlexeme]
      exact answersAlike_read rfl (hfixed hlexeme).2
    · next hlexeme =>
      rw [hlexeme]
      exact answersAlike_readFree hplace

/-! ## Formulas -/

def AtSamePlace (scanner : Latex.Scanner (Trie Lexeme)) (twin : Linear.Scanner (Trie Lexeme)) :
    Prop :=
  scanner.table = Latex.table ∧ twin.table = Linear.table ∧
    IsSamePlace scanner.cursor twin.cursor

theorem areAlike_scanners : AreAlike .common AtSamePlace where
  text := by
    rintro ⟨_, cursor⟩ ⟨_, _⟩ ⟨rfl, rfl, -, rfl⟩
    rfl
  next := by
    rintro ⟨_, place⟩ ⟨_, cursor⟩ ⟨rfl, rfl, hplace, hsame⟩
    obtain rfl : place = cursor := hsame.symm
    have hread := answersAlike_readToken hplace
    change AnswersAlike .common AtSamePlace
      ((Latex.readToken Latex.table place).1, ⟨_, (Latex.readToken Latex.table place).2⟩)
      ((Linear.readToken Linear.table place).1, ⟨_, (Linear.readToken Linear.table place).2⟩)
    generalize Latex.readToken Latex.table place = answer at hread
    generalize Linear.readToken Linear.table place = answer' at hread
    cases hread with
    | token htoken hrest => exact .token htoken ⟨rfl, rfl, hrest⟩
    | error error rest others => exact .error _ _ _

/-- Text that both notations share is read alike in both: as the same formula, or with the same
error. -/
theorem parse_eq_of_isShared (text : String) (h : IsShared text.toList) :
    Latex.parse text = Linear.parse text := by
  apply Eq.symm
  exact parse_eq_of_areAlike areAlike_scanners ⟨rfl, rfl, .ofText h, rfl⟩ rfl

/-- One text is a formula with a call, and in the other one the group behind a call stays open. -/
theorem parse_eq_of_isShared_call :
    (IsShared "2f(x)/sin y".toList ∧ Latex.parse "2f(x)/sin y" = Linear.parse "2f(x)/sin y") ∧
      IsShared "g(2 = x".toList ∧ Latex.parse "g(2 = x" = Linear.parse "g(2 = x" := by
  have hformula : IsShared "2f(x)/sin y".toList := by decide
  have hfault : IsShared "g(2 = x".toList := by decide
  exact ⟨⟨hformula, parse_eq_of_isShared _ hformula⟩, hfault, parse_eq_of_isShared _ hfault⟩

end FormulaText
