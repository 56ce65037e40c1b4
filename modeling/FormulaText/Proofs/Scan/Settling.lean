import FormulaText.Latex.Scanner
import FormulaText.Linear.Scanner
import FormulaText.Proofs.Grammar.Underway
import FormulaText.Proofs.Scan.Positions
import Mathlib.Data.List.TakeWhile

/-!
# Scanners settle

A pull gives a token, refuses a delimiter without a bracket, or comes to an end: the end of the
input, or a symbol that begins no token. The first two take some of the text, and the end is for
ever. So whatever the table holds, a scanner gives the same answer again and again after no more
pulls than there are bytes left.
-/

namespace FormulaText

open PrefixMap

namespace Cursor

def bytesLeft (cursor : Cursor) : Nat := (utf8Bytes cursor.remaining).length

theorem advance_zero (cursor : Cursor) : cursor.advance 0 = cursor := by
  simp [advance]

/-- Each character has at least one byte. -/
theorem bytesLeft_advance_add_le {cursor : Cursor} {count : Nat}
    (h : count ≤ cursor.remaining.length) :
    (cursor.advance count).bytesLeft + count ≤ cursor.bytesLeft := by
  rw [bytesLeft, bytesLeft, remaining_advance]
  generalize cursor.remaining = text at h
  induction text generalizing count with
  | nil =>
    obtain rfl : count = 0 := Nat.le_zero.1 h
    exact Nat.le_refl _
  | cons c rest ih =>
    cases count with
    | zero => exact Nat.le_refl _
    | succ count =>
      have hpos := Char.utf8Size_pos c
      have hrest := ih (Nat.le_of_succ_le_succ h)
      rw [List.drop_succ_cons, length_utf8Bytes_cons]
      omega

theorem bytesLeft_skipWhiteSpace_le (cursor : Cursor) :
    cursor.skipWhiteSpace.bytesLeft ≤ cursor.bytesLeft :=
  Nat.le_of_add_right_le (bytesLeft_advance_add_le (List.takeWhile_prefix _).length_le)

/-- Behind white space there is none. -/
theorem skipWhiteSpace_skipWhiteSpace (cursor : Cursor) :
    cursor.skipWhiteSpace.skipWhiteSpace = cursor.skipWhiteSpace := by
  have hnone : cursor.skipWhiteSpace.remaining.takeWhile Character.isWhiteSpace = [] := by
    rw [remaining_skipWhiteSpace, List.takeWhile_eq_nil_iff]
    exact List.dropWhile_get_zero_not _ _
  rw [skipWhiteSpace.eq_def cursor.skipWhiteSpace, hnone, List.length_nil, advance_zero]

end Cursor

namespace Scan

/-- Whether an answer lets the reading go on: it is a token before the end of the input, or a
delimiter was refused. -/
def IsProgress : Except SyntaxError Token → Prop
  | .ok token => token.kind ≠ .endOfInput
  | .error error => ∃ opens, error.fault = .bareDelimiter opens

/-- Whether an answer is the end of the input or an unknown symbol. -/
def IsFinal : Except SyntaxError Token → Prop
  | .ok token => token.kind = .endOfInput
  | .error error => ∃ symbol, error.fault = .unknownSymbol symbol

/-- A pull makes progress, and takes some of the text. -/
structure Takes (start : Cursor) (result : Except SyntaxError Token × Cursor) : Prop where
  isProgress : IsProgress result.1
  bytesLeft_lt : result.2.bytesLeft < start.bytesLeft

/-- A pull takes some of the text, or it is final and leaves a place where the same pull has the same
result. At the end of the input nothing is left. -/
inductive Steps (read : Cursor → Except SyntaxError Token × Cursor) (start : Cursor)
    (result : Except SyntaxError Token × Cursor) : Prop where
  | progress (h : Takes start result)
  | final (hanswer : IsFinal result.1) (hrepeat : read result.2 = result)
      (hend : ∀ token, result.1 = .ok token → result.2.remaining = [])

section Steps

variable {M : Type} [PrefixMap M Lexeme] {table : M}
  {read : Cursor → Except SyntaxError Token × Cursor} {start place : Cursor}
  {result : Except SyntaxError Token × Cursor} {kind : Token.Kind} {count : Nat}

theorem Steps.mono (h : Steps read place result) (hle : place.bytesLeft ≤ start.bytesLeft) :
    Steps read start result := by
  cases h with
  | progress htakes =>
    exact .progress ⟨htakes.isProgress, Nat.lt_of_lt_of_le htakes.bytesLeft_lt hle⟩
  | final hanswer hrepeat hend => exact .final hanswer hrepeat hend

theorem takes_read (hkind : kind ≠ .endOfInput) (hpos : 0 < count)
    (hle : count ≤ place.remaining.length) : Takes place (place.read kind count) := by
  refine ⟨hkind, ?_⟩
  have hfewer := Cursor.bytesLeft_advance_add_le hle
  change (place.advance count).bytesLeft < _
  omega

/-- A fixed text that is a token is progress. -/
theorem takes_read_lexeme {lexeme : Lexeme}
    (hlexeme : lexemeAt? table place.remaining = some (count, lexeme))
    (hkind : lexeme.kind? = some kind) : Takes place (place.read kind count) :=
  takes_read (Lexeme.kind?_ne_endOfInput hkind) (lexemeAt?_pos hlexeme)
    (lexemeAt?_le_length hlexeme)

/-- What is read at a place if it begins with no fixed text: some characters, as a token, or a symbol
is refused. -/
inductive ReadsFree (place : Cursor) : Except SyntaxError Token × Cursor → Prop where
  | token {kind : Token.Kind} {count : Nat} (hkind : kind ≠ .endOfInput) (hpos : 0 < count)
      (hle : count ≤ place.remaining.length) : ReadsFree place (place.read kind count)
  | unknown : ReadsFree place place.refuseUnknown

/-- What is taken for a numeral is always read as a number. -/
theorem readsFree_readNumeral {numeral : List Char} (h : numeralAt? place.remaining = some numeral) :
    ReadsFree place (readNumeral place numeral) := by
  obtain ⟨decimal, hdecimal⟩ := exists_decimal_of_numeralAt? h
  rw [readNumeral, hdecimal]
  exact .token nofun (List.length_pos_iff.2 (numeralAt?_ne_nil h)) (numeralAt?_isPrefix h).length_le

/-- A pull that takes some of the text or refuses a symbol, where it can be repeated. -/
theorem ReadsFree.steps (h : ReadsFree place result) (hrepeat : read place = result) :
    Steps read place result := by
  cases h with
  | token hkind hpos hle => exact .progress (takes_read hkind hpos hle)
  | unknown => exact .final ⟨_, rfl⟩ hrepeat nofun

theorem steps_endOfInput (hempty : place.remaining = [])
    (hrepeat : read place = place.read .endOfInput 0) :
    Steps read place (place.read .endOfInput 0) := by
  refine .final rfl ?_ ?_
  · change read (place.advance 0) = _
    rw [Cursor.advance_zero, hrepeat]
  · intro token _
    rw [Cursor.remaining_read, List.drop_zero, hempty]

end Steps

end Scan

open Scan

variable {M : Type} [PrefixMap M Lexeme]

/-! ## One pull of the linear notation -/

namespace Linear

theorem readToken_skipWhiteSpace (table : M) (cursor : Cursor) :
    readToken table cursor.skipWhiteSpace = readToken table cursor := by
  rw [readToken, readToken, Cursor.skipWhiteSpace_skipWhiteSpace]

theorem readsFree_readFree (place : Cursor) : ReadsFree place (readFree place) := by
  unfold readFree
  split
  · next numeral hnumeral => exact readsFree_readNumeral hnumeral
  · split
    · exact .unknown
    · next c letters _ hword =>
      have hle := hword ▸ (wordAt_isPrefix place.remaining).length_le
      simp only
      split
      · exact .token nofun (Nat.succ_pos _) hle
      · exact .token nofun (Nat.succ_pos _) hle

theorem steps_readToken (table : M) (cursor : Cursor) :
    Steps (readToken table) cursor (readToken table cursor) := by
  refine (?_ : Steps _ cursor.skipWhiteSpace _).mono cursor.bytesLeft_skipWhiteSpace_le
  have hrepeat := readToken_skipWhiteSpace table cursor
  generalize hresult : readToken table cursor = result at hrepeat ⊢
  simp only [readToken] at hresult
  split at hresult
  · next hempty =>
    subst hresult
    exact steps_endOfInput (List.isEmpty_iff.1 hempty) hrepeat
  · split at hresult <;> subst hresult
    case h_7 => exact (readsFree_readFree _).steps hrepeat
    case h_5 => exact ReadsFree.unknown.steps hrepeat
    case h_6 => exact ReadsFree.unknown.steps hrepeat
    all_goals
      next hlexeme =>
      exact .progress (takes_read_lexeme hlexeme rfl)

end Linear

/-! ## One pull of LaTeX -/

namespace Latex

theorem readToken_skipWhiteSpace (table : M) (cursor : Cursor) :
    readToken table cursor.skipWhiteSpace = readToken table cursor := by
  rw [readToken, readToken.eq_def table cursor, Cursor.skipWhiteSpace_skipWhiteSpace]

theorem readsFree_readFree (place : Cursor) : ReadsFree place (readFree place) := by
  unfold readFree
  split
  · next numeral hnumeral => exact readsFree_readNumeral hnumeral
  · split
    · next c letters hword =>
      exact .token nofun (Nat.succ_pos _) (hword ▸ (wordAt_isPrefix _).length_le)
    · next rest _ hremaining =>
      split
      · next c letters hword =>
        have hle := hword ▸ (wordAt_isPrefix rest).length_le
        exact .token nofun (Nat.succ_pos _) (by simpa [hremaining] using hle)
      · exact .unknown
    · exact .unknown

theorem takes_readDelimited (table : M) {start : Cursor} {length : Nat} (opens : Bool)
    (hpos : 0 < length) (hle : length ≤ start.remaining.length) :
    Takes start (readDelimited table start length opens) := by
  have hfewer : (start.advance length).skipWhiteSpace.bytesLeft < start.bytesLeft := by
    have hskip := (start.advance length).bytesLeft_skipWhiteSpace_le
    have hlength := Cursor.bytesLeft_advance_add_le hle
    omega
  simp only [readDelimited]
  split
  · next hlexeme =>
    have hbracket := Cursor.bytesLeft_advance_add_le (lexemeAt?_le_length hlexeme)
    split
    · exact ⟨Token.Kind.noConfusion, Nat.lt_of_le_of_lt (Nat.le_of_add_right_le hbracket) hfewer⟩
    · exact ⟨⟨opens, rfl⟩, hfewer⟩
  · exact ⟨⟨opens, rfl⟩, hfewer⟩

theorem steps_readToken (table : M) (cursor : Cursor) :
    Steps (readToken table) cursor (readToken table cursor) := by
  have hrepeat := readToken_skipWhiteSpace table cursor
  have hskip := cursor.bytesLeft_skipWhiteSpace_le
  fun_induction readToken table cursor with
  | case1 cursor hempty =>
    exact (steps_endOfInput (List.isEmpty_iff.1 hempty) hrepeat).mono hskip
  | case2 cursor hne length hlexeme ih =>
    refine (ih (readToken_skipWhiteSpace table _) (Cursor.bytesLeft_skipWhiteSpace_le _)).mono ?_
    have hlength := Cursor.bytesLeft_advance_add_le (lexemeAt?_le_length hlexeme)
    omega
  | case3 cursor hne length opens hlexeme =>
    have htakes := takes_readDelimited table opens (lexemeAt?_pos hlexeme)
      (lexemeAt?_le_length hlexeme)
    exact (Steps.progress htakes).mono hskip
  | case8 cursor hne hlexeme =>
    exact ((readsFree_readFree _).steps hrepeat).mono hskip
  | _ cursor =>
    rename_i hlexeme
    exact (Steps.progress (takes_read_lexeme hlexeme rfl)).mono hskip

/-- The spacing commands that a pull passes over, one after another, up to a place where there is
none. -/
inductive Passes (table : M) : Nat → Cursor → Cursor → Prop where
  | stop {place : Cursor} (h : ∀ length,
      lexemeAt? table place.skipWhiteSpace.remaining ≠ some (length, .space)) :
      Passes table 0 place place
  | pass {count length : Nat} {cursor place : Cursor}
      (hlexeme : lexemeAt? table cursor.skipWhiteSpace.remaining = some (length, .space))
      (hrest : Passes table count (cursor.skipWhiteSpace.advance length) place) :
      Passes table (count + 1) cursor place

/-- Behind a spacing command, a pull starts again. -/
theorem readToken_of_space {table : M} {cursor : Cursor} {length : Nat}
    (h : lexemeAt? table cursor.skipWhiteSpace.remaining = some (length, .space)) :
    readToken table cursor = readToken table (cursor.skipWhiteSpace.advance length) := by
  have hpos := lexemeAt?_pos h
  have hle := lexemeAt?_le_length h
  have hne : ¬cursor.skipWhiteSpace.remaining.isEmpty = true := by
    intro hempty
    rw [List.isEmpty_iff.1 hempty, List.length_nil] at hle
    omega
  rw [readToken.eq_def table cursor, if_neg hne]
  split <;> simp_all

/-- A pull passes over no more spacing commands than there are bytes, and reads on behind them. -/
theorem exists_passes (table : M) (cursor : Cursor) :
    ∃ count place, Passes table count cursor place ∧
      count + place.bytesLeft ≤ cursor.bytesLeft ∧
      readToken table cursor = readToken table place := by
  induction hbytes : cursor.bytesLeft using Nat.strong_induction_on generalizing cursor with
  | _ bytes ih =>
    subst hbytes
    by_cases hspace : ∃ length,
        lexemeAt? table cursor.skipWhiteSpace.remaining = some (length, .space)
    · obtain ⟨length, hlexeme⟩ := hspace
      have hpos := lexemeAt?_pos hlexeme
      have hlength := Cursor.bytesLeft_advance_add_le (lexemeAt?_le_length hlexeme)
      have hskip := cursor.bytesLeft_skipWhiteSpace_le
      have hlt : (cursor.skipWhiteSpace.advance length).bytesLeft < cursor.bytesLeft := by omega
      obtain ⟨count, place, hpasses, hle, hread⟩ := ih _ hlt _ rfl
      exact ⟨count + 1, place, .pass hlexeme hpasses, by omega,
        (readToken_of_space hlexeme).trans hread⟩
    · exact ⟨0, cursor, .stop (not_exists.1 hspace), by omega, rfl⟩

end Latex

/-! ## All pulls -/

namespace TokenSource

variable {σ : Type} [TokenSource σ]

theorem after_succ (source : σ) (count : Nat) :
    after source (count + 1) = after (next source).2 count := by
  induction count with
  | zero => rfl
  | succ count ih => rw [after, ih, after]

theorem answer_succ (source : σ) (count : Nat) :
    answer source (count + 1) = answer (next source).2 count := by
  rw [answer, after_succ, answer]

/-- A source that a pull leaves unchanged stays so. -/
theorem after_of_next {source : σ} (h : (next source).2 = source) (count : Nat) :
    after source count = source := by
  induction count with
  | zero => rfl
  | succ count ih => rw [after, ih, h]

/-- A source settles if each pull of it makes progress and takes some bytes, or is final and is
repeated for ever by a source that does not move any more. So it comes to a final answer after no
more pulls than there are bytes left, all of which make progress. -/
structure Settles (cursor : σ → Cursor) (source : σ) : Prop where
  progress_or_final : IsProgress (next source).1 ∨ IsFinal (next source).1
  bytesLeft_lt (h : IsProgress (next source).1) :
    (cursor (next source).2).bytesLeft < (cursor source).bytesLeft
  repeats (h : IsFinal (next source).1) (count : Nat) :
    answer (next source).2 count = (next source).1 ∧
      after (next source).2 count = (next source).2
  settles : ∃ count ≤ (cursor source).bytesLeft,
    (∀ pull < count, IsProgress (answer source pull)) ∧ IsFinal (answer source count) ∧
      ∀ more, answer source (count + more) = answer source count ∧
        after source (count + more + 1) = after source (count + 1)

theorem not_isProgress_of_isFinal {answer : Except SyntaxError Token} (h : IsFinal answer) :
    ¬IsProgress answer := by
  cases answer with
  | ok token => exact not_not_intro h
  | error error =>
    obtain ⟨symbol, hsymbol⟩ := h
    rintro ⟨opens, hopens⟩
    rw [hsymbol] at hopens
    contradiction

/-- A pull that can be repeated once can be repeated for ever. -/
theorem repeats_of_next {source : σ} (h : next (next source).2 = next source) (count : Nat) :
    answer (next source).2 count = (next source).1 ∧
      after (next source).2 count = (next source).2 := by
  have hafter := after_of_next (congrArg Prod.snd h) count
  rw [answer, hafter, h]
  exact ⟨rfl, rfl⟩

section Steps

variable {cursor : σ → Cursor}
  (hstep : ∀ source : σ,
    IsProgress (next source).1 ∧
      (cursor (next source).2).bytesLeft < (cursor source).bytesLeft ∨
    IsFinal (next source).1 ∧ next (next source).2 = next source)
include hstep

/-- Progress leaves fewer bytes, so a final answer comes before they run out. -/
theorem exists_final_of_step (source : σ) :
    ∃ count ≤ (cursor source).bytesLeft,
      (∀ pull < count, IsProgress (answer source pull)) ∧ IsFinal (answer source count) ∧
        ∀ more, answer source (count + more) = answer source count ∧
          after source (count + more + 1) = after source (count + 1) := by
  induction hbytes : (cursor source).bytesLeft using Nat.strong_induction_on
    generalizing source with
  | _ bytes ih =>
    subst hbytes
    rcases hstep source with ⟨hprogress, hlt⟩ | ⟨hfinal, hrepeat⟩
    · obtain ⟨count, hle, hbefore, hfinal, hmore⟩ := ih _ hlt _ rfl
      refine ⟨count + 1, by omega, fun pull hpull ↦ ?_, ?_, fun more ↦ ?_⟩
      · cases pull with
        | zero => exact hprogress
        | succ pull =>
          rw [answer_succ]
          exact hbefore pull (Nat.lt_of_succ_lt_succ hpull)
      · rw [answer_succ]
        exact hfinal
      · rw [Nat.add_right_comm, answer_succ, answer_succ, after_succ source, after_succ source]
        exact hmore more
    · have hnone (pull : Nat) (h : pull < 0) : IsProgress (answer source pull) :=
        absurd h pull.not_lt_zero
      refine ⟨0, Nat.zero_le _, hnone, hfinal, fun more ↦ ?_⟩
      rw [Nat.zero_add, Nat.zero_add, after_succ, after_succ]
      refine ⟨?_, (repeats_of_next hrepeat more).2⟩
      cases more with
      | zero => rfl
      | succ more =>
        rw [answer_succ]
        exact (repeats_of_next hrepeat more).1

/-- A source settles if what a single pull does is known for all its states. -/
theorem settles_of_step (source : σ) : Settles cursor source where
  progress_or_final := (hstep source).imp And.left And.left
  bytesLeft_lt h :=
    ((hstep source).resolve_right fun hfinal ↦ not_isProgress_of_isFinal hfinal.1 h).2
  repeats h :=
    repeats_of_next
      ((hstep source).resolve_left fun hprogress ↦ not_isProgress_of_isFinal h hprogress.1).2
  settles := exists_final_of_step hstep source

end Steps

end TokenSource

open TokenSource

/-- What a single step is on the places of a source decides what its pulls do. -/
theorem step_of_steps {σ : Type} [TokenSource σ] {cursor : σ → Cursor}
    {read : Cursor → Except SyntaxError Token × Cursor} (make : Cursor → σ)
    (hmake : ∀ place, cursor (make place) = place)
    (hnext : ∀ place, next (make place) = ((read place).1, make (read place).2))
    (hread : ∀ place, Steps read place (read place)) (place : Cursor) :
    IsProgress (next (make place)).1 ∧
        (cursor (next (make place)).2).bytesLeft < (cursor (make place)).bytesLeft ∨
      IsFinal (next (make place)).1 ∧ next (next (make place)).2 = next (make place) := by
  rw [hnext, hmake, hmake]
  cases hread place with
  | progress h => exact .inl ⟨h.isProgress, h.bytesLeft_lt⟩
  | final hanswer hrepeat => exact .inr ⟨hanswer, by rw [hnext, hrepeat]⟩

/-- Nothing but blanks stand in front of the end of the input. -/
theorem Scan.Spans.isBlank_of_endOfInput {entries : List (String × Lexeme)}
    {read : Cursor → Except SyntaxError Token × Cursor} {start : Cursor}
    {result : Except SyntaxError Token × Cursor} {token : Token}
    (hspans : Spans entries start result) (hsteps : Steps read start result)
    (htoken : result.1 = .ok token) (hend : token.kind = .endOfInput) :
    IsBlank entries start.remaining := by
  obtain ⟨skipped, taken, ⟨rest, hrest⟩, hskipped, hstop, hresult⟩ := hspans
  rw [htoken] at hresult
  obtain ⟨htext, -⟩ := hresult
  rw [hend] at htext
  obtain rfl : taken = [] := htext
  have hnothing : result.2.remaining = [] := by
    cases hsteps with
    | progress h =>
      have hprogress := h.isProgress
      rw [htoken] at hprogress
      exact absurd hend hprogress
    | final hanswer hrepeat hempty => exact hempty token htoken
  rw [hstop, Cursor.remaining_advance, ← hrest, List.append_nil, List.length_nil, Nat.add_zero,
    List.drop_left] at hnothing
  rw [← hrest, hnothing, List.append_nil, List.append_nil]
  exact hskipped

/-- Both scanners settle, with any table and in any state. A pull of LaTeX passes over no more
spacing commands than there are bytes before it reads on behind them, and where a scanner gives the
end of the input, only blanks are left. -/
theorem scanners_settle :
    (∀ scanner : Latex.Scanner M, Settles Latex.Scanner.cursor scanner ∧
      (∃ commands place, Latex.Passes scanner.table commands scanner.cursor place ∧
        commands + place.bytesLeft ≤ scanner.cursor.bytesLeft ∧
        next scanner = next (⟨scanner.table, place⟩ : Latex.Scanner M)) ∧
      ∀ entries, Answers scanner.table entries → ∀ token,
        (next scanner).1 = .ok token → token.kind = .endOfInput →
          IsBlank entries scanner.cursor.remaining) ∧
    ∀ scanner : Linear.Scanner M, Settles Linear.Scanner.cursor scanner ∧
      ∀ entries, Answers scanner.table entries → ∀ token,
        (next scanner).1 = .ok token → token.kind = .endOfInput →
          IsBlank entries scanner.cursor.remaining := by
  constructor
  · rintro ⟨table, cursor⟩
    refine ⟨settles_of_step (fun scanner ↦ ?_) _, ?_, fun entries h token htoken hend ↦ ?_⟩
    · exact step_of_steps (fun place ↦ (⟨scanner.table, place⟩ : Latex.Scanner M))
        (fun _ ↦ rfl) (fun _ ↦ rfl) (Latex.steps_readToken scanner.table) scanner.cursor
    · obtain ⟨commands, place, hpasses, hle, hread⟩ := Latex.exists_passes table cursor
      refine ⟨commands, place, hpasses, hle, ?_⟩
      change ((Latex.readToken table cursor).1, _) = ((Latex.readToken table place).1, _)
      rw [hread]
    · exact (Latex.spans_readToken h cursor).isBlank_of_endOfInput
        (Latex.steps_readToken table cursor) htoken hend
  · rintro ⟨table, cursor⟩
    refine ⟨settles_of_step (fun scanner ↦ ?_) _, fun entries h token htoken hend ↦ ?_⟩
    · exact step_of_steps (fun place ↦ (⟨scanner.table, place⟩ : Linear.Scanner M))
        (fun _ ↦ rfl) (fun _ ↦ rfl) (Linear.steps_readToken scanner.table) scanner.cursor
    · exact (Linear.spans_readToken h cursor).isBlank_of_endOfInput
        (Linear.steps_readToken table cursor) htoken hend

/-- With a table that holds the empty key and takes a letter for a space, a scanner settles within
the nine bytes of a text. Behind the delimiter that it refuses there are only blanks. -/
theorem scanners_settle_emptyKey :
    let entries := [("", .equal), ("x", .space), ("\\left", .delimiter true)]
    let scanner := Latex.Scanner.withTable (Trie.ofList entries) "x\\left x\n"
    IsBlank entries (after scanner 1).cursor.remaining ∧
      ∃ count ≤ 9, IsFinal (answer scanner count) ∧
        ∀ more, answer scanner (count + more) = answer scanner count := by
  intro entries scanner
  have hend : (answer scanner 1).toOption = some ⟨.endOfInput, 1, 0, 0⟩ := by decide +kernel
  obtain ⟨count, hle, -, hfinal, hmore⟩ := (scanners_settle.1 scanner).1.settles
  refine ⟨?_, count, hle, hfinal, fun more ↦ (hmore more).1⟩
  exact (scanners_settle.1 (after scanner 1)).2.2 entries (answers_trie entries) _
    (Grammar.eq_ok_of_toOption hend) rfl

end FormulaText
