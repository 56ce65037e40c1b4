import FormulaText.Latex.Scanner
import FormulaText.Linear.Scanner
import FormulaText.Proofs.Grammar.Underway

/-!
# Scanners in step

A scanner asks its table about rests of its text only, and learns nothing but the lexemes at their
beginnings. So scanners whose tables have the same lexemes there give the same tokens and the same
errors, pull by pull, also behind an error.
-/

namespace FormulaText

/-- Sources that stay related from pull to pull, and answer alike where they are related, give the
same answers. -/
theorem TokenSource.answer_eq {σ τ : Type} [TokenSource σ] [TokenSource τ] (related : σ → τ → Prop)
    (hstep : ∀ source other, related source other →
      (next source).1 = (next other).1 ∧ related (next source).2 (next other).2)
    {source : σ} {other : τ} (h : related source other) (count : Nat) :
    answer source count = answer other count := by
  have hafter : related (after source count) (after other count) := by
    induction count with
    | zero => exact h
    | succ count ih => exact (hstep _ _ ih).2
  exact (hstep _ _ hafter).1

namespace Scan

def LeavesRest (start : Cursor) (result : Except SyntaxError Token × Cursor) : Prop :=
  result.2.remaining <:+ start.remaining

section LeavesRest

variable {start place : Cursor} {result : Except SyntaxError Token × Cursor}

theorem suffix_advance (place : Cursor) (count : Nat) :
    (place.advance count).remaining <:+ place.remaining :=
  List.drop_suffix count place.remaining

theorem suffix_skipWhiteSpace (place : Cursor) :
    place.skipWhiteSpace.remaining <:+ place.remaining :=
  suffix_advance place _

theorem LeavesRest.mono (h : LeavesRest place result)
    (hplace : place.remaining <:+ start.remaining) : LeavesRest start result :=
  List.IsSuffix.trans h hplace

theorem leavesRest_read (place : Cursor) (kind : Token.Kind) (count : Nat) :
    LeavesRest place (place.read kind count) :=
  suffix_advance place count

theorem leavesRest_refuse (place : Cursor) (width : Nat) (fault : Fault) :
    LeavesRest place (place.refuse width fault) :=
  List.suffix_rfl

theorem leavesRest_readNumeral (place : Cursor) (numeral : List Char) :
    LeavesRest place (readNumeral place numeral) := by
  unfold readNumeral
  split
  · exact leavesRest_read _ _ _
  · exact leavesRest_refuse _ _ _

end LeavesRest

end Scan

open Scan

variable {M N : Type} [PrefixMap M Lexeme] [PrefixMap N Lexeme] {left : M} {right : N}

/-! ## One pull of the linear notation -/

namespace Linear

theorem leavesRest_readFree (place : Cursor) : LeavesRest place (readFree place) := by
  unfold readFree
  split
  · exact leavesRest_readNumeral _ _
  · split
    · exact leavesRest_refuse _ _ _
    · dsimp only
      split <;> exact leavesRest_read _ _ _

theorem leavesRest_readToken (table : M) (cursor : Cursor) :
    LeavesRest cursor (readToken table cursor) := by
  refine LeavesRest.mono ?_ (suffix_skipWhiteSpace cursor)
  simp only [readToken]
  split
  · exact leavesRest_read _ _ _
  · split
    case h_5 => exact leavesRest_refuse _ _ _
    case h_6 => exact leavesRest_refuse _ _ _
    case h_7 => exact leavesRest_readFree _
    all_goals exact leavesRest_read _ _ _

theorem readToken_eq {cursor : Cursor}
    (h : ∀ rest, rest <:+ cursor.remaining → lexemeAt? left rest = lexemeAt? right rest) :
    readToken left cursor = readToken right cursor := by
  simp only [readToken, h _ (suffix_skipWhiteSpace cursor)]

end Linear

/-! ## One pull of LaTeX -/

namespace Latex

theorem leavesRest_readFree (place : Cursor) : LeavesRest place (readFree place) := by
  unfold readFree
  split
  · exact leavesRest_readNumeral _ _
  · split
    · exact leavesRest_read _ _ _
    · split
      · exact leavesRest_read _ _ _
      · exact leavesRest_refuse _ _ _
    · exact leavesRest_refuse _ _ _

theorem leavesRest_readDelimited (table : M) (start : Cursor) (length : Nat) (opens : Bool) :
    LeavesRest start (readDelimited table start length opens) := by
  refine LeavesRest.mono ?_
    ((suffix_skipWhiteSpace (start.advance length)).trans (suffix_advance start length))
  simp only [readDelimited]
  split
  · split
    · exact suffix_advance _ _
    · exact leavesRest_refuse _ _ _
  · exact leavesRest_refuse _ _ _

theorem leavesRest_readToken (table : M) (cursor : Cursor) :
    LeavesRest cursor (readToken table cursor) := by
  fun_induction readToken table cursor with
  | case1 cursor hempty => exact (leavesRest_read _ _ _).mono (suffix_skipWhiteSpace cursor)
  | case2 cursor hempty length hlexeme ih =>
    exact ih.mono ((suffix_advance _ _).trans (suffix_skipWhiteSpace cursor))
  | case3 cursor hempty length opens hlexeme =>
    exact (leavesRest_readDelimited _ _ _ _).mono (suffix_skipWhiteSpace cursor)
  | case8 cursor hempty hlexeme => exact (leavesRest_readFree _).mono (suffix_skipWhiteSpace cursor)
  | _ cursor => exact (leavesRest_read _ _ _).mono (suffix_skipWhiteSpace cursor)

theorem readDelimited_eq {start : Cursor}
    (h : ∀ rest, rest <:+ start.remaining → lexemeAt? left rest = lexemeAt? right rest)
    (length : Nat) (opens : Bool) :
    readDelimited left start length opens = readDelimited right start length opens := by
  have hplace :=
    h _ ((suffix_skipWhiteSpace (start.advance length)).trans (suffix_advance start length))
  simp only [readDelimited, hplace]

theorem readToken_eq {cursor : Cursor}
    (h : ∀ rest, rest <:+ cursor.remaining → lexemeAt? left rest = lexemeAt? right rest) :
    readToken left cursor = readToken right cursor := by
  have hskip := suffix_skipWhiteSpace cursor
  fun_induction readToken left cursor with
  | case1 cursor hempty => rw [readToken, if_pos hempty]
  | case2 cursor hempty length hlexeme ih =>
    have hafter := (suffix_advance cursor.skipWhiteSpace length).trans hskip
    rw [h _ hskip] at hlexeme
    rw [ih (fun rest hrest ↦ h rest (hrest.trans hafter)) (suffix_skipWhiteSpace _),
      readToken.eq_def right cursor, if_neg hempty]
    split <;> simp_all
  | case3 cursor hempty length opens hlexeme =>
    rw [readDelimited_eq fun rest hrest ↦ h rest (hrest.trans hskip)]
    rw [h _ hskip] at hlexeme
    rw [readToken, if_neg hempty]
    split <;> simp_all
  | _ cursor hempty =>
    rename_i hlexeme
    rw [h _ hskip] at hlexeme
    rw [readToken, if_neg hempty]
    split <;> simp_all

end Latex

/-! ## All pulls -/

/-- Scanners that read alike at each rest of a text give the same answers about it. -/
theorem TokenSource.answer_ofText_eq {σ τ : Type} [TokenSource σ] [TokenSource τ]
    (scanner : Cursor → σ) (twin : Cursor → τ)
    {read twinRead : Cursor → Except SyntaxError Token × Cursor}
    (hnext : ∀ cursor, next (scanner cursor) = ((read cursor).1, scanner (read cursor).2))
    (htwin : ∀ cursor, next (twin cursor) = ((twinRead cursor).1, twin (twinRead cursor).2))
    (hleaves : ∀ cursor, LeavesRest cursor (read cursor)) {text : String}
    (hread : ∀ cursor : Cursor, cursor.remaining <:+ text.toList → read cursor = twinRead cursor)
    (count : Nat) : answer (scanner (.ofText text)) count = answer (twin (.ofText text)) count := by
  refine answer_eq (fun source other ↦ ∃ cursor : Cursor,
    source = scanner cursor ∧ other = twin cursor ∧ cursor.remaining <:+ text.toList) ?_
    ⟨.ofText text, rfl, rfl, List.suffix_rfl⟩ count
  rintro _ _ ⟨cursor, rfl, rfl, hcursor⟩
  rw [hnext, htwin, ← hread cursor hcursor]
  exact ⟨rfl, (read cursor).2, rfl, rfl, (hleaves cursor).trans hcursor⟩

/-- Whether two tables serve both scanners alike in one text, at every pull. -/
def ServeAlikeIn (left : M) (right : N) (text : String) : Prop :=
  ∀ count,
    TokenSource.answer (Latex.Scanner.withTable left text) count =
      TokenSource.answer (Latex.Scanner.withTable right text) count ∧
    TokenSource.answer (Linear.Scanner.withTable left text) count =
      TokenSource.answer (Linear.Scanner.withTable right text) count

/-- Tables with the same lexemes in a text lead to the same places there. -/
theorem serveAlikeIn_of_lexemeAt? {text : String}
    (h : ∀ rest, rest <:+ text.toList → lexemeAt? left rest = lexemeAt? right rest) :
    ServeAlikeIn left right text := by
  intro count
  constructor
  · apply TokenSource.answer_ofText_eq (Latex.Scanner.mk left) (Latex.Scanner.mk right)
      (fun _ ↦ rfl) (fun _ ↦ rfl) (Latex.leavesRest_readToken left)
    intro cursor hcursor
    exact Latex.readToken_eq fun rest hrest ↦ h rest (hrest.trans hcursor)
  · apply TokenSource.answer_ofText_eq (Linear.Scanner.mk left) (Linear.Scanner.mk right)
      (fun _ ↦ rfl) (fun _ ↦ rfl) (Linear.leavesRest_readToken left)
    intro cursor hcursor
    exact Linear.readToken_eq fun rest hrest ↦ h rest (hrest.trans hcursor)

end FormulaText
