import FormulaText.Proofs.Scan.Places
import Mathlib.Data.List.Induction

/-!
# Lines and positions

The position behind some text names the line that the text ends in, and the column tells how much
of this line is in front of it. The rest of the line is what comes up to the next line feed.
-/

namespace FormulaText

namespace Text

/-- The lines are the pieces between the line feeds. -/
theorem getElem?_splitOn {number : Nat} {text : List Char} (h : number ≤ text.count '\n') :
    (text.splitOn '\n')[number]? = some (lineAt number text) := by
  rw [List.splitOn_eq_splitOnP]
  induction text generalizing number with
  | nil =>
    obtain rfl : number = 0 := Nat.le_zero.1 h
    rfl
  | cons c rest ih =>
    rw [List.splitOnP_cons_eq_if_modifyHead]
    by_cases hc : c = '\n'
    · rw [if_pos (by simpa using hc)]
      cases number with
      | zero => simp [lineAt, hc]
      | succ number =>
        rw [List.getElem?_cons_succ, ih (by simpa [hc] using h), lineAt, if_pos hc]
    · rw [if_neg (by simpa using hc)]
      cases number with
      | zero => simp [List.getElem?_modifyHead, ih (Nat.zero_le _), lineAt_zero, hc]
      | succ number =>
        rw [List.getElem?_modifyHead_succ, ih (by simpa [List.count_cons_of_ne hc] using h), lineAt,
          if_neg hc]

/-- A new line begins behind a line feed. -/
theorem lineAt_behind_lineFeed (front rest : List Char) :
    lineAt (front.count '\n' + 1) (front ++ '\n' :: rest) = lineAt 0 rest := by
  induction front with
  | nil => rfl
  | cons c front ih => by_cases hc : c = '\n' <;> simp_all [lineAt]

/-- A line is what is in front of a place in it and what is behind this place. -/
theorem length_lineAt_behind (front rest : List Char) :
    (lineAt (Position.behind front).line (front ++ rest)).length =
      (Position.behind front).column + (rest.takeWhile (· ≠ '\n')).length := by
  -- from the place back to the line feed in front of it
  induction front using List.reverseRecOn generalizing rest with
  | nil => simp [Position.behind, lineAt_zero]
  | append_singleton front c ih =>
    rw [Position.behind_concat, List.append_assoc, List.singleton_append]
    by_cases hc : c = '\n'
    · rw [Position.after, if_pos hc, hc, Position.behind, lineAt_behind_lineFeed, lineAt_zero,
        Nat.zero_add]
    · rw [Position.after, if_neg hc, ih (c :: rest), List.takeWhile_cons_of_pos (by simpa using hc),
        List.length_cons, Nat.add_right_comm, Nat.add_assoc]

end Text

/-- Text without a line feed stays on its line. -/
theorem Position.behind_append {piece : List Char} (h : '\n' ∉ piece) (front : List Char) :
    behind (front ++ piece) = ⟨(behind front).line, (behind front).column + piece.length⟩ := by
  induction piece generalizing front with
  | nil => rw [List.append_nil, List.length_nil, Nat.add_zero]
  | cons c piece ih =>
    rw [List.mem_cons, not_or] at h
    rw [List.append_cons, ih h.2, behind_concat, after, if_neg (Ne.symm h.1), List.length_cons,
      Nat.add_assoc, Nat.add_comm 1]

namespace SyntaxError

/-- An error lies in a text if its line is one of the lines of the text and is the one it carries.
Its column counts from one. -/
structure LiesIn (error : SyntaxError) (text : String) : Prop where
  line_pos : 1 ≤ error.line
  line_le : error.line ≤ (text.toList.splitOn '\n').length
  sourceLine_eq : (text.toList.splitOn '\n')[error.line - 1]? = some error.sourceLine.toList
  column_pos : 1 ≤ error.column

/-- Whether the caret stands below a character of the line, or right behind its end. -/
def IsWithinLine (error : SyntaxError) : Prop := error.column ≤ error.sourceLine.length + 1

instance (error : SyntaxError) : Decidable error.IsWithinLine :=
  inferInstanceAs (Decidable (_ ≤ _))

section InText

variable {text : String} {front rest : List Char} (h : text.toList = front ++ rest)

include h

theorem liesIn_inText (column : Nat) (fault : Fault) :
    (inText text (Position.behind front).line column fault).LiesIn text := by
  have hcount : (Position.behind front).line ≤ text.toList.count '\n' := by
    rw [h, List.count_append]
    exact Nat.le_add_right _ _
  have hline := Text.getElem?_splitOn hcount
  refine ⟨Nat.succ_pos _, (List.getElem?_eq_some_iff.1 hline).1, ?_, Nat.succ_pos _⟩
  rw [inText, Nat.add_sub_cancel, String.toList_ofList]
  exact hline

/-- A caret some characters behind a place is within the line if so many characters of it are
left. -/
theorem isWithinLine_inText_iff (width : Nat) (fault : Fault) :
    (inText text (Position.behind front).line ((Position.behind front).column + width)
        fault).IsWithinLine ↔
      width ≤ (rest.takeWhile (· ≠ '\n')).length := by
  have hlength := Text.length_lineAt_behind front rest
  simp only [IsWithinLine, inText, String.length_ofList, h, hlength]
  omega

end InText

end SyntaxError

end FormulaText
