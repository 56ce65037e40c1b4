import FormulaText.Scan.Cursor

/-!
# Where a cursor stands

A cursor splits its text into what has been consumed and what remains, and its position is read off
the consumed text alone: the line feeds in it, and the characters behind the last one of them.
-/

namespace FormulaText

namespace Position

def behind (text : List Char) : Position :=
  ⟨text.count '\n', (text.reverse.takeWhile (· ≠ '\n')).length⟩

theorem behind_concat (text : List Char) (c : Char) :
    behind (text ++ [c]) = (behind text).after c := by
  by_cases hc : c = '\n' <;> simp [behind, after, hc, List.count_append]

theorem foldl_after (text piece : List Char) :
    piece.foldl after (behind text) = behind (text ++ piece) := by
  induction piece generalizing text with
  | nil => rw [List.foldl_nil, List.append_nil]
  | cons c piece ih => rw [List.foldl_cons, ← behind_concat, ih, ← List.append_cons]

end Position

namespace Cursor

def consumed (cursor : Cursor) : List Char :=
  cursor.text.toList.take (cursor.text.toList.length - cursor.remaining.length)

/-- A cursor is exact if its text is the consumed text with the remaining text behind it, and its
position is the one right behind the consumed text. -/
structure IsExact (cursor : Cursor) : Prop where
  text_eq : cursor.text.toList = cursor.consumed ++ cursor.remaining
  position_eq : cursor.position = Position.behind cursor.consumed

theorem consumed_eq_of_append {cursor : Cursor} {front : List Char}
    (h : cursor.text.toList = front ++ cursor.remaining) : cursor.consumed = front := by
  have hlength : (front ++ cursor.remaining).length - cursor.remaining.length = front.length := by
    rw [List.length_append, Nat.add_sub_cancel]
  rw [consumed, h, hlength, List.take_left]

theorem advance_advance (cursor : Cursor) (count more : Nat) :
    (cursor.advance count).advance more = cursor.advance (count + more) := by
  simp [advance, List.take_add, List.foldl_append, List.drop_drop]

theorem isExact_ofText (text : String) : (ofText text).IsExact := by
  have hconsumed : (ofText text).consumed = [] := consumed_eq_of_append rfl
  constructor
  · rw [hconsumed]
    rfl
  · rw [hconsumed]
    rfl

namespace IsExact

variable {cursor : Cursor} (h : cursor.IsExact)

include h

/-- What a cursor passes over is consumed. -/
theorem consumed_advance (count : Nat) :
    (cursor.advance count).consumed = cursor.consumed ++ cursor.remaining.take count := by
  apply consumed_eq_of_append
  rw [text_advance, remaining_advance, List.append_assoc, List.take_append_drop]
  exact h.text_eq

theorem advance (count : Nat) : (cursor.advance count).IsExact := by
  constructor
  · rw [text_advance, h.consumed_advance, remaining_advance, List.append_assoc,
      List.take_append_drop]
    exact h.text_eq
  · rw [h.consumed_advance, Cursor.advance, h.position_eq, Position.foldl_after]

end IsExact

end Cursor

end FormulaText
