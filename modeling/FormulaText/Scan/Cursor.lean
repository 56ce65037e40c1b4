import FormulaText.Character.WhiteSpace
import FormulaText.Token.SyntaxError

/-!
# Positions in a text

A cursor stands between what has been read of a text and what has not. It counts lines and columns
from zero, and a new line begins after each line feed.
-/

namespace FormulaText

/-- A line and a column, counted from zero. -/
structure Position where
  line : Nat
  column : Nat
deriving DecidableEq

namespace Position

def after (position : Position) (c : Char) : Position :=
  if c = '\n' then ⟨position.line + 1, 0⟩ else ⟨position.line, position.column + 1⟩

end Position

structure Cursor where
  text : String
  remaining : List Char
  position : Position
deriving DecidableEq

namespace Cursor

def ofText (text : String) : Cursor := ⟨text, text.toList, 0, 0⟩

def advance (cursor : Cursor) (count : Nat) : Cursor :=
  { cursor with
    remaining := cursor.remaining.drop count
    position := (cursor.remaining.take count).foldl Position.after cursor.position }

def skipWhiteSpace (cursor : Cursor) : Cursor :=
  cursor.advance (cursor.remaining.takeWhile Character.isWhiteSpace).length

/-- The token that lies between two places. Its end is given by the column alone. -/
def tokenUpTo (start stop : Cursor) (kind : Token.Kind) : Token :=
  ⟨kind, start.position.line, start.position.column, stop.position.column⟩

def read (cursor : Cursor) (kind : Token.Kind) (count : Nat) : Except SyntaxError Token × Cursor :=
  let stop := cursor.advance count
  (.ok (cursor.tokenUpTo stop kind), stop)

/-- Refuses to read on, because of a fault just past the next `width` characters. -/
def refuse (cursor : Cursor) (width : Nat) (fault : Fault) : Except SyntaxError Token × Cursor :=
  (.error (.inText cursor.text cursor.position.line (cursor.position.column + width) fault), cursor)

/-- Refuses the next character, together with the one after it if it is a backslash. -/
def refuseUnknown (cursor : Cursor) : Except SyntaxError Token × Cursor :=
  let symbol := match cursor.remaining with
    | '\\' :: c :: _ => ['\\', c]
    | remaining => remaining.take 1
  cursor.refuse symbol.length (.unknownSymbol (String.ofList symbol))

@[simp] theorem remaining_advance (cursor : Cursor) (count : Nat) :
    (cursor.advance count).remaining = cursor.remaining.drop count := rfl

@[simp] theorem text_advance (cursor : Cursor) (count : Nat) :
    (cursor.advance count).text = cursor.text := rfl

@[simp] theorem remaining_read (cursor : Cursor) (kind : Token.Kind) (count : Nat) :
    (cursor.read kind count).2.remaining = cursor.remaining.drop count := rfl

/-- Reading some characters leaves fewer of them. -/
theorem length_remaining_read_lt {cursor : Cursor} {kind : Token.Kind} {count : Nat}
    (hpos : 0 < count) (hle : count ≤ cursor.remaining.length) :
    (cursor.read kind count).2.remaining.length < cursor.remaining.length := by
  rw [remaining_read, List.length_drop]
  omega

theorem remaining_skipWhiteSpace (cursor : Cursor) :
    cursor.skipWhiteSpace.remaining = cursor.remaining.dropWhile Character.isWhiteSpace := by
  rw [skipWhiteSpace, remaining_advance]
  induction cursor.remaining with
  | nil => rfl
  | cons c rest ih => by_cases h : Character.isWhiteSpace c <;> simp [h, ih]

theorem length_remaining_skipWhiteSpace_le (cursor : Cursor) :
    cursor.skipWhiteSpace.remaining.length ≤ cursor.remaining.length := by
  rw [remaining_skipWhiteSpace]
  exact (List.dropWhile_suffix _).length_le

end Cursor

end FormulaText
