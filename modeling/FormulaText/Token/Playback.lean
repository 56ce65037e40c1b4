import FormulaText.Token.Source

/-!
# Playing back tokens

A list of answers is a source of tokens: it gives one after the other, and then the end of input
for ever, right after the last token it gave.
-/

namespace FormulaText

/-- The answers to come, and the place where the input ends after them. -/
structure Playback where
  text : String
  upcoming : List (Except SyntaxError Token)
  endLine : Nat
  endColumn : Nat

namespace Playback

def ofList (text : String) (answers : List (Except SyntaxError Token)) : Playback :=
  ⟨text, answers, 0, 0⟩

def next (playback : Playback) : Except SyntaxError Token × Playback :=
  match playback.upcoming with
  | [] => (.ok ⟨.endOfInput, playback.endLine, playback.endColumn, playback.endColumn⟩, playback)
  | .ok token :: upcoming => (.ok token, ⟨playback.text, upcoming, token.line, token.endColumn⟩)
  | .error error :: upcoming =>
    (.error error, ⟨playback.text, upcoming, playback.endLine, playback.endColumn⟩)

instance : FiniteTokenSource Playback where
  text := text
  next := next
  bound playback := playback.upcoming.length
  bound_lt {source rest token} h hkind := by
    grind [next]

end Playback

end FormulaText
