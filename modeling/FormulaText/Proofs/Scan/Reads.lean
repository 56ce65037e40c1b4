import FormulaText.Proofs.Grammar.Upcoming
import FormulaText.Proofs.Scan.Pieces

/-!
# Texts that are read as tokens

A text is read piece by piece, from the place where it stands in a longer text. A piece is read as
one token whatever follows it, or wherever what follows it ends a word and a numeral.
-/

namespace FormulaText

/-- The token that a lexeme is by itself, if it is one. -/
def Lexeme.kind? : Lexeme → Option Token.Kind
  | .operator op => some (.operator op)
  | .bracket mark => some (.bracket mark)
  | .underscore => some .underscore
  | .equal => some .equal
  | .space | .delimiter _ => none

theorem Lexeme.kind?_ne_endOfInput {lexeme : Lexeme} {kind : Token.Kind}
    (h : lexeme.kind? = some kind) : kind ≠ .endOfInput := by
  rintro rfl
  cases lexeme <;> simp [Lexeme.kind?] at h

namespace Scan

open Grammar

variable {read : Cursor → Except SyntaxError Token × Cursor}

/-- The tokens from a place on, up to the end of the input, where `read` gives the next one. -/
def Yields (read : Cursor → Except SyntaxError Token × Cursor) : Cursor → List Token.Kind → Prop
  | cursor, [] => ∃ token, (read cursor).1 = .ok token ∧ token.kind = .endOfInput
  | cursor, kind :: kinds =>
    ∃ token, (read cursor).1 = .ok token ∧ token.kind = kind ∧ kind ≠ .endOfInput ∧
      Yields read (read cursor).2 kinds

/-- A text is read as tokens of these kinds, and then the end of the input. -/
def Reads (read : Cursor → Except SyntaxError Token × Cursor) (text : List Char)
    (kinds : List Token.Kind) : Prop :=
  ∀ cursor : Cursor, cursor.remaining = text → Yields read cursor kinds

section Reads

variable {σ : Type} [TokenSource σ] {cursor : Cursor} {piece rest : List Char}
  {kinds : List Token.Kind} {kind : Token.Kind}

/-- A source that reads at its place gives the tokens from there on. -/
theorem gives_of_yields (make : Cursor → σ)
    (hnext : ∀ cursor, TokenSource.next (make cursor) = ((read cursor).1, make (read cursor).2))
    (h : Yields read cursor kinds) : Gives (make cursor) kinds := by
  induction kinds generalizing cursor with
  | nil =>
    obtain ⟨token, htoken, hkind⟩ := h
    rw [Gives, hnext]
    exact ⟨token, htoken, hkind⟩
  | cons kind kinds ih =>
    obtain ⟨token, htoken, hkind, hne, hrest⟩ := h
    rw [Gives, hnext]
    exact ⟨token, htoken, hkind, hne, ih hrest⟩

/-- One token, and the tokens after it. -/
theorem reads_cons (hkind : kind ≠ .endOfInput)
    (h : ∀ cursor : Cursor, cursor.remaining = piece ++ rest →
      ∃ place : Cursor, place.remaining = piece ++ rest ∧
        read cursor = place.read kind piece.length)
    (hrest : Reads read rest kinds) : Reads read (piece ++ rest) (kind :: kinds) := by
  intro cursor hcursor
  obtain ⟨place, hplace, hread⟩ := h cursor hcursor
  have hafter : (read cursor).2.remaining = rest := by
    rw [hread, Cursor.remaining_read, hplace]
    exact List.drop_left
  exact ⟨_, congrArg Prod.fst hread, rfl, hkind, hrest _ hafter⟩

/-- A place before a character that is not white space. -/
theorem remaining_skipWhiteSpace_of_cons {c : Char} (hcursor : cursor.remaining = c :: rest)
    (hc : Character.isWhiteSpace c = false) : cursor.skipWhiteSpace.remaining = c :: rest := by
  rw [Cursor.remaining_skipWhiteSpace, hcursor, List.dropWhile_cons_of_neg (by simp [hc])]

end Reads

/-! ## Pieces -/

/-- A text that is read as one token whatever follows it. -/
def ReadsAs (read : Cursor → Except SyntaxError Token × Cursor) (text : String)
    (kind : Token.Kind) : Prop :=
  ∀ ⦃rest : List Char⦄ ⦃kinds : List Token.Kind⦄, Reads read rest kinds →
    Reads read (text.toList ++ rest) (kind :: kinds)

/-- A text is read as some tokens wherever what follows ends its last piece. -/
def Spells (read : Cursor → Except SyntaxError Token × Cursor) (ends : List Char → Bool)
    (text : String) (kinds : List Token.Kind) : Prop :=
  ∀ ⦃rest : List Char⦄ ⦃others : List Token.Kind⦄, ends rest = true →
    Reads read rest others → Reads read (text.toList ++ rest) (kinds ++ others)

/-- A text that is always read as one token, and that ends each piece before it. -/
structure IsMark (read : Cursor → Except SyntaxError Token × Cursor) (ends : List Char → Bool)
    (text : String) (kind : Token.Kind) : Prop where
  reads : ReadsAs read text kind
  ends_append : ∀ rest : List Char, ends (text.toList ++ rest) = true

section Spells

variable {ends : List Char → Bool} {left right text mark opening closing : String}
  {kinds first second : List Token.Kind} {kind partner : Token.Kind}

/-- Two texts, where the second one ends the last piece of the first one. -/
theorem Spells.append (hleft : Spells read ends left first) (hright : Spells read ends right second)
    (hends : ∀ rest, ends (right.toList ++ rest) = true) :
    Spells read ends (left ++ right) (first ++ second) := by
  intro rest others hrest h
  rw [String.toList_append, List.append_assoc, List.append_assoc]
  exact hleft (hends rest) (hright hrest h)

/-- A text with one token before it. -/
theorem ReadsAs.before (hmark : ReadsAs read mark kind) (h : Spells read ends text kinds) :
    Spells read ends (mark ++ text) (kind :: kinds) := by
  intro rest others hrest hothers
  rw [String.toList_append, List.append_assoc]
  exact hmark (h hrest hothers)

/-- Two texts with a mark between them. -/
theorem IsMark.between (hmark : IsMark read ends mark kind) (hleft : Spells read ends left first)
    (hright : Spells read ends right second) :
    Spells read ends (left ++ mark ++ right) (first ++ kind :: second) := by
  intro rest others hrest h
  rw [String.toList_append, String.toList_append, List.append_assoc, List.append_assoc,
    List.append_assoc]
  exact hleft (hmark.ends_append _) (hmark.reads (hright hrest h))

/-- A text between two tokens. -/
theorem IsMark.around (hclosing : IsMark read ends closing partner)
    (hopening : ReadsAs read opening kind) (h : Spells read ends text kinds) :
    Spells read ends (opening ++ text ++ closing) (kind :: kinds ++ [partner]) := by
  intro rest others hrest hothers
  have hread := hopening (h (hclosing.ends_append rest) (hclosing.reads hothers))
  rw [String.toList_append, String.toList_append, List.append_assoc, List.append_assoc]
  simpa using hread

end Spells

end Scan

end FormulaText
