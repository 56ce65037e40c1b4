import FormulaText.Latex.Formula
import FormulaText.Proofs.Grammar.Exact
import FormulaText.Proofs.Latex.Neighbours

/-!
# The layout of a formula

White space in front of a token or behind it, and a delimiter in front of a bracket, change neither
the tokens of a LaTeX text nor its reading. A token tells by its position where it begins, so what a
layout may change is said in terms of the tokens that a text is read as.
-/

namespace FormulaText

namespace Position

/-- Behind some characters the line is a later one, or it is the same and the column is so much
greater. -/
theorem foldl_after_le (piece : List Char) (position : Position) :
    position.line ≤ (piece.foldl after position).line ∧
      ((piece.foldl after position).line = position.line →
        (piece.foldl after position).column = position.column + piece.length) := by
  induction piece generalizing position with
  | nil => exact ⟨Nat.le_refl _, fun _ ↦ rfl⟩
  | cons c piece ih =>
    obtain ⟨hline, hcolumn⟩ := ih (position.after c)
    rw [List.foldl_cons, List.length_cons]
    by_cases hc : c = '\n'
    · have hafter : position.after c = ⟨position.line + 1, 0⟩ := if_pos hc
      rw [hafter] at hline hcolumn ⊢
      simp only at hline
      omega
    · have hafter : position.after c = ⟨position.line, position.column + 1⟩ := if_neg hc
      rw [hafter] at hline hcolumn ⊢
      simp only at hline hcolumn
      omega

end Position

/-- Different places in front of a cursor have different positions. -/
theorem Cursor.eq_of_position_advance_eq {cursor : Cursor} {count other : Nat}
    (hcount : count ≤ cursor.remaining.length) (hother : other ≤ cursor.remaining.length)
    (h : (cursor.advance count).position = (cursor.advance other).position) : count = other := by
  wlog hle : count ≤ other generalizing count other
  · exact (this hother hcount h.symm (Nat.le_of_not_le hle)).symm
  · obtain ⟨more, rfl⟩ := Nat.exists_eq_add_of_le hle
    rw [← advance_advance] at h
    have hcolumn := (Position.foldl_after_le ((cursor.advance count).remaining.take more)
      (cursor.advance count).position).2
    change ((cursor.advance count).advance more).position.line = _ →
      ((cursor.advance count).advance more).position.column = _ at hcolumn
    rw [← h, remaining_advance, List.length_take, List.length_drop] at hcolumn
    have hmore := hcolumn rfl
    omega

namespace Latex

open Scan PrefixMap Grammar

/-- A delimiter may be added in front of a bracket for its side, if the bracket is not spelled with
one already. -/
def MayPrecede (added : List Char) (kind : Token.Kind) (piece : List Char) : Prop :=
  ∃ bracket, kind = .bracket bracket ∧ IsDelimiter lexemes bracket.opens added ∧
    ∀ opens delimiter, IsDelimiter lexemes opens delimiter → ¬delimiter <+: piece

/-- Whether a text has the tokens that are read from a place on, in another layout. White space may
be inserted behind the token before and in front of the next one, and a delimiter between that
white space and a bracket. -/
inductive IsRelaid : Cursor → List Char → Prop where
  | endOfInput {cursor stop : Cursor} {token : Token} {before behind : List Char}
      (hread : readToken table cursor = (.ok token, stop)) (hkind : token.kind = .endOfInput)
      (hbefore : ∀ c ∈ before, Character.isWhiteSpace c = true)
      (hbehind : ∀ c ∈ behind, Character.isWhiteSpace c = true) :
      IsRelaid cursor (before ++ (cursor.remaining ++ behind))
  | token {cursor stop : Cursor} {token : Token}
      {before gap between added piece other : List Char}
      (hread : readToken table cursor = (.ok token, stop)) (hkind : token.kind ≠ .endOfInput)
      (htext : cursor.remaining = gap ++ (piece ++ stop.remaining))
      (hstart : (cursor.advance gap.length).position = ⟨token.line, token.column⟩)
      (hbefore : ∀ c ∈ before, Character.isWhiteSpace c = true)
      (hbetween : ∀ c ∈ between, Character.isWhiteSpace c = true)
      (hadded : added = [] ∨ MayPrecede added token.kind piece)
      (hother : IsRelaid stop other) :
      IsRelaid cursor (before ++ (gap ++ (between ++ (added ++ (piece ++ other)))))

section Relaid

variable {cursor : Cursor} {spaces added gap piece rest other : List Char} {kind : Token.Kind}
  {kinds : List Token.Kind}

theorem MayFollow.behindSpaces (hspaces : ∀ c ∈ spaces, Character.isWhiteSpace c = true)
    (h : MayFollow rest other) : MayFollow rest (spaces ++ other) := by
  cases spaces with
  | nil => exact h
  | cons c spaces => exact mayFollow_whiteSpace (hspaces c List.mem_cons_self) _ _

theorem head?_of_isDelimiter {opens : Bool} (h : IsDelimiter lexemes opens added) :
    added.head? = some '\\' := by
  obtain ⟨command, spaces, hcommand, -, rfl⟩ := h
  have hhead : ∀ entry ∈ lexemes, ∀ opens, entry.2 = .delimiter opens →
      entry.1.toList.head? = some '\\' := by
    decide
  have hcommandHead := hhead _ (exists_mem_of_lastValue? hcommand) opens rfl
  rw [List.head?_append, hcommandHead]
  rfl

theorem MayFollow.behindDelimiter (hadded : added = [] ∨ MayPrecede added kind piece)
    (h : MayFollow rest other) : MayFollow rest (added ++ other) := by
  rcases hadded with rfl | ⟨bracket, -, hdelimiter, -⟩
  · exact h
  · refine .inr ⟨'\\', ?_, .inr rfl⟩
    rw [List.head?_append, head?_of_isDelimiter hdelimiter]
    rfl

/-- What begins another layout may follow whatever ended in front of it. -/
theorem IsRelaid.mayFollow (h : IsRelaid cursor other) : MayFollow cursor.remaining other := by
  induction h with
  | @endOfInput cursor stop token before behind hread hkind hbefore hbehind =>
    have hend : MayFollow (cursor.remaining ++ []) (cursor.remaining ++ behind) := by
      refine MayFollow.append ?_ _
      rw [← List.append_nil behind]
      exact (mayFollow_refl []).behindSpaces hbehind
    rw [List.append_nil] at hend
    exact hend.behindSpaces hbefore
  | token hread hkind htext hstart hbefore hbetween hadded hother ih =>
    rw [htext]
    refine MayFollow.behindSpaces hbefore (MayFollow.append ?_ _)
    exact ((ih.append _).behindDelimiter hadded).behindSpaces hbetween

/-- A bracket is read with an added delimiter as it is without one. -/
theorem IsPiece.reads_added (h : IsPiece rest kind piece)
    (hadded : added = [] ∨ MayPrecede added kind piece)
    (hrest : Reads (readToken table) rest kinds) :
    Reads (readToken table) (added ++ (piece ++ rest)) (kind :: kinds) := by
  rcases hadded with rfl | ⟨bracket, rfl, hdelimiter, hnone⟩
  · exact h.reads hrest
  · cases h with
    | @fixed key lexeme _ hkey hkind hend =>
      have hlexeme : lexeme = .bracket bracket := by
        cases lexeme <;> simp_all [Lexeme.kind?]
      exact reads_delimitedKey hdelimiter (hlexeme ▸ hkey) hrest
    | @delimited delimiter key _ hfront hkey =>
      exact absurd (List.prefix_append _ _) (hnone _ _ hfront)

/-- A text in another layout is read as the same tokens, up to the end of the input. -/
theorem IsRelaid.reads (h : IsRelaid cursor other) :
    ∃ kinds, Yields (readToken table) cursor kinds ∧ Reads (readToken table) other kinds := by
  -- by induction on the tokens, from the last one: each is read whatever is inserted behind it
  induction h with
  | @endOfInput cursor stop token before behind hread hkind hbefore hbehind =>
    have hanswer := congrArg Prod.fst hread
    obtain ⟨gap, piece, htext, -, hgap, hend⟩ := finds_readToken cursor token hanswer
    rw [if_pos hkind] at hend
    rw [hend.1, hend.2] at htext hgap
    rw [List.append_nil, List.append_nil] at htext
    have hfollow : MayFollow [] (behind ++ []) := (mayFollow_refl []).behindSpaces hbehind
    have hbehindReads := (hgap.mayFollow hfollow).reads (reads_spaces hbehind reads_nil)
    rw [htext]
    rw [List.append_nil] at hbehindReads
    exact ⟨[], ⟨token, hanswer, hkind⟩, reads_spaces hbefore hbehindReads⟩
  | @token cursor stop token before gap between added piece other hread hkind htext hstart hbefore
      hbetween hadded hother ih =>
    obtain ⟨kinds, hyields, hreads⟩ := ih
    have hfinds := finds_readToken cursor
    rw [hread] at hfinds
    obtain ⟨skipped, taken, htext', hstart', hgap, hpiece⟩ := hfinds token rfl
    rw [if_neg hkind] at hpiece
    -- the token begins at one place only
    have hlength : skipped.length = gap.length :=
      Cursor.eq_of_position_advance_eq (by rw [htext']; simp) (by rw [htext]; simp)
        (hstart'.trans hstart.symm)
    obtain ⟨rfl, hrest⟩ := List.append_inj (htext'.symm.trans htext) hlength
    obtain rfl := List.append_cancel_right hrest
    have hfollow := ((hother.mayFollow.append taken).behindDelimiter hadded).behindSpaces hbetween
    have hyieldsRest : Yields (readToken table) (readToken table cursor).2 kinds := by
      rw [hread]
      exact hyields
    refine ⟨token.kind :: kinds, ⟨token, congrArg Prod.fst hread, rfl, hkind, hyieldsRest⟩, ?_⟩
    refine reads_spaces hbefore ((hgap.mayFollow hfollow).reads (reads_spaces hbetween ?_))
    exact (hpiece.mayFollow hother.mayFollow).reads_added hadded hreads

end Relaid

/-- A bracket that is spelled without a backslash may have a delimiter added. -/
theorem mayPrecede_bracket {bracket : Bracket} {added rest : List Char} {c : Char}
    (hc : c ≠ '\\') (h : IsDelimiter lexemes bracket.opens added) :
    MayPrecede added (.bracket bracket) (c :: rest) := by
  refine ⟨bracket, rfl, h, fun opens delimiter hdelimiter hbegins ↦ hc ?_⟩
  obtain ⟨tail, htail⟩ := hbegins
  have hhead := congrArg List.head? htail
  rw [List.head?_append, head?_of_isDelimiter hdelimiter] at hhead
  exact (Option.some.inj hhead).symm

/-- A text with the tokens of another one in another layout is read as the same tokens, and as an
equal tree or not at all. -/
theorem parse_eq_of_isRelaid {text other : String} {kinds : List Token.Kind}
    (h : Gives (scanner text) kinds) (hrelaid : IsRelaid (.ofText text) other.toList) :
    Gives (scanner other) kinds ∧
      ((∃ value?, parse text = .ok value? ∧ parse other = .ok value?) ∨
        (∃ error, parse text = .error error) ∧ ∃ error, parse other = .error error) := by
  obtain ⟨others, hyields, hreads⟩ := hrelaid.reads
  have hothers : Gives (scanner text) others :=
    gives_of_yields (fun cursor ↦ (⟨table, cursor⟩ : Scanner (Trie Lexeme))) (fun _ ↦ rfl) hyields
  obtain rfl := answers_unique h hothers
  have hother := gives_of_reads hreads
  have hiff (value? : Option Expr) : parse text = .ok value? ↔ parse other = .ok value? :=
    (parse_eq_ok_iff_of_gives h).trans (parse_eq_ok_iff_of_gives hother).symm
  refine ⟨hother, ?_⟩
  cases hparse : parse text with
  | ok value? => exact .inl ⟨value?, rfl, (hiff value?).1 hparse⟩
  | error error =>
    refine .inr ⟨⟨error, rfl⟩, ?_⟩
    cases hfound : parse other with
    | error found => exact ⟨found, rfl⟩
    | ok value? =>
      rw [(hiff value?).2 hfound] at hparse
      contradiction

/-- White space and delimiters around a number, a spacing command, a symbol and two brackets. -/
theorem parse_eq_of_isRelaid_brackets :
    ∃ value?, parse "2\\,(x)" = .ok value? ∧
      parse "2 \\,\n\\left( x\\right) " = .ok value? := by
  let place (column : Nat) (rest : List Char) : Cursor := ⟨"2\\,(x)", rest, ⟨0, column⟩⟩
  have hnumber : readToken table (place 0 ['2', '\\', ',', '(', 'x', ')']) =
      (.ok ⟨.number ((⟨2, 0⟩ : Decimal).toBinary64 false), 0, 0, 1⟩,
        place 1 ['\\', ',', '(', 'x', ')']) :=
    Prod.ext (eq_ok_of_toOption (by decide +kernel)) (by decide +kernel)
  have hopening : readToken table (place 1 ['\\', ',', '(', 'x', ')']) =
      (.ok ⟨.bracket (.opening '('), 0, 3, 4⟩, place 4 ['x', ')']) :=
    Prod.ext (eq_ok_of_toOption (by decide +kernel)) (by decide +kernel)
  have hsymbol : readToken table (place 4 ['x', ')']) =
      (.ok ⟨.symbol "x", 0, 4, 5⟩, place 5 [')']) :=
    Prod.ext (eq_ok_of_toOption (by decide +kernel)) (by decide +kernel)
  have hclosing : readToken table (place 5 [')']) =
      (.ok ⟨.bracket (.closing ')'), 0, 5, 6⟩, place 6 []) :=
    Prod.ext (eq_ok_of_toOption (by decide +kernel)) (by decide +kernel)
  have hending : readToken table (place 6 []) = (.ok ⟨.endOfInput, 0, 6, 6⟩, place 6 []) :=
    Prod.ext (eq_ok_of_toOption (by decide +kernel)) (by decide +kernel)
  have hleft : IsDelimiter lexemes true ['\\', 'l', 'e', 'f', 't'] :=
    ⟨"\\left", [], rfl, nofun, by decide +kernel⟩
  have hright : IsDelimiter lexemes false ['\\', 'r', 'i', 'g', 'h', 't'] :=
    ⟨"\\right", [], rfl, nofun, by decide +kernel⟩
  have hnothing : ∀ c ∈ ([] : List Char), Character.isWhiteSpace c = true := List.forall_mem_nil _
  have hspace : ∀ c ∈ [' '], Character.isWhiteSpace c = true := List.forall_mem_singleton.2 rfl
  have hbreak : ∀ c ∈ ['\n'], Character.isWhiteSpace c = true := List.forall_mem_singleton.2 rfl
  have hbehind := @IsRelaid.endOfInput _ _ _ [] [' '] hending rfl hnothing hspace
  have hbeforeClosing := @IsRelaid.token _ _ _ [] [] [] _ [')'] _ hclosing nofun rfl rfl hnothing
    hnothing (.inr (mayPrecede_bracket (by decide +kernel) hright)) hbehind
  have hbeforeSymbol := @IsRelaid.token _ _ _ [' '] [] [] [] ['x'] _ hsymbol nofun rfl rfl hspace
    hnothing (.inl rfl) hbeforeClosing
  have hbeforeOpening := @IsRelaid.token _ _ _ [' '] ['\\', ','] ['\n'] _ ['('] _ hopening nofun
    rfl rfl hspace hbreak (.inr (mayPrecede_bracket (by decide +kernel) hleft)) hbeforeSymbol
  have hrelaid := @IsRelaid.token _ _ _ [] [] [] [] ['2'] _ hnumber nofun rfl rfl hnothing
    hnothing (.inl rfl) hbeforeOpening
  have hgives : Gives (scanner "2\\,(x)") [.number ((⟨2, 0⟩ : Decimal).toBinary64 false),
      .bracket (.opening '('), .symbol "x", .bracket (.closing ')')] :=
    @gives_of_drain _ _ 5 _ _ (by decide) (by decide +kernel)
  have hparses : (parse "2\\,(x)").toOption.isSome = true := by decide +kernel
  obtain ⟨-, hsame | ⟨⟨error, herror⟩, -⟩⟩ :=
    @parse_eq_of_isRelaid "2\\,(x)" "2 \\,\n\\left( x\\right) " _ hgives hrelaid
  · exact hsame
  · rw [herror] at hparses
    exact (Bool.false_ne_true hparses).elim

end Latex

end FormulaText
