import FormulaText.Proofs.PrefixMap.Answer
import FormulaText.Proofs.Scan.Places
import FormulaText.Proofs.Scan.Reads

/-!
# What a pull takes from the text

One pull passes over blanks and then takes the text of its token. A pull that fails takes nothing
behind the blanks, or a delimiter that no bracket follows.
-/

namespace FormulaText.Scan

open PrefixMap

variable {entries : List (String × Lexeme)}

section Definitions

variable (entries : List (String × Lexeme))

/-- White space and spacing commands, one after another. -/
inductive IsBlank : List Char → Prop where
  | nil : IsBlank []
  | whiteSpace {c : Char} {rest : List Char} (hc : Character.isWhiteSpace c = true)
      (hrest : IsBlank rest) : IsBlank (c :: rest)
  | command {key : String} {rest : List Char} (hkey : lastValue? entries key = some .space)
      (hrest : IsBlank rest) : IsBlank (key.toList ++ rest)

/-- A delimiter with the white space behind it. -/
def IsDelimiter (opens : Bool) (text : List Char) : Prop :=
  ∃ (key : String) (spaces : List Char), lastValue? entries key = some (.delimiter opens) ∧
    (∀ c ∈ spaces, Character.isWhiteSpace c = true) ∧ text = key.toList ++ spaces

/-- The text of a token that stands for a fixed text: a key of the table, or for a bracket also a
delimiter for its side with the bracket behind it. -/
def IsFixed (kind : Token.Kind) (text : List Char) : Prop :=
  (∃ (key : String) (lexeme : Lexeme), lastValue? entries key = some lexeme ∧
    lexeme.kind? = some kind ∧ text = key.toList) ∨
  ∃ (bracket : Bracket) (delimiter : List Char) (key : String), kind = .bracket bracket ∧
    IsDelimiter entries bracket.opens delimiter ∧
    lastValue? entries key = some (.bracket bracket) ∧ text = delimiter ++ key.toList

/-- Whether a text is one that a token can be read from. -/
def IsTextOf : Token.Kind → List Char → Prop
  | .number value, text =>
    ∃ decimal, Decimal.ofNumeral? text = some decimal ∧ decimal.toBinary64 false = value
  | .symbol name, text | .call name, text => text = name.toList
  | .control name, text => text = '\\' :: name.toList
  | .endOfInput, text => text = []
  | kind, text => IsFixed entries kind text

/-- What a failed pull leaves behind the blanks that it passed over. -/
def IsStuck (text : List Char) : Prop := text = [] ∨ ∃ opens, IsDelimiter entries opens text

/-- Whether a pull passes from a place over blanks, and from there over the text of its token, or
over what a failure leaves behind. -/
def Spans (start : Cursor) (result : Except SyntaxError Token × Cursor) : Prop :=
  ∃ skipped taken, skipped ++ taken <+: start.remaining ∧ IsBlank entries skipped ∧
    result.2 = start.advance (skipped.length + taken.length) ∧
    match result.1 with
    | .ok token => IsTextOf entries token.kind taken ∧
      token = (start.advance skipped.length).tokenUpTo result.2 token.kind
    | .error _ => IsStuck entries taken

/-- What lies in front of a token where some pulls failed: blanks, and at each failure what it left
behind. -/
inductive IsGap : Nat → List Char → Prop where
  | blank {text : List Char} (h : IsBlank entries text) : IsGap 0 text
  | failure {failures : Nat} {skipped stuck rest : List Char} (hskipped : IsBlank entries skipped)
      (hstuck : IsStuck entries stuck) (hrest : IsGap failures rest) :
      IsGap (failures + 1) (skipped ++ stuck ++ rest)

/-- Whether a token stands right behind a text and goes up to a cursor: the text between is the
text of the token, its line and column are those of the first character of it, and its end is the
column of the cursor. -/
structure Stands (before : List Char) (token : Token) (stop : Cursor) : Prop where
  takes : ∃ taken, stop.consumed = before ++ taken ∧ IsTextOf entries token.kind taken
  start_eq : (⟨token.line, token.column⟩ : Position) = Position.behind before
  stop_eq : token.endColumn = stop.position.column

end Definitions

/-! ## Blanks -/

theorem isBlank_of_isWhiteSpace {text : List Char}
    (h : ∀ c ∈ text, Character.isWhiteSpace c = true) : IsBlank entries text := by
  induction text with
  | nil => exact .nil
  | cons c rest ih =>
    exact .whiteSpace (h c List.mem_cons_self) (ih fun other hother ↦
      h other (List.mem_cons_of_mem _ hother))

theorem IsBlank.append {left right : List Char} (hleft : IsBlank entries left)
    (hright : IsBlank entries right) : IsBlank entries (left ++ right) := by
  induction hleft with
  | nil => exact hright
  | whiteSpace hc _ ih => exact .whiteSpace hc ih
  | command hkey _ ih =>
    rw [List.append_assoc]
    exact .command hkey ih

theorem isBlank_key {key : String} (hkey : lastValue? entries key = some .space) :
    IsBlank entries key.toList := by
  have h := IsBlank.command hkey IsBlank.nil
  rwa [List.append_nil] at h

/-! ## Single steps -/

section Steps

variable {start place : Cursor} {kind : Token.Kind} {taken : List Char}
  {result : Except SyntaxError Token × Cursor}

/-- Blanks may be passed over in front of a pull. -/
theorem Spans.skip {skipped : List Char} (hskipped : IsBlank entries skipped)
    (hbegins : skipped <+: start.remaining)
    (h : Spans entries (start.advance skipped.length) result) : Spans entries start result := by
  obtain ⟨more, taken, hmore, hblank, hstop, hresult⟩ := h
  obtain ⟨rest, hrest⟩ := hbegins
  have hremaining : (start.advance skipped.length).remaining = rest := by
    rw [Cursor.remaining_advance, ← hrest, List.drop_left]
  rw [hremaining] at hmore
  rw [Cursor.advance_advance, ← Nat.add_assoc, ← List.length_append] at hstop
  rw [Cursor.advance_advance, ← List.length_append] at hresult
  refine ⟨skipped ++ more, taken, ?_, hskipped.append hblank, hstop, hresult⟩
  rw [← hrest, List.append_assoc, List.prefix_append_right_inj]
  exact hmore

theorem spans_read (htaken : taken <+: place.remaining) (htext : IsTextOf entries kind taken) :
    Spans entries place (place.read kind taken.length) :=
  ⟨[], taken, htaken, .nil, by rw [List.length_nil, Nat.zero_add]; rfl, htext, rfl⟩

theorem spans_refuse (place : Cursor) (width : Nat) (fault : Fault) :
    Spans entries place (place.refuse width fault) :=
  ⟨[], [], List.nil_prefix, .nil, rfl, .inl rfl⟩

/-- White space is passed over first. -/
theorem Spans.skipWhiteSpace (h : Spans entries start.skipWhiteSpace result) :
    Spans entries start result :=
  h.skip (isBlank_of_isWhiteSpace (List.all_eq_true.1 List.all_takeWhile)) (List.takeWhile_prefix _)

section Exact

variable (hstart : start.IsExact) (h : Spans entries start result)

include hstart h

theorem Spans.isExact : result.2.IsExact := by
  obtain ⟨skipped, taken, -, -, hstop, -⟩ := h
  exact hstop ▸ hstart.advance _

/-- A token stands behind the blanks that its pull passed over. -/
theorem Spans.stands {token : Token} (htoken : result.1 = .ok token) :
    ∃ skipped, IsBlank entries skipped ∧
      Stands entries (start.consumed ++ skipped) token result.2 := by
  obtain ⟨skipped, taken, ⟨rest, hrest⟩, hskipped, hstop, hresult⟩ := h
  rw [htoken] at hresult
  obtain ⟨htext, htoken⟩ := hresult
  rw [List.append_assoc] at hrest
  have hconsumed : (start.advance skipped.length).consumed = start.consumed ++ skipped := by
    rw [hstart.consumed_advance, ← hrest, List.take_left]
  refine ⟨skipped, hskipped, ⟨taken, ?_, htext⟩, ?_, ?_⟩
  · rw [hstop, ← Cursor.advance_advance, (hstart.advance _).consumed_advance, hconsumed,
      Cursor.remaining_advance, ← hrest, List.drop_left, List.take_left]
  · rw [htoken, ← hconsumed]
    exact (hstart.advance _).position_eq
  · rw [htoken]
    rfl

/-- A failed pull passes over blanks and what it leaves behind. -/
theorem Spans.consumed_of_error {error : SyntaxError} (herror : result.1 = .error error) :
    ∃ skipped stuck, IsBlank entries skipped ∧ IsStuck entries stuck ∧
      result.2.consumed = start.consumed ++ (skipped ++ stuck) := by
  obtain ⟨skipped, stuck, ⟨rest, hrest⟩, hskipped, hstop, hresult⟩ := h
  rw [herror] at hresult
  refine ⟨skipped, stuck, hskipped, hresult, ?_⟩
  rw [hstop, hstart.consumed_advance, ← hrest, ← List.length_append, List.take_left]

end Exact

end Steps

/-! ## Fixed texts and numerals -/

section Pieces

variable {M : Type} [PrefixMap M Lexeme] {table : M} {place : Cursor} {length : Nat}
  {lexeme : Lexeme} {kind : Token.Kind}

/-- A lexeme at the beginning of a text is the last one for a key that the text begins with. -/
theorem exists_key_of_lexemeAt? (h : Answers table entries) {text : List Char}
    (hlexeme : lexemeAt? table text = some (length, lexeme)) :
    ∃ key : String, key.toList <+: text ∧ key.toList.length = length ∧
      lastValue? entries key = some lexeme := by
  unfold lexemeAt? at hlexeme
  split at hlexeme
  · contradiction
  · next bytes found hfound =>
    have hanswer := h text
    rw [hfound] at hanswer
    obtain ⟨key, ⟨rest, hrest⟩, rfl, hvalue, -⟩ := hanswer
    have htake : takeBytes key.utf8ByteSize text = key.toList := by
      rw [← hrest, ← length_utf8Bytes_toList, takeBytes_length_utf8Bytes]
    simp only [htake] at hlexeme
    split at hlexeme
    · contradiction
    · obtain ⟨rfl, rfl⟩ := Prod.mk.inj (Option.some.inj hlexeme)
      exact ⟨key, ⟨rest, hrest⟩, rfl, hvalue⟩

theorem isTextOf_of_isFixed {text : List Char} (hkind : lexeme.kind? = some kind)
    (h : IsFixed entries kind text) : IsTextOf entries kind text := by
  cases lexeme <;> simp only [Lexeme.kind?, Option.some.injEq, reduceCtorEq] at hkind <;>
    subst hkind <;> exact h

/-- A lexeme that is a token is read as its key. -/
theorem spans_read_lexeme (h : Answers table entries)
    (hlexeme : lexemeAt? table place.remaining = some (length, lexeme))
    (hkind : lexeme.kind? = some kind) : Spans entries place (place.read kind length) := by
  obtain ⟨key, hkey, rfl, hvalue⟩ := exists_key_of_lexemeAt? h hlexeme
  exact spans_read hkey (isTextOf_of_isFixed hkind (.inl ⟨key, lexeme, hvalue, hkind, rfl⟩))

theorem spans_readNumeral {numeral : List Char} (h : numeralAt? place.remaining = some numeral) :
    Spans entries place (readNumeral place numeral) := by
  unfold readNumeral
  split
  · next decimal hdecimal =>
    exact spans_read (numeralAt?_isPrefix h) ⟨decimal, hdecimal, rfl⟩
  · exact spans_refuse _ _ _

end Pieces

end FormulaText.Scan
