import FormulaText.Proofs.Latex.Scanning
import FormulaText.Proofs.Scan.Settling

/-!
# What may follow a token

No fixed text of LaTeX begins another one, and a word or a numeral ends where something else begins.
So what is read at a place depends on the text of the token there and on the character behind it
only, and white space or a backslash ends every token.
-/

namespace FormulaText.Latex

open Scan PrefixMap Grammar

/-- Whether a text may follow a token in place of another one: it begins with the same character,
or with white space or a backslash. -/
def MayFollow (rest other : List Char) : Prop :=
  other.head? = rest.head? ∨
    ∃ c, other.head? = some c ∧ (Character.isWhiteSpace c = true ∨ c = '\\')

theorem mayFollow_refl (rest : List Char) : MayFollow rest rest := .inl rfl

theorem mayFollow_whiteSpace {c : Char} (hc : Character.isWhiteSpace c = true)
    (rest other : List Char) : MayFollow rest (c :: other) := .inr ⟨c, rfl, .inl hc⟩

section Follow

variable {rest other : List Char}

theorem MayFollow.append (h : MayFollow rest other) (text : List Char) :
    MayFollow (text ++ rest) (text ++ other) := by
  cases text with
  | nil => exact h
  | cons c text => exact .inl rfl

/-- What holds of white space and of a backslash holds of what comes to follow a token. -/
theorem MayFollow.head {P : Char → Prop} (h : MayFollow rest other)
    (hspace : ∀ c, Character.isWhiteSpace c = true → P c) (hbackslash : P '\\')
    (hrest : ∀ c, rest.head? = some c → P c) : ∀ c, other.head? = some c → P c := by
  intro first hfirst
  rcases h with heq | ⟨c, hc, hc'⟩
  · exact hrest first (heq ▸ hfirst)
  · obtain rfl : c = first := Option.some.inj (hc.symm.trans hfirst)
    rcases hc' with hwhite | rfl
    · exact hspace c hwhite
    · exact hbackslash

theorem MayFollow.not_isAlpha (h : MayFollow rest other)
    (hrest : rest.head?.any Char.isAlpha = false) : other.head?.any Char.isAlpha = false := by
  rw [Option.any_eq_false] at hrest ⊢
  refine h.head (fun c hc ↦ ?_) rfl hrest
  exact Character.isAlpha_eq_false (Character.isAlphabetic_of_isWhiteSpace hc)

theorem MayFollow.not_isAlphabetic (h : MayFollow rest other)
    (hrest : rest.head?.all (fun c ↦ !Character.isAlphabetic c) = true) :
    other.head?.all (fun c ↦ !Character.isAlphabetic c) = true := by
  rw [Option.all_eq_true] at hrest ⊢
  refine h.head (fun c hc ↦ ?_) rfl hrest
  rw [Character.isAlphabetic_of_isWhiteSpace hc]
  rfl

end Follow

/-! ## Fixed texts -/

theorem lexemes_isPrefixFree : ∀ entry ∈ lexemes, ∀ other ∈ lexemes,
    entry.1.toList.isPrefixOf other.1.toList = true → entry.1 = other.1 := by
  decide +kernel

/-- No fixed text begins with white space, and none as a word or a numeral does. -/
theorem lexemes_head?_any : ∀ entry ∈ lexemes, entry.1.toList.head?.any (fun c ↦
    !Character.isWhiteSpace c && !Character.isAlphabetic c && !c.isDigit && c != '.') = true := by
  decide

/-- Whether a fixed text is found in front of another text: it is no control word, or no letter
follows it. -/
def EndsKey (key : String) (rest : List Char) : Prop :=
  isControlWord key.toList = true → rest.head?.any Char.isAlpha = false

section Keys

variable {key : String} {lexeme : Lexeme} {text rest other : List Char} {length : Nat}

theorem EndsKey.mayFollow (h : EndsKey key rest) (hother : MayFollow rest other) :
    EndsKey key other :=
  fun hcontrol ↦ hother.not_isAlpha (h hcontrol)

theorem exists_cons_of_key (hkey : lastValue? lexemes key = some lexeme) :
    ∃ c letters, key.toList = c :: letters ∧ Character.isWhiteSpace c = false ∧
      endsPiece (c :: letters) = true := by
  have hhead := lexemes_head?_any _ (exists_mem_of_lastValue? hkey)
  cases hletters : key.toList with
  | nil => simp [hletters] at hhead
  | cons c letters =>
    simp only [hletters, List.head?_cons, Option.any_some, Bool.and_eq_true,
      Bool.not_eq_true'] at hhead
    refine ⟨c, letters, rfl, hhead.1.1.1, ?_⟩
    simp [endsPiece, hhead]

/-- A fixed text is the longest one that a text begins with. -/
theorem longestOf_key (hkey : lastValue? lexemes key = some lexeme) (rest : List Char) :
    longestOf lexemes (key.toList ++ rest) =
      some ((utf8Bytes key.toList).length, lexeme) := by
  have hmem := exists_mem_of_lastValue? hkey
  have hanswer : IsAnswer lexemes (key.toList ++ rest) (some (key.utf8ByteSize, lexeme)) := by
    refine ⟨key, List.prefix_append _ _, rfl, hkey, fun entry hentry hbegins ↦ Nat.le_of_eq ?_⟩
    have hsame : entry.1 = key := by
      rcases List.prefix_or_prefix_of_prefix hbegins (List.prefix_append key.toList rest) with
        hprefix | hprefix
      · exact lexemes_isPrefixFree _ hentry _ hmem (List.isPrefixOf_iff_prefix.2 hprefix)
      · exact (lexemes_isPrefixFree _ hmem _ hentry (List.isPrefixOf_iff_prefix.2 hprefix)).symm
    rw [hsame]
  rw [length_utf8Bytes_toList]
  exact (isAnswer_longestOf lexemes _).unique hanswer

/-- A fixed text is found wherever it stands, unless it is a control word that a letter follows. -/
theorem lexemeAt?_eq_some_iff :
    lexemeAt? table text = some (length, lexeme) ↔
      ∃ (key : String) (rest : List Char), text = key.toList ++ rest ∧
        key.toList.length = length ∧ lastValue? lexemes key = some lexeme ∧ EndsKey key rest := by
  constructor
  · intro h
    obtain ⟨key, ⟨rest, rfl⟩, hlength, hkey⟩ := exists_key_of_lexemeAt? (answers_trie lexemes) h
    refine ⟨key, rest, rfl, hlength, hkey, fun hcontrol ↦ ?_⟩
    rw [table, lexemeAt?, longestPrefix?_trie, longestOf_key hkey] at h
    simp only [takeBytes_length_utf8Bytes, List.drop_left, hcontrol, Bool.true_and] at h
    simp_all
  · rintro ⟨key, rest, rfl, rfl, hkey, hend⟩
    obtain ⟨c, letters, hletters, -⟩ := exists_cons_of_key hkey
    exact lexemeAt?_eq_some key.toList (longestOf_key hkey rest) (by simp [hletters]) hend

end Keys

/-! ## What is read at a fixed text -/

section Reading

variable {key other : String} {lexeme : Lexeme} {kind : Token.Kind} {kinds : List Token.Kind}
  {rest spaces delimiter : List Char} {bracket : Bracket}

theorem reads_spaces (hspaces : ∀ c ∈ spaces, Character.isWhiteSpace c = true)
    (h : Reads (readToken table) rest kinds) : Reads (readToken table) (spaces ++ rest) kinds := by
  induction spaces with
  | nil => exact h
  | cons c spaces ih =>
    rw [List.forall_mem_cons] at hspaces
    exact reads_space hspaces.1 (ih hspaces.2)

/-- A spacing command is passed over. -/
theorem reads_command (hkey : lastValue? lexemes key = some .space)
    (hend : EndsKey key rest)
    (h : Reads (readToken table) rest kinds) :
    Reads (readToken table) (key.toList ++ rest) kinds := by
  intro cursor hcursor
  have hlexeme := lexemeAt?_eq_some_iff.2 ⟨key, rest, rfl, rfl, hkey, hend⟩
  obtain ⟨c, letters, hletters, hc, -⟩ := exists_cons_of_key hkey
  rw [hletters] at hcursor hlexeme
  have hskip := remaining_skipWhiteSpace_of_cons hcursor hc
  have hread := readToken_of_lexemeAt? hskip hlexeme
  have hafter := h (cursor.skipWhiteSpace.advance (c :: letters).length)
    (by rw [Cursor.remaining_advance, hskip]; exact List.drop_left)
  cases kinds <;>
  · rw [Yields, hread]
    exact hafter

/-- A fixed text that is a token. -/
theorem reads_key (hkey : lastValue? lexemes key = some lexeme) (hkind : lexeme.kind? = some kind)
    (hend : EndsKey key rest)
    (h : Reads (readToken table) rest kinds) :
    Reads (readToken table) (key.toList ++ rest) (kind :: kinds) := by
  have hlexeme := lexemeAt?_eq_some_iff.2 ⟨key, rest, rfl, rfl, hkey, hend⟩
  obtain ⟨c, letters, hletters, hc, -⟩ := exists_cons_of_key hkey
  rw [hletters] at hlexeme ⊢
  exact reads_lexeme hc hkind hlexeme h

def isBracket : Lexeme → Bool
  | .bracket _ => true
  | _ => false

/-- No bracket is a control word. -/
theorem endsKey_bracket (hkey : lastValue? lexemes key = some (.bracket bracket))
    (rest : List Char) : EndsKey key rest := by
  intro hcontrol
  have hnone : ∀ entry ∈ lexemes, isBracket entry.2 = true →
      isControlWord entry.1.toList = false := by
    decide
  rw [hnone _ (exists_mem_of_lastValue? hkey) rfl] at hcontrol
  contradiction

/-- A fixed text ends where white space or another one stands. -/
theorem endsKey_spaces (hspaces : ∀ c ∈ spaces, Character.isWhiteSpace c = true)
    (hother : lastValue? lexemes other = some lexeme) (key : String) (rest : List Char) :
    EndsKey key (spaces ++ (other.toList ++ rest)) := by
  intro _
  cases spaces with
  | nil =>
    obtain ⟨c, letters, hletters, -, hends⟩ := exists_cons_of_key hother
    have hc : Character.isAlphabetic c = false := by
      simpa using not_isAlphabetic_of_endsPiece hends
    rw [hletters]
    exact Character.isAlpha_eq_false hc
  | cons c spaces =>
    rw [List.forall_mem_cons] at hspaces
    exact Character.isAlpha_eq_false (Character.isAlphabetic_of_isWhiteSpace hspaces.1)

/-- A bracket behind a delimiter for its side. -/
theorem reads_delimitedKey (hdelimiter : IsDelimiter lexemes bracket.opens delimiter)
    (hkey : lastValue? lexemes key = some (.bracket bracket))
    (h : Reads (readToken table) rest kinds) :
    Reads (readToken table) (delimiter ++ (key.toList ++ rest)) (.bracket bracket :: kinds) := by
  obtain ⟨command, spaces, hcommand, hspaces, rfl⟩ := hdelimiter
  obtain ⟨mark, marks, hmarks, hmark, -⟩ := exists_cons_of_key hkey
  have hlexeme := lexemeAt?_eq_some_iff.2
    ⟨command, _, rfl, rfl, hcommand, endsKey_spaces hspaces hkey command rest⟩
  have hbracket := lexemeAt?_eq_some_iff.2 ⟨key, rest, rfl, rfl, hkey, endsKey_bracket hkey rest⟩
  intro cursor hcursor
  rw [List.append_assoc] at hcursor
  obtain ⟨c, letters, hletters, hc, -⟩ := exists_cons_of_key hcommand
  rw [hletters] at hcursor hlexeme
  have hskip : cursor.skipWhiteSpace.remaining = c :: letters ++ (spaces ++ (key.toList ++ rest)) :=
    remaining_skipWhiteSpace_of_cons hcursor hc
  have hread := readToken_of_lexemeAt? hskip hlexeme
  -- behind the command and the white space stands the bracket
  have hplace : ((cursor.skipWhiteSpace.advance (c :: letters).length).skipWhiteSpace).remaining =
      key.toList ++ rest := by
    rw [Cursor.remaining_skipWhiteSpace, Cursor.remaining_advance, hskip, List.drop_left,
      List.dropWhile_append_of_pos hspaces, hmarks, List.cons_append,
      List.dropWhile_cons_of_neg (by simp [hmark])]
  simp only [readLexeme, readDelimited, hplace, hbracket, if_true] at hread
  have hafter : (readToken table cursor).2.remaining = rest := by
    rw [hread, Cursor.remaining_advance, hplace, List.drop_left]
  exact ⟨_, congrArg Prod.fst hread, rfl, Token.Kind.noConfusion, h _ hafter⟩

end Reading

/-! ## Texts of tokens, and what ends them -/

/-- What is passed over in front of a token, where a text follows: white space and spacing
commands. -/
inductive IsPassedOver (rest : List Char) : List Char → Prop where
  | nil : IsPassedOver rest []
  | whiteSpace {c : Char} {gap : List Char} (hc : Character.isWhiteSpace c = true)
      (hgap : IsPassedOver rest gap) : IsPassedOver rest (c :: gap)
  | command {key : String} {gap : List Char} (hkey : lastValue? lexemes key = some .space)
      (hend : EndsKey key (gap ++ rest)) (hgap : IsPassedOver rest gap) :
      IsPassedOver rest (key.toList ++ gap)

/-- The text of a token, where a text follows that does not go on with it. -/
inductive IsPiece (rest : List Char) : Token.Kind → List Char → Prop where
  | number {numeral : List Char} {decimal : Decimal} (hdigit : numeral.any Char.isDigit = true)
      (hend : digitsAndPoint false (numeral ++ rest) = numeral)
      (hdecimal : Decimal.ofNumeral? numeral = some decimal) :
      IsPiece rest (.number (decimal.toBinary64 false)) numeral
  | symbol {word : List Char} (hword : isWord word = true)
      (hend : rest.head?.all (fun c ↦ !Character.isAlphabetic c) = true) :
      IsPiece rest (.symbol (String.ofList word)) word
  | control {name : List Char} (hname : isControlName name = true)
      (hend : rest.head?.all (fun c ↦ !Character.isAlphabetic c) = true) :
      IsPiece rest (.control (String.ofList name)) ('\\' :: name)
  | fixed {key : String} {lexeme : Lexeme} {kind : Token.Kind}
      (hkey : lastValue? lexemes key = some lexeme) (hkind : lexeme.kind? = some kind)
      (hend : EndsKey key rest) : IsPiece rest kind key.toList
  | delimited {delimiter : List Char} {key : String} {bracket : Bracket}
      (hdelimiter : IsDelimiter lexemes bracket.opens delimiter)
      (hkey : lastValue? lexemes key = some (.bracket bracket)) :
      IsPiece rest (.bracket bracket) (delimiter ++ key.toList)

section Pieces

variable {rest other gap piece : List Char} {kind : Token.Kind} {kinds : List Token.Kind}

theorem IsPassedOver.mayFollow (h : IsPassedOver rest gap) (hother : MayFollow rest other) :
    IsPassedOver other gap := by
  induction h with
  | nil => exact .nil
  | whiteSpace hc _ ih => exact .whiteSpace hc ih
  | command hkey hend _ ih => exact .command hkey (hend.mayFollow (hother.append _)) ih

theorem IsPassedOver.reads (h : IsPassedOver rest gap) (hrest : Reads (readToken table) rest kinds) :
    Reads (readToken table) (gap ++ rest) kinds := by
  induction h with
  | nil => exact hrest
  | whiteSpace hc _ ih => exact reads_space hc ih
  | command hkey hend _ ih =>
    rw [List.append_assoc]
    exact reads_command hkey hend ih

theorem IsPassedOver.spaces {spaces : List Char}
    (hspaces : ∀ c ∈ spaces, Character.isWhiteSpace c = true) (h : IsPassedOver rest gap) :
    IsPassedOver rest (spaces ++ gap) := by
  induction spaces with
  | nil => exact h
  | cons c spaces ih =>
    rw [List.forall_mem_cons] at hspaces
    exact .whiteSpace hspaces.1 (ih hspaces.2)

/-- No numeral goes on where nothing of the kind follows. -/
theorem digitsAndPoint_eq_nil_iff {pointSeen : Bool} {text : List Char} :
    digitsAndPoint pointSeen text = [] ↔
      ∀ c, text.head? = some c → c.isDigit = false ∧ (c = '.' && !pointSeen) = false := by
  cases text with
  | nil => simp [digitsAndPoint]
  | cons c text =>
    rw [digitsAndPoint]
    split
    · simp_all
    · split <;> simp_all

theorem MayFollow.digitsAndPoint (hother : MayFollow rest other) {pointSeen : Bool}
    (h : Scan.digitsAndPoint pointSeen (piece ++ rest) = piece) :
    Scan.digitsAndPoint pointSeen (piece ++ other) = piece := by
  induction piece generalizing pointSeen with
  | nil =>
    rw [List.nil_append, digitsAndPoint_eq_nil_iff] at h ⊢
    refine hother.head (fun c hc ↦ ?_) ⟨rfl, rfl⟩ h
    have hdigit : c.isDigit = false := by
      rw [← Bool.not_eq_true]
      intro hdigit
      rw [Character.isWhiteSpace_of_isDigit hdigit] at hc
      contradiction
    have hpoint : c ≠ '.' := by
      rintro rfl
      contradiction
    simp [hdigit, hpoint]
  | cons c piece ih =>
    rw [List.cons_append, Scan.digitsAndPoint] at h ⊢
    split at h
    · next hdigit => rw [if_pos hdigit, ih (List.cons.inj h).2]
    · next hdigit =>
      split at h
      · next hpoint => rw [if_neg hdigit, if_pos hpoint, ih (List.cons.inj h).2]
      · contradiction

/-- What ends a token may be replaced. -/
theorem IsPiece.mayFollow (h : IsPiece rest kind piece) (hother : MayFollow rest other) :
    IsPiece other kind piece := by
  cases h with
  | number hdigit hend hdecimal => exact .number hdigit (hother.digitsAndPoint hend) hdecimal
  | symbol hword hend => exact .symbol hword (hother.not_isAlphabetic hend)
  | control hname hend => exact .control hname (hother.not_isAlphabetic hend)
  | fixed hkey hkind hend => exact .fixed hkey hkind (hend.mayFollow hother)
  | delimited hdelimiter hkey => exact .delimited hdelimiter hkey

/-- No fixed text begins as a word or a numeral does. -/
theorem lexemeAt?_eq_none_of_head {c : Char} (h : endsPiece (c :: rest) = false) :
    lexemeAt? table (c :: rest) = none := by
  rw [Option.eq_none_iff_forall_ne_some]
  rintro ⟨length, lexeme⟩ hlexeme
  obtain ⟨key, behind, htext, -, hkey, -⟩ := lexemeAt?_eq_some_iff.1 hlexeme
  obtain ⟨first, letters, hletters, -, hends⟩ := exists_cons_of_key hkey
  rw [hletters, List.cons_append, List.cons.injEq] at htext
  rw [htext.1] at h
  exact Bool.false_ne_true (h.symm.trans hends)

/-- A numeral begins neither as white space nor as a fixed text does. -/
theorem exists_cons_of_numeral {decimal : Decimal} (h : Decimal.ofNumeral? piece = some decimal) :
    ∃ c digits, piece = c :: digits ∧ Character.isWhiteSpace c = false ∧
      endsPiece (c :: digits) = false := by
  have hnumeral := isNumeral_of_ofNumeral? h
  cases piece with
  | nil => contradiction
  | cons c digits =>
    rcases Decimal.isDigit_or_point_of_isNumeral hnumeral c List.mem_cons_self with hc | rfl
    · exact ⟨c, digits, rfl, Character.isWhiteSpace_of_isDigit hc, by simp [endsPiece, hc]⟩
    · exact ⟨'.', digits, rfl, rfl, rfl⟩

/-- The text of a token is read as this token. -/
theorem IsPiece.reads (h : IsPiece rest kind piece) (hrest : Reads (readToken table) rest kinds) :
    Reads (readToken table) (piece ++ rest) (kind :: kinds) := by
  cases h with
  | number hdigit hend hdecimal =>
    have hnumeral := numeralAt?_eq_some_iff.2 ⟨hend, hdigit⟩
    obtain ⟨c, digits, rfl, hc, hends⟩ := exists_cons_of_numeral hdecimal
    refine reads_free hc (lexemeAt?_eq_none_of_head hends) nofun (fun place hplace ↦ ?_) hrest
    rw [readFree, hplace, hnumeral]
    simp only [readNumeral, hdecimal]
  | symbol hword hend => exact reads_symbol hword hend hrest
  | control hname hend => exact reads_control hname hend hrest
  | fixed hkey hkind hend => exact reads_key hkey hkind hend hrest
  | delimited hdelimiter hkey =>
    rw [List.append_assoc]
    exact reads_delimitedKey hdelimiter hkey hrest

end Pieces

/-! ## What a pull finds -/

/-- What a pull finds in a text, if it gives a token: it passes over what stands in front of the
token, which begins there, and stops behind the text of it. -/
def Finds (start : Cursor) (result : Except SyntaxError Token × Cursor) : Prop :=
  ∀ token, result.1 = .ok token → ∃ gap piece,
    start.remaining = gap ++ (piece ++ result.2.remaining) ∧
    (start.advance gap.length).position = ⟨token.line, token.column⟩ ∧
    IsPassedOver (piece ++ result.2.remaining) gap ∧
    if token.kind = .endOfInput then piece = [] ∧ result.2.remaining = []
    else IsPiece result.2.remaining token.kind piece

section Finds

variable {start place : Cursor} {skipped piece rest : List Char} {kind : Token.Kind}
  {result : Except SyntaxError Token × Cursor}

theorem finds_read (hplace : place.remaining = piece ++ rest) (h : IsPiece rest kind piece)
    (hkind : kind ≠ .endOfInput) : Finds place (place.read kind piece.length) := by
  rintro token ⟨⟩
  have hrest : (place.read kind piece.length).2.remaining = rest := by
    rw [Cursor.remaining_read, hplace, List.drop_left]
  rw [hrest]
  exact ⟨[], piece, hplace, by rw [List.length_nil, Cursor.advance_zero]; rfl, .nil,
    (if_neg hkind).symm ▸ h⟩

theorem finds_error {error : SyntaxError} (h : result.1 = .error error) : Finds start result := by
  intro token htoken
  rw [h] at htoken
  contradiction

/-- A pull may begin in front of what it passes over. -/
theorem Finds.passOver (hstart : skipped <+: start.remaining)
    (hskipped : ∀ gap rest, (start.advance skipped.length).remaining = gap ++ rest →
      IsPassedOver rest gap → IsPassedOver rest (skipped ++ gap))
    (h : Finds (start.advance skipped.length) result) : Finds start result := by
  intro token htoken
  obtain ⟨gap, piece, htext, hposition, hgap, hpiece⟩ := h token htoken
  refine ⟨skipped ++ gap, piece, ?_, ?_, hskipped gap _ htext hgap, hpiece⟩
  · rw [List.append_assoc, ← htext, Cursor.remaining_advance, List.prefix_iff_eq_append.1 hstart]
  · rw [List.length_append, ← Cursor.advance_advance]
    exact hposition

theorem Finds.skipWhiteSpace (h : Finds start.skipWhiteSpace result) : Finds start result :=
  h.passOver (List.takeWhile_prefix _) fun _ _ _ hgap ↦
    hgap.spaces (List.all_eq_true.1 List.all_takeWhile)

end Finds

section Pulls

variable {place : Cursor} {length : Nat} {lexeme : Lexeme} {kind : Token.Kind}

theorem finds_read_lexeme (hlexeme : lexemeAt? table place.remaining = some (length, lexeme))
    (hkind : lexeme.kind? = some kind) : Finds place (place.read kind length) := by
  obtain ⟨key, rest, htext, rfl, hkey, hend⟩ := lexemeAt?_eq_some_iff.1 hlexeme
  exact finds_read htext (.fixed hkey hkind hend) (Lexeme.kind?_ne_endOfInput hkind)

theorem finds_readFree (hlexeme : lexemeAt? table place.remaining = none) :
    Finds place (readFree place) := by
  unfold readFree
  split
  · next numeral hnumeral =>
    obtain ⟨rest, hrest⟩ := numeralAt?_isPrefix hnumeral
    obtain ⟨hend, hdigit⟩ := numeralAt?_eq_some_iff.1 hnumeral
    unfold readNumeral
    split
    · next decimal hdecimal =>
      exact finds_read hrest.symm (.number hdigit (hrest ▸ hend) hdecimal) nofun
    · exact finds_error rfl
  · split
    · next c letters hword =>
      obtain ⟨rest, htext, hisWord, hend⟩ := exists_append_of_wordAt hword
      exact finds_read htext (.symbol hisWord hend) nofun
    · next text _ hremaining =>
      split
      · next c letters hword =>
        obtain ⟨rest, htext, hisWord, hend⟩ := exists_append_of_wordAt hword
        rw [hremaining, htext] at hlexeme
        have hname := isControlName_of_lexemeAt? hisWord hend hlexeme
        have hplace : place.remaining = '\\' :: (c :: letters) ++ rest := by
          rw [hremaining, htext]
          rfl
        exact finds_read hplace (.control hname hend) nofun
      · exact finds_error rfl
    · exact finds_error rfl

theorem finds_readDelimited {opens : Bool}
    (hlexeme : lexemeAt? table place.remaining = some (length, .delimiter opens)) :
    Finds place (readDelimited table place length opens) := by
  obtain ⟨delimiter, hbegins, hdelimiter, hplace⟩ :=
    exists_delimiter (answers_trie lexemes) hlexeme
  have hbehind := List.prefix_iff_eq_append.1 hbegins
  simp only [readDelimited, hplace]
  split
  · next width bracket hbracket =>
    split
    · next hopens =>
      obtain ⟨key, rest, hkeyText, rfl, hkey, -⟩ := lexemeAt?_eq_some_iff.1 hbracket
      rw [Cursor.remaining_advance] at hkeyText
      have htext : place.remaining = delimiter ++ key.toList ++ rest := by
        rw [List.append_assoc, ← hkeyText, hbehind]
      have hread := finds_read htext (.delimited (hopens ▸ hdelimiter) hkey) Token.Kind.noConfusion
      rwa [Cursor.read, List.length_append, ← Cursor.advance_advance] at hread
    · exact finds_error rfl
  · exact finds_error rfl

theorem finds_endOfInput (hempty : place.remaining = []) :
    Finds place (place.read .endOfInput 0) := by
  rintro token ⟨⟩
  have hrest : (place.read .endOfInput 0).2.remaining = [] := by
    rw [Cursor.remaining_read, hempty, List.drop_nil]
  rw [hrest]
  exact ⟨[], [], hempty, by rw [List.length_nil, Cursor.advance_zero]; rfl, .nil, rfl, rfl⟩

theorem finds_readToken (cursor : Cursor) : Finds cursor (readToken table cursor) := by
  fun_induction readToken table cursor with
  | case1 cursor hempty =>
    exact (finds_endOfInput (List.isEmpty_iff.1 hempty)).skipWhiteSpace
  | case2 cursor hempty length hlexeme ih =>
    obtain ⟨key, rest, htext, rfl, hkey, hend⟩ := lexemeAt?_eq_some_iff.1 hlexeme
    refine Finds.skipWhiteSpace (ih.passOver ⟨rest, htext.symm⟩ fun gap rest hrest hgap ↦ ?_)
    rw [Cursor.remaining_advance, htext, List.drop_left] at hrest
    exact .command hkey (hrest ▸ hend) hgap
  | case3 cursor hempty length opens hlexeme => exact (finds_readDelimited hlexeme).skipWhiteSpace
  | case8 cursor hempty hlexeme => exact (finds_readFree hlexeme).skipWhiteSpace
  | _ cursor hempty =>
    rename_i hlexeme
    exact (finds_read_lexeme hlexeme rfl).skipWhiteSpace

end Pulls

end FormulaText.Latex
