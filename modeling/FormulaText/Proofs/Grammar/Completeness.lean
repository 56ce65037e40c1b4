import FormulaText.Proofs.Grammar.Upcoming

/-!
# Each phrase is read

Each rule reads a phrase of its category, up to the last token of the phrase, as the tree that the
phrase stands for, if the token after the phrase would not make it longer. The rules are looked at
together, by induction on their depth, and with each rule the ways in which a phrase of its
category can be made up. A rule may still give up because it is nested too deep.
-/

namespace FormulaText.Grammar

open Reader

variable {σ : Type} {vocabulary : Vocabulary} {depth : Nat}

/-! ## Readers that do not reject -/

namespace Reader

variable {α β : Type} {state : State σ}

/-- A reader does not reject, and all that it accepts has the property `post`. -/
def Reaches (reader : Reader σ α) (state : State σ) (post : α → State σ → Prop) : Prop :=
  match reader state with
  | .accepted value after => post value after
  | .rejected _ _ => False
  | .tooDeep _ => True

theorem reaches_giveUp {post : α → State σ → Prop} : Reaches giveUp state post := trivial

theorem reaches_pure {value : α} {post : α → State σ → Prop} :
    Reaches (Pure.pure value) state post ↔ post value state := Iff.rfl

theorem reaches_bind {reader : Reader σ α} {next : α → Reader σ β} {post : β → State σ → Prop} :
    Reaches (reader >>= next) state post ↔
      Reaches reader state fun value after ↦ Reaches (next value) after post := by
  simp only [Reaches, bind_apply]
  cases reader state <;> rfl

theorem reaches_get {post : State σ → State σ → Prop} :
    Reaches get state post ↔ post state state := Iff.rfl

theorem reaches_map {reader : Reader σ α} {f : α → β} {post : β → State σ → Prop} :
    Reaches (f <$> reader) state post ↔
      Reaches reader state fun value after ↦ post (f value) after := by
  simp only [Reaches, map_apply]
  cases reader state <;> rfl

theorem reaches_staysGrouped {operand : Expr} {post : Bool → State σ → Prop} :
    Reaches (staysGrouped operand) state post ↔
      post (operand.isBinary && state.justClosed) state := Iff.rfl

theorem Reaches.mono {reader : Reader σ α} {strong weak : α → State σ → Prop}
    (h : Reaches reader state strong)
    (hpost : ∀ value after, strong value after → weak value after) : Reaches reader state weak := by
  unfold Reaches at h ⊢
  cases hreader : reader state with
  | accepted value after =>
    rw [hreader] at h
    exact hpost value after h
  | rejected error after =>
    rw [hreader] at h
    exact h
  | tooDeep after => trivial

/-- Two readers in a row, where the second one is looked at after what the first one reaches. -/
theorem Reaches.bind {reader : Reader σ α} {next : α → Reader σ β} {mid : α → State σ → Prop}
    {post : β → State σ → Prop} (h : Reaches reader state mid)
    (hnext : ∀ value after, mid value after → Reaches (next value) after post) :
    Reaches (reader >>= next) state post :=
  reaches_bind.2 (h.mono hnext)

variable [TokenSource σ] {kinds rest : List Token.Kind} {kind : Token.Kind}

/-- A look ahead shows the next token and leaves everything as it is. -/
theorem reaches_peek (h : state.Upcoming kinds) :
    Reaches peek state fun token after ↦ token.kind = kinds.headD .endOfInput ∧
      after.ahead = some token ∧ after.Upcoming kinds ∧ after.justClosed = state.justClosed := by
  obtain ⟨token, htoken, hkind⟩ : ∃ token, state.upNext.1 = .ok token ∧
      token.kind = kinds.headD .endOfInput := by
    cases kinds with
    | nil => exact h
    | cons kind kinds =>
      obtain ⟨token, htoken, hkind, -⟩ := h
      exact ⟨token, htoken, hkind⟩
  rw [peek, reaches_bind, reaches_get]
  cases hahead : state.ahead with
  | some known =>
    have hknown : known = token := by
      simpa [State.upNext, hahead] using htoken
    rw [reaches_pure, hknown]
    exact ⟨hkind, hknown ▸ hahead, h, rfl⟩
  | none =>
    have hupNext := State.upNext_of_ahead_none hahead
    rcases hnext : TokenSource.next state.source with ⟨answer, source⟩
    rw [State.Upcoming, hupNext, hnext] at h
    rw [hupNext, hnext] at htoken
    cases htoken
    have hpull : pull state = .accepted token { state with
        source := source, events := .pulled (.ok token) :: state.events } := by
      simp only [pull, hnext]
    rw [reaches_bind, Reaches, hpull]
    exact ⟨hkind, rfl, h, rfl⟩

/-- What goes on after a look ahead. -/
theorem Reaches.afterPeek {next : Token → Reader σ β} {post : β → State σ → Prop}
    (h : state.Upcoming kinds)
    (hnext : ∀ token after, token.kind = kinds.headD .endOfInput → after.Upcoming kinds →
      after.justClosed = state.justClosed → Reaches (next token) after post) :
    Reaches (peek >>= next) state post :=
  (reaches_peek h).bind fun token after hpeek ↦
    hnext token after hpeek.1 hpeek.2.2.1 hpeek.2.2.2

/-- What goes on after the next token is consumed. -/
theorem Reaches.afterAdvance {next : Token → Reader σ β} {post : β → State σ → Prop}
    (h : state.Upcoming (kind :: kinds))
    (hnext : ∀ token after, token.kind = kind → after.Upcoming kinds →
      after.justClosed = kind.isClosingBracket → Reaches (next token) after post) :
    Reaches (advance >>= next) state post := by
  rw [reaches_bind, advance]
  refine (reaches_peek h).bind fun token peeked hpeek ↦ ?_
  obtain ⟨hkind, hahead, hpeeked, -⟩ := hpeek
  refine hnext token _ hkind ?_ ?_
  · obtain ⟨found, hfound, -, -, hrest⟩ := hpeeked
    simpa [State.Upcoming, State.upNext, hahead] using hrest
  · simpa [State.justClosed] using congrArg Token.Kind.isClosingBracket hkind

end Reader

/-! ## Phrases that are read -/

/-- Whether a phrase can begin with a token: an atom, a sign or an opening bracket. -/
def beginsPhrase : Token.Kind → Bool
  | .number _ | .symbol _ | .control _ | .call _ => true
  | .operator op => op.sign?.isSome
  | .bracket bracket => bracket.opens
  | .underscore | .equal | .endOfInput => false

theorem beginsPhrase_nameToken (isCall : Bool) (name : String) :
    beginsPhrase (nameToken isCall name) = true := by
  cases isCall <;> rfl

/-- Each phrase begins with a token that a phrase can begin with. -/
theorem Derives.exists_cons {category : Category} {kinds : List Token.Kind} {value : Expr}
    (h : Derives vocabulary category kinds value) :
    ∃ kind rest, kinds = kind :: rest ∧ beginsPhrase kind = true := by
  induction h with
  | number | symbol => exact ⟨_, _, rfl, rfl⟩
  | signed sign h ih => cases sign <;> exact ⟨_, _, rfl, rfl⟩
  | plain isCall | root isCall | application isCall =>
    exact ⟨_, _, rfl, beginsPhrase_nameToken isCall _⟩
  | fraction isCall | indexedRoot isCall =>
    exact ⟨_, _, rfl, beginsPhrase_nameToken isCall _⟩
  | group => exact ⟨_, _, rfl, rfl⟩
  | plus hlhs hrhs ih | minus hlhs hrhs ih | times hlhs hrhs ih | juxtaposed hlhs hrhs hfactor ih
  | divided hlhs hrhs ih | modulo hlhs hrhs ih | raised hlhs hrhs ih | indexed hlhs hrhs ih =>
    obtain ⟨kind, rest, rfl, hkind⟩ := ih
    exact ⟨kind, _, rfl, hkind⟩
  | _ => assumption

theorem nameToken_injective {isCall isCall' : Bool} {name name' : String}
    (h : nameToken isCall name = nameToken isCall' name') : isCall = isCall' ∧ name = name' := by
  cases isCall <;> cases isCall' <;> simp_all [nameToken]

/-- A phrase that begins with a name. -/
theorem Derives.exists_name {kinds : List Token.Kind} {value : Expr}
    (h : Derives vocabulary .named kinds value) :
    ∃ isCall name, kinds.head? = some (nameToken isCall name) := by
  cases h with
  | plain isCall | fraction isCall | root isCall | indexedRoot isCall | application isCall =>
    exact ⟨isCall, _, rfl⟩

/-- What a name stands for decides the rule for it. -/
theorem named_eq_role [TokenSource σ] (name : String) (isCall : Bool) :
    named (σ := σ) vocabulary (depth + 1) name isCall = do
      enter (.named name)
      match roleOf vocabulary name with
      | .fraction => fraction vocabulary depth
      | .root => root vocabulary depth
      | .function => application vocabulary depth name
      | .plain =>
        let _ ← advance
        return plainName isCall name := by
  rw [named, roleOf]
  split
  · rfl
  split
  · rfl
  split
  · rfl
  · unfold plainName
    split <;> rfl

/-- Operands of a division after the first one, each with its tokens. -/
abbrev Divisors := List (List Token.Kind × Expr)

namespace Divisors

def kinds (divisors : Divisors) : List Token.Kind :=
  divisors.flatMap fun divisor ↦ .operator .divide :: divisor.1

/-- A quotient by all divisors, the first one innermost. -/
def quotient (value : Expr) (divisors : Divisors) : Expr :=
  divisors.foldl (fun lhs divisor ↦ .binary .divide lhs divisor.2 false) value

end Divisors

/-- A quotient is a remainder and the divisors after it. -/
theorem Derives.exists_divisors {kinds : List Token.Kind} {value : Expr}
    (h : Derives vocabulary .quotient kinds value) :
    ∃ first lhs, ∃ divisors : Divisors, Derives vocabulary .remainder first lhs ∧
      (∀ divisor ∈ divisors, Derives vocabulary .remainder divisor.1 divisor.2) ∧
        kinds = first ++ divisors.kinds ∧ value = divisors.quotient lhs := by
  generalize hcategory : Category.quotient = category at h
  induction h with
  | quotient_of_remainder h =>
    exact ⟨_, _, [], h, by simp, by simp [Divisors.kinds], rfl⟩
  | @divided _ right _ rhs hlhs hrhs ih =>
    obtain ⟨first, lhs, divisors, hfirst, hdivisors, rfl, rfl⟩ := ih rfl
    refine ⟨first, lhs, divisors ++ [(right, rhs)], hfirst, ?_, ?_, ?_⟩
    · intro divisor hmem
      rcases List.mem_append.1 hmem with hmem | hmem
      · exact hdivisors divisor hmem
      · rw [List.mem_singleton.1 hmem]
        exact hrhs
    · simp [Divisors.kinds]
    · simp [Divisors.quotient]
  | _ => contradiction

variable [TokenSource σ]

/-- The tokens of a phrase are passed, and some tokens are left. -/
def State.Passed (state : State σ) (kinds rest : List Token.Kind) : Prop :=
  state.Upcoming rest ∧ state.justClosed = endsClosed kinds

/-- A passed phrase with more tokens before it. -/
theorem State.Passed.behind {state : State σ} {right rest : List Token.Kind}
    (h : state.Passed right rest) (left : List Token.Kind) (kind : Token.Kind) (hne : right ≠ []) :
    state.Passed (left ++ kind :: right) rest := by
  refine ⟨h.1, ?_⟩
  calc
    state.justClosed = endsClosed right := h.2
    _ = endsClosed (kind :: right) := (endsClosed_append [kind] hne).symm
    _ = endsClosed (left ++ kind :: right) := (endsClosed_append left (List.cons_ne_nil _ _)).symm

/-- A reader takes a phrase as a value, if the token after it would not make the phrase longer. -/
def Takes {α : Type} (category : Category) (reader : Reader σ α) (kinds : List Token.Kind)
    (value : α) : Prop :=
  ∀ ⦃state : State σ⦄ ⦃rest : List Token.Kind⦄, state.Upcoming (kinds ++ rest) →
    category.goesOn (rest.headD .endOfInput) = false →
      Reaches reader state fun found after ↦ found = value ∧ after.Passed kinds rest

namespace Takes

variable {α β : Type} {category : Category} {reader : Reader σ α} {kinds rest : List Token.Kind}
  {kind : Token.Kind} {value : α} {state : State σ} {post : β → State σ → Prop}

/-- What goes on after a phrase. -/
theorem bind {next : α → Reader σ β} (h : Takes category reader kinds value)
    (hup : state.Upcoming (kinds ++ rest))
    (hstops : category.goesOn (rest.headD .endOfInput) = false)
    (hnext : ∀ after, after.Passed kinds rest → Reaches (next value) after post) :
    Reaches (reader >>= next) state post :=
  (h hup hstops).bind fun _ after hfound ↦ hfound.1 ▸ hnext after hfound.2

/-- A rule that begins with a phrase and then looks ahead. -/
theorem thenPeek {rule : Rule} {next : α → Token → Reader σ β} (h : Takes category reader kinds value)
    (hup : state.Upcoming (kinds ++ rest))
    (hstops : category.goesOn (rest.headD .endOfInput) = false)
    (hnext : ∀ ahead after, ahead.kind = rest.headD .endOfInput → after.Passed kinds rest →
      Reaches (next value ahead) after post) :
    Reaches (do enter rule; let lhs ← reader; let ahead ← peek; next lhs ahead) state post := by
  change Reaches (do let lhs ← reader; let ahead ← peek; next lhs ahead)
    { state with events := .entered rule :: state.events } post
  refine h.bind hup hstops fun read hread ↦ ?_
  refine Reaches.afterPeek hread.1 fun ahead after hahead hafter hclosed ↦ ?_
  exact hnext ahead after hahead ⟨hafter, hclosed.trans hread.2⟩

/-- A rule that goes on with a token and a phrase. -/
theorem afterAdvance {next : α → Reader σ β}
    (h : Takes category reader kinds value) (hup : state.Upcoming (kind :: kinds ++ rest))
    (hstops : category.goesOn (rest.headD .endOfInput) = false)
    (hnext : ∀ after, after.Passed kinds rest → Reaches (next value) after post) :
    Reaches (do let _ ← advance; let rhs ← reader; next rhs) state post :=
  Reaches.afterAdvance hup fun _ _ _ hafter _ ↦ h.bind hafter hstops hnext

end Takes

/-- The rules down to a depth take the phrases of their categories. -/
structure Complete (vocabulary : Vocabulary) (σ : Type) [TokenSource σ] (depth : Nat) : Prop where
  expr {kinds : List Token.Kind} {value : Expr} (h : Derives vocabulary .sum kinds value) :
    Takes .sum (expr (σ := σ) vocabulary depth) kinds (some value)
  sum {kinds : List Token.Kind} {value : Expr} (h : Derives vocabulary .sum kinds value) :
    Takes .sum (sum (σ := σ) vocabulary depth) kinds value
  product {kinds : List Token.Kind} {value : Expr} (h : Derives vocabulary .product kinds value) :
    Takes .product (product (σ := σ) vocabulary depth) kinds value
  quotient {kinds : List Token.Kind} {value : Expr} (h : Derives vocabulary .quotient kinds value) :
    Takes .quotient (quotient (σ := σ) vocabulary depth) kinds value
  quotientFrom {left rest : List Token.Kind} {lhs : Expr} {divisors : Divisors} {state : State σ}
    (h : ∀ divisor ∈ divisors, Derives vocabulary .remainder divisor.1 divisor.2)
    (hstate : state.Passed left (divisors.kinds ++ rest))
    (hstops : Category.goesOn .quotient (rest.headD .endOfInput) = false) :
    Reaches (quotientFrom vocabulary depth lhs) state fun found after ↦
      found = divisors.quotient lhs ∧ after.Passed (left ++ divisors.kinds) rest
  remainder {kinds : List Token.Kind} {value : Expr}
    (h : Derives vocabulary .remainder kinds value) :
    Takes .remainder (remainder (σ := σ) vocabulary depth) kinds value
  power {kinds : List Token.Kind} {value : Expr} (h : Derives vocabulary .power kinds value) :
    Takes .power (power (σ := σ) vocabulary depth) kinds value
  subscript {kinds : List Token.Kind} {value : Expr}
    (h : Derives vocabulary .subscript kinds value) :
    Takes .subscript (subscript (σ := σ) vocabulary depth) kinds value
  operand {kinds : List Token.Kind} {value : Expr} (h : Derives vocabulary .operand kinds value) :
    Takes .operand (operand (σ := σ) vocabulary depth) kinds value
  signed (sign : Sign) {kinds : List Token.Kind} {value : Expr}
    (h : Derives vocabulary .operand kinds value) :
    Takes .operand (signed (σ := σ) vocabulary depth) (signToken sign :: kinds)
      (withSign sign value (endsClosed kinds))
  named {isCall : Bool} {name : String} {kinds : List Token.Kind} {value : Expr}
    (h : Derives vocabulary .named kinds value)
    (hhead : kinds.head? = some (nameToken isCall name)) :
    Takes .named (named (σ := σ) vocabulary depth name isCall) kinds value
  fraction {kind : Token.Kind} {above below : List Token.Kind} {numerator denominator : Expr}
    (habove : Derives vocabulary .group above numerator)
    (hbelow : Derives vocabulary .group below denominator) :
    Takes .named (fraction (σ := σ) vocabulary depth) (kind :: above ++ below)
      (.binary .divide numerator denominator false)
  simpleRoot {kind : Token.Kind} {kinds : List Token.Kind} {radicand : Expr}
    (h : Derives vocabulary .group kinds radicand)
    (hopen : kinds.head? ≠ some (.bracket (.opening '['))) :
    Takes .named (root (σ := σ) vocabulary depth) (kind :: kinds) (.apply "sqrt" radicand)
  indexedRoot {kind : Token.Kind} {inner outer : List Token.Kind} {index radicand : Expr}
    (hindex : Derives vocabulary .operand inner index)
    (h : Derives vocabulary .group outer radicand) :
    Takes .named (root (σ := σ) vocabulary depth)
      (kind :: .bracket (.opening '[') :: inner ++ .bracket (.closing ']') :: outer)
      (.binary .exponent radicand (.binary .divide (.number .one) index false) false)
  application (name : String) {kind : Token.Kind} {kinds : List Token.Kind} {argument : Expr}
    (h : Derives vocabulary .operand kinds argument) :
    Takes .named (application (σ := σ) vocabulary depth name) (kind :: kinds)
      (.apply name argument)
  group {kinds : List Token.Kind} {value : Expr} (h : Derives vocabulary .group kinds value) :
    Takes .group (group (σ := σ) vocabulary depth) kinds value

namespace Complete

theorem zero : Complete vocabulary σ 0 where
  expr _ _ _ _ _ := reaches_giveUp
  sum _ _ _ _ _ := reaches_giveUp
  product _ _ _ _ _ := reaches_giveUp
  quotient _ _ _ _ _ := reaches_giveUp
  quotientFrom _ _ _ := reaches_giveUp
  remainder _ _ _ _ _ := reaches_giveUp
  power _ _ _ _ _ := reaches_giveUp
  subscript _ _ _ _ _ := reaches_giveUp
  operand _ _ _ _ _ := reaches_giveUp
  signed _ _ _ _ _ _ _ _ := reaches_giveUp
  named _ _ _ _ _ _ := reaches_giveUp
  fraction _ _ _ _ _ _ := reaches_giveUp
  simpleRoot _ _ _ _ _ _ := reaches_giveUp
  indexedRoot _ _ _ _ _ _ := reaches_giveUp
  application _ _ _ _ _ _ _ _ _ := reaches_giveUp
  group _ _ _ _ _ := reaches_giveUp

theorem sum_succ (ih : Complete vocabulary σ depth) {kinds : List Token.Kind} {value : Expr}
    (h : Derives vocabulary .sum kinds value) :
    Takes .sum (Grammar.sum (σ := σ) vocabulary (depth + 1)) kinds value := by
  intro state rest hup hstops
  rw [Grammar.sum]
  have hproduct := Category.goesOn_sum.1 hstops
  cases h with
  | sum_of_product h =>
    refine (ih.product h).thenPeek hup hproduct.2.2 fun ahead after hahead hafter ↦ ?_
    split
    · next hkind => exact absurd (hahead ▸ hkind) hproduct.1
    · next hkind => exact absurd (hahead ▸ hkind) hproduct.2.1
    · exact ⟨rfl, hafter⟩
  | @plus left right lhs rhs hlhs hrhs =>
    rw [List.append_assoc] at hup
    refine (ih.product hlhs).thenPeek hup rfl fun ahead read hahead hread ↦ ?_
    rw [hahead]
    refine (ih.sum hrhs).afterAdvance hread.1 hstops fun after hafter ↦ ?_
    exact ⟨rfl, hafter.behind left _ hrhs.ne_nil⟩
  | @minus left right lhs rhs hlhs hrhs =>
    rw [List.append_assoc] at hup
    refine (ih.product hlhs).thenPeek hup rfl fun ahead read hahead hread ↦ ?_
    rw [hahead]
    refine (ih.sum hrhs).afterAdvance hread.1 hstops fun after hafter ↦ ?_
    rw [reaches_bind, reaches_staysGrouped, hafter.2]
    exact ⟨rfl, hafter.behind left _ hrhs.ne_nil⟩

theorem product_succ (ih : Complete vocabulary σ depth) {kinds : List Token.Kind} {value : Expr}
    (h : Derives vocabulary .product kinds value) :
    Takes .product (Grammar.product (σ := σ) vocabulary (depth + 1)) kinds value := by
  intro state rest hup hstops
  rw [Grammar.product]
  have hquotient := Category.goesOn_product.1 hstops
  cases h with
  | product_of_quotient h =>
    refine (ih.quotient h).thenPeek hup hquotient.2.2 fun ahead after hahead hafter ↦ ?_
    split
    · next hkind => exact absurd (hahead ▸ hkind) hquotient.1
    · next hkind => exact absurd (hahead ▸ hkind) (Category.goesOn_quotient.1 hquotient.2.2).1
    · rw [hahead, hquotient.2.1]
      exact ⟨rfl, hafter⟩
  | @times left right lhs rhs hlhs hrhs =>
    rw [List.append_assoc] at hup
    refine (ih.quotient hlhs).thenPeek hup rfl fun ahead read hahead hread ↦ ?_
    rw [hahead]
    refine (ih.product hrhs).afterAdvance hread.1 hstops fun after hafter ↦ ?_
    exact ⟨rfl, hafter.behind left _ hrhs.ne_nil⟩
  | @juxtaposed left right lhs rhs hlhs hrhs hfactor =>
    rw [List.append_assoc] at hup
    obtain ⟨kind, tail, rfl, -⟩ := hrhs.exists_cons
    change kind.beginsFactor = true at hfactor
    have hnext := Category.goesOn_quotient_of_beginsFactor hfactor
    refine (ih.quotient hlhs).thenPeek hup hnext fun ahead read hahead hread ↦ ?_
    change ahead.kind = kind at hahead
    rw [hahead]
    split
    · contradiction
    · contradiction
    · rw [if_pos hfactor]
      refine (ih.product hrhs).bind hread.1 hstops fun after hafter ↦ ?_
      refine ⟨rfl, hafter.1, ?_⟩
      rw [hafter.2, endsClosed_append left hrhs.ne_nil]

theorem quotient_succ (ih : Complete vocabulary σ depth) {kinds : List Token.Kind} {value : Expr}
    (h : Derives vocabulary .quotient kinds value) :
    Takes .quotient (Grammar.quotient (σ := σ) vocabulary (depth + 1)) kinds value := by
  intro state rest hup hstops
  rw [Grammar.quotient]
  obtain ⟨first, lhs, divisors, hfirst, hdivisors, rfl, rfl⟩ := h.exists_divisors
  rw [List.append_assoc] at hup
  have hnext : Category.goesOn .remainder ((divisors.kinds ++ rest).headD .endOfInput) = false := by
    cases divisors with
    | nil => exact (Category.goesOn_quotient.1 hstops).2
    | cons divisor divisors => rfl
  change Reaches (do let lhs ← Grammar.remainder vocabulary depth; Grammar.quotientFrom vocabulary depth lhs)
    { state with events := .entered .quotient :: state.events } _
  refine (ih.remainder hfirst).bind hup hnext fun read hread ↦ ?_
  exact ih.quotientFrom hdivisors hread hstops

theorem quotientFrom_succ (ih : Complete vocabulary σ depth) {left rest : List Token.Kind}
    {lhs : Expr} {divisors : Divisors} {state : State σ}
    (h : ∀ divisor ∈ divisors, Derives vocabulary .remainder divisor.1 divisor.2)
    (hstate : state.Passed left (divisors.kinds ++ rest))
    (hstops : Category.goesOn .quotient (rest.headD .endOfInput) = false) :
    Reaches (Grammar.quotientFrom vocabulary (depth + 1) lhs) state fun found after ↦
      found = divisors.quotient lhs ∧ after.Passed (left ++ divisors.kinds) rest := by
  rw [Grammar.quotientFrom]
  refine Reaches.afterPeek hstate.1 fun ahead peeked hahead hpeeked hclosed ↦ ?_
  have hclosed := hclosed.trans hstate.2
  cases divisors with
  | nil =>
    have hdivide := (Category.goesOn_quotient.1 hstops).1
    split
    · next hkind => exact absurd (hahead ▸ hkind) hdivide
    · refine ⟨rfl, hpeeked, ?_⟩
      rw [hclosed, Divisors.kinds, List.flatMap_nil, List.append_nil]
  | cons divisor others =>
    have hdivisor := h divisor List.mem_cons_self
    have hnext :
        Category.goesOn .remainder ((Divisors.kinds others ++ rest).headD .endOfInput) = false := by
      cases others with
      | nil => exact (Category.goesOn_quotient.1 hstops).2
      | cons other others => rfl
    have hkinds : Divisors.kinds (divisor :: others) =
        .operator .divide :: divisor.1 ++ Divisors.kinds others := rfl
    rw [hkinds, List.append_assoc] at hpeeked
    rw [hahead]
    refine (ih.remainder hdivisor).afterAdvance hpeeked hnext fun read hread ↦ ?_
    have hread := hread.behind left (.operator .divide) hdivisor.ne_nil
    have hothers := fun other hother ↦ h other (List.mem_cons_of_mem divisor hother)
    rw [hkinds, ← List.append_assoc]
    exact ih.quotientFrom hothers hread hstops

theorem remainder_succ (ih : Complete vocabulary σ depth) {kinds : List Token.Kind} {value : Expr}
    (h : Derives vocabulary .remainder kinds value) :
    Takes .remainder (Grammar.remainder (σ := σ) vocabulary (depth + 1)) kinds value := by
  intro state rest hup hstops
  rw [Grammar.remainder]
  have hpower := Category.goesOn_remainder.1 hstops
  cases h with
  | remainder_of_power h =>
    refine (ih.power h).thenPeek hup hpower.2 fun ahead after hahead hafter ↦ ?_
    split
    · next hkind => exact absurd (hahead ▸ hkind) hpower.1
    · exact ⟨rfl, hafter⟩
  | @modulo left right lhs rhs hlhs hrhs =>
    rw [List.append_assoc] at hup
    refine (ih.power hlhs).thenPeek hup rfl fun ahead read hahead hread ↦ ?_
    rw [hahead]
    refine (ih.remainder hrhs).afterAdvance hread.1 hstops fun after hafter ↦ ?_
    exact ⟨rfl, hafter.behind left _ hrhs.ne_nil⟩

theorem power_succ (ih : Complete vocabulary σ depth) {kinds : List Token.Kind} {value : Expr}
    (h : Derives vocabulary .power kinds value) :
    Takes .power (Grammar.power (σ := σ) vocabulary (depth + 1)) kinds value := by
  intro state rest hup hstops
  rw [Grammar.power]
  have hsubscript := Category.goesOn_power.1 hstops
  cases h with
  | power_of_subscript h =>
    refine (ih.subscript h).thenPeek hup hsubscript.2 fun ahead after hahead hafter ↦ ?_
    split
    · next hkind => exact absurd (hahead ▸ hkind) hsubscript.1
    · exact ⟨rfl, hafter⟩
  | @raised left right lhs rhs hlhs hrhs =>
    rw [List.append_assoc] at hup
    refine (ih.subscript hlhs).thenPeek hup rfl fun ahead read hahead hread ↦ ?_
    rw [hahead]
    refine (ih.power hrhs).afterAdvance hread.1 hstops fun after hafter ↦ ?_
    exact ⟨rfl, hafter.behind left _ hrhs.ne_nil⟩

theorem subscript_succ (ih : Complete vocabulary σ depth) {kinds : List Token.Kind} {value : Expr}
    (h : Derives vocabulary .subscript kinds value) :
    Takes .subscript (Grammar.subscript (σ := σ) vocabulary (depth + 1)) kinds value := by
  intro state rest hup hstops
  rw [Grammar.subscript]
  cases h with
  | subscript_of_operand h =>
    refine (ih.operand h).thenPeek hup rfl fun ahead after hahead hafter ↦ ?_
    split
    · next hkind =>
      rw [← hahead, hkind] at hstops
      contradiction
    · exact ⟨rfl, hafter⟩
  | @indexed left right base index hbase hindex =>
    rw [List.append_assoc] at hup
    refine (ih.operand hbase).thenPeek hup rfl fun ahead read hahead hread ↦ ?_
    rw [hahead]
    refine (ih.subscript hindex).afterAdvance hread.1 hstops fun after hafter ↦ ?_
    exact ⟨rfl, hafter.behind left _ hindex.ne_nil⟩

theorem expr_succ (ih : Complete vocabulary σ depth) {kinds : List Token.Kind} {value : Expr}
    (h : Derives vocabulary .sum kinds value) :
    Takes .sum (Grammar.expr (σ := σ) vocabulary (depth + 1)) kinds (some value) := by
  intro state rest hup hstops
  rw [Grammar.expr]
  obtain ⟨kind, tail, rfl, hkind⟩ := h.exists_cons
  change Reaches (peek >>= _) { state with events := .entered .expr :: state.events } _
  refine Reaches.afterPeek hup fun ahead peeked hahead hpeeked _ ↦ ?_
  change ahead.kind = kind at hahead
  rw [hahead]
  split
  iterate 3 contradiction
  · rw [reaches_map]
    refine (ih.sum h hpeeked hstops).mono fun found after hsum ↦ ?_
    exact ⟨congrArg some hsum.1, hsum.2⟩

theorem operand_succ (ih : Complete vocabulary σ depth) {kinds : List Token.Kind} {value : Expr}
    (h : Derives vocabulary .operand kinds value) :
    Takes .operand (Grammar.operand (σ := σ) vocabulary (depth + 1)) kinds value := by
  intro state rest hup hstops
  rw [Grammar.operand]
  change Reaches (peek >>= _) { state with events := .entered .operand :: state.events } _
  refine Reaches.afterPeek hup fun ahead peeked hahead hpeeked _ ↦ ?_
  cases h with
  | number value =>
    rw [hahead]
    refine Reaches.afterAdvance hpeeked fun _ after _ hafter hclosed ↦ ?_
    exact ⟨rfl, hafter, hclosed⟩
  | symbol name =>
    rw [hahead]
    refine Reaches.afterAdvance hpeeked fun _ after _ hafter hclosed ↦ ?_
    exact ⟨rfl, hafter, hclosed⟩
  | signed sign h =>
    have hsigned := ih.signed sign h hpeeked hstops
    cases sign <;> rw [hahead] <;> exact hsigned
  | operand_of_named h =>
    obtain ⟨isCall, name, hhead⟩ := h.exists_name
    have hnamed := ih.named h hhead hpeeked hstops
    obtain ⟨tail, rfl⟩ := List.head?_eq_some_iff.1 hhead
    cases isCall <;> rw [hahead] <;> exact hnamed
  | operand_of_group h =>
    have hgroup := ih.group h hpeeked hstops
    cases h with
    | group hpartner h =>
      rw [hahead]
      exact hgroup

theorem signed_succ (ih : Complete vocabulary σ depth) (sign : Sign) {kinds : List Token.Kind}
    {value : Expr} (h : Derives vocabulary .operand kinds value) :
    Takes .operand (Grammar.signed (σ := σ) vocabulary (depth + 1)) (signToken sign :: kinds)
      (withSign sign value (endsClosed kinds)) := by
  intro state rest hup hstops
  rw [Grammar.signed]
  change Reaches (advance >>= _) { state with events := .entered .signed :: state.events } _
  refine Reaches.afterAdvance hup fun found passed hfound hpassed _ ↦ ?_
  rw [hfound]
  cases sign with
  | plus =>
    refine (ih.operand h).bind hpassed hstops fun after hafter ↦ ?_
    have hafter := hafter.behind [] (signToken .plus) h.ne_nil
    cases value <;> exact ⟨rfl, hafter⟩
  | minus =>
    refine (ih.operand h).bind hpassed hstops fun after hafter ↦ ?_
    have hclosed := hafter.2
    have hafter := hafter.behind [] (signToken .minus) h.ne_nil
    cases value with
    | number => exact ⟨rfl, hafter⟩
    | _ =>
      rw [reaches_bind, reaches_staysGrouped, hclosed]
      exact ⟨rfl, hafter⟩

theorem named_succ (ih : Complete vocabulary σ depth) {isCall : Bool} {name : String}
    {kinds : List Token.Kind} {value : Expr} (h : Derives vocabulary .named kinds value)
    (hhead : kinds.head? = some (nameToken isCall name)) :
    Takes .named (Grammar.named (σ := σ) vocabulary (depth + 1) name isCall) kinds value := by
  intro state rest hup hstops
  rw [named_eq_role]
  change Reaches _ { state with events := .entered (.named name) :: state.events } _
  cases h with
  | plain isCall' hrole =>
    obtain ⟨rfl, rfl⟩ := nameToken_injective (Option.some.inj hhead)
    rw [hrole]
    refine Reaches.afterAdvance hup fun _ after _ hafter hclosed ↦ ?_
    exact ⟨rfl, hafter, hclosed⟩
  | fraction isCall' hrole habove hbelow =>
    obtain ⟨rfl, rfl⟩ := nameToken_injective (Option.some.inj hhead)
    rw [hrole]
    exact ih.fraction habove hbelow hup hstops
  | root isCall' hrole h hopen =>
    obtain ⟨rfl, rfl⟩ := nameToken_injective (Option.some.inj hhead)
    rw [hrole]
    exact ih.simpleRoot h hopen hup hstops
  | indexedRoot isCall' hrole hindex h =>
    obtain ⟨rfl, rfl⟩ := nameToken_injective (Option.some.inj hhead)
    rw [hrole]
    exact ih.indexedRoot hindex h hup hstops
  | application isCall' hrole h =>
    obtain ⟨rfl, rfl⟩ := nameToken_injective (Option.some.inj hhead)
    rw [hrole]
    exact ih.application _ h hup hstops

theorem fraction_succ (ih : Complete vocabulary σ depth) {kind : Token.Kind}
    {above below : List Token.Kind} {numerator denominator : Expr}
    (habove : Derives vocabulary .group above numerator)
    (hbelow : Derives vocabulary .group below denominator) :
    Takes .named (Grammar.fraction (σ := σ) vocabulary (depth + 1)) (kind :: above ++ below)
      (.binary .divide numerator denominator false) := by
  intro state rest hup hstops
  rw [Grammar.fraction]
  change Reaches (advance >>= _) { state with events := .entered .fraction :: state.events } _
  rw [List.append_assoc] at hup
  refine Reaches.afterAdvance hup fun _ passed _ hpassed _ ↦ ?_
  refine (ih.group habove).bind hpassed rfl fun read hread ↦ ?_
  refine (ih.group hbelow).bind hread.1 rfl fun after hafter ↦ ?_
  refine ⟨rfl, hafter.1, ?_⟩
  rw [hafter.2, endsClosed_append _ hbelow.ne_nil]

theorem simpleRoot_succ (ih : Complete vocabulary σ depth) {kind : Token.Kind}
    {kinds : List Token.Kind} {radicand : Expr} (h : Derives vocabulary .group kinds radicand)
    (hopen : kinds.head? ≠ some (.bracket (.opening '['))) :
    Takes .named (Grammar.root (σ := σ) vocabulary (depth + 1)) (kind :: kinds)
      (.apply "sqrt" radicand) := by
  intro state rest hup hstops
  rw [Grammar.root]
  change Reaches (advance >>= _) { state with events := .entered .root :: state.events } _
  refine Reaches.afterAdvance hup fun _ passed _ hpassed _ ↦ ?_
  refine Reaches.afterPeek hpassed fun ahead peeked hahead hpeeked _ ↦ ?_
  have hne : ahead.kind ≠ .bracket (.opening '[') := by
    obtain ⟨first, tail, rfl, -⟩ := h.exists_cons
    intro hfirst
    exact hopen (congrArg some (hahead.symm.trans hfirst))
  rw [if_neg hne]
  refine (ih.group h).bind hpeeked rfl fun after hafter ↦ ?_
  exact ⟨rfl, hafter.behind [] kind h.ne_nil⟩

theorem indexedRoot_succ (ih : Complete vocabulary σ depth) {kind : Token.Kind}
    {inner outer : List Token.Kind} {index radicand : Expr}
    (hindex : Derives vocabulary .operand inner index)
    (h : Derives vocabulary .group outer radicand) :
    Takes .named (Grammar.root (σ := σ) vocabulary (depth + 1))
      (kind :: .bracket (.opening '[') :: inner ++ .bracket (.closing ']') :: outer)
      (.binary .exponent radicand (.binary .divide (.number .one) index false) false) := by
  intro state rest hup hstops
  rw [Grammar.root]
  change Reaches (advance >>= _) { state with events := .entered .root :: state.events } _
  rw [List.append_assoc] at hup
  refine Reaches.afterAdvance hup fun _ passed _ hpassed _ ↦ ?_
  refine Reaches.afterPeek hpassed fun ahead peeked hahead hpeeked _ ↦ ?_
  change ahead.kind = .bracket (.opening '[') at hahead
  rw [if_pos hahead]
  refine (ih.operand hindex).afterAdvance hpeeked rfl fun read hread ↦ ?_
  refine Reaches.afterAdvance hread.1 fun found closed hfound hclosed _ ↦ ?_
  rw [if_pos hfound]
  refine (ih.group h).bind hclosed rfl fun after hafter ↦ ?_
  exact ⟨rfl, hafter.behind (kind :: .bracket (.opening '[') :: inner) _ h.ne_nil⟩

theorem application_succ (ih : Complete vocabulary σ depth) (name : String) {kind : Token.Kind}
    {kinds : List Token.Kind} {argument : Expr} (h : Derives vocabulary .operand kinds argument) :
    Takes .named (Grammar.application (σ := σ) vocabulary (depth + 1) name) (kind :: kinds)
      (.apply name argument) := by
  intro state rest hup hstops
  rw [Grammar.application]
  change Reaches (advance >>= _)
    { state with events := .entered (.application name) :: state.events } _
  refine Reaches.afterAdvance hup fun _ passed _ hpassed _ ↦ ?_
  refine Reaches.afterPeek hpassed fun ahead peeked hahead hpeeked _ ↦ ?_
  obtain ⟨first, tail, rfl, -⟩ := h.exists_cons
  change ahead.kind = first at hahead
  rw [hahead]
  split
  · -- an operand that begins with a bracket is a group
    refine (ih.group (h.group_of_bracket rfl)).bind hpeeked rfl fun after hafter ↦ ?_
    exact ⟨rfl, hafter.behind [] kind h.ne_nil⟩
  · refine (ih.operand h).bind hpeeked rfl fun after hafter ↦ ?_
    exact ⟨rfl, hafter.behind [] kind h.ne_nil⟩

theorem group_succ (ih : Complete vocabulary σ depth) {kinds : List Token.Kind} {value : Expr}
    (h : Derives vocabulary .group kinds value) :
    Takes .group (Grammar.group (σ := σ) vocabulary (depth + 1)) kinds value := by
  intro state rest hup hstops
  rw [Grammar.group]
  change Reaches (advance >>= _) { state with events := .entered .group :: state.events } _
  cases h with
  | @group mark partner inner content hpartner h =>
    rw [List.append_assoc] at hup
    refine Reaches.afterAdvance hup fun found opened hfound hopened _ ↦ ?_
    have hopens : (Bracket.opening mark).opens = true := rfl
    simp only [hfound, hopens, if_true, hpartner]
    have hstops : Category.goesOn .sum (.bracket (.closing partner)) = false := by
      simp [Category.goesOn, Token.Kind.beginsFactor, Bracket.opening, Bracket.closing]
    refine (ih.expr h).bind hopened hstops fun read hread ↦ ?_
    refine Reaches.afterAdvance hread.1 fun last closed hlast hclosed hbracket ↦ ?_
    rw [if_pos hlast]
    refine ⟨rfl, hclosed, ?_⟩
    rw [hbracket, endsClosed_append _ (List.cons_ne_nil _ _)]
    rfl

theorem succ (ih : Complete vocabulary σ depth) : Complete vocabulary σ (depth + 1) where
  expr := ih.expr_succ
  sum := ih.sum_succ
  product := ih.product_succ
  quotient := ih.quotient_succ
  quotientFrom := ih.quotientFrom_succ
  remainder := ih.remainder_succ
  power := ih.power_succ
  subscript := ih.subscript_succ
  operand := ih.operand_succ
  signed := ih.signed_succ
  named := ih.named_succ
  fraction := ih.fraction_succ
  simpleRoot := ih.simpleRoot_succ
  indexedRoot := ih.indexedRoot_succ
  application := ih.application_succ
  group := ih.group_succ

end Complete

theorem complete (vocabulary : Vocabulary) (depth : Nat) : Complete vocabulary σ depth := by
  induction depth with
  | zero => exact .zero
  | succ depth ih => exact ih.succ

/-- Nothing is read from a source that has no token. -/
theorem reaches_expr_nil {state : State σ} (h : state.Upcoming []) :
    Reaches (expr vocabulary depth) state fun found after ↦ found = none ∧ after.Upcoming [] := by
  cases depth with
  | zero => exact reaches_giveUp
  | succ depth =>
    rw [expr]
    change Reaches (peek >>= _) { state with events := .entered .expr :: state.events } _
    refine Reaches.afterPeek h fun ahead peeked hahead hpeeked _ ↦ ?_
    rw [hahead]
    exact ⟨rfl, hpeeked⟩

/-- An equation takes all tokens of a formula. -/
theorem reaches_equation {state : State σ} {kinds : List Token.Kind} {value? : Option Expr}
    (h : IsFormula vocabulary kinds value?) (hup : state.Upcoming kinds) :
    Reaches (equation vocabulary depth) state fun found? after ↦
      found? = value? ∧ after.Upcoming [] := by
  have htakes := complete (σ := σ) vocabulary depth
  rw [equation]
  cases h with
  | nothing =>
    refine (reaches_expr_nil hup).bind fun found? after hnil ↦ ?_
    obtain ⟨hfound, hafter⟩ := hnil
    rw [hfound]
    exact ⟨rfl, hafter⟩
  | sum h =>
    rw [← List.append_nil kinds] at hup
    refine (htakes.expr h).bind hup rfl fun read hread ↦ ?_
    refine Reaches.afterPeek hread.1 fun ahead after hahead hafter _ ↦ ?_
    rw [hahead]
    exact ⟨rfl, hafter⟩
  | @equation left right lhs rhs hlhs hrhs =>
    refine (htakes.expr hlhs).bind hup rfl fun read hread ↦ ?_
    refine Reaches.afterPeek hread.1 fun ahead peeked hahead hpeeked _ ↦ ?_
    rw [hahead]
    refine Reaches.afterAdvance hpeeked fun _ passed _ hpassed _ ↦ ?_
    rw [← List.append_nil right] at hpassed
    refine (htakes.expr hrhs).bind hpassed rfl fun after hafter ↦ ?_
    exact ⟨rfl, hafter.1⟩

/-- A formula is read up to the end of the input. -/
theorem reaches_formula {state : State σ} {kinds : List Token.Kind} {value? : Option Expr}
    (h : IsFormula vocabulary kinds value?) (hup : state.Upcoming kinds) :
    Reaches (formula vocabulary depth) state fun found? _ ↦ found? = value? := by
  rw [formula]
  refine (reaches_equation h hup).bind fun found? read hequation ↦ ?_
  obtain ⟨hfound, hread⟩ := hequation
  rw [reaches_bind, advance]
  refine (reaches_peek hread).bind fun token peeked hpeek ↦ ?_
  have hkind := hpeek.1
  rw [reaches_bind]
  change token.kind = .endOfInput at hkind
  change Reaches (if token.kind = .endOfInput then _ else _) _ _
  rw [if_pos hkind]
  exact hfound

end FormulaText.Grammar
