import FormulaText.Proofs.Grammar.Soundness

/-!
# What is left ahead of a phrase

Each tier of operators takes all that it can. It ends with a look ahead, and the token that it
leaves there would not make its phrase longer. Therefore two alternatives of the rules are never
taken: there is no division sign behind a quotient, and no bracket behind a group with nothing in
it, whose opening bracket comes right before the end of the input.
-/

namespace FormulaText.Grammar

open Reader

variable {σ : Type} [TokenSource σ] {vocabulary : Vocabulary} {depth : Nat}

namespace Reader

variable {α β : Type}

omit [TokenSource σ] in
/-- Two readers in a row can be exchanged for others that do the same after what the first one
accepts. -/
theorem bind_congr_of_accepts {reader : Reader σ α} {next other : α → Reader σ β} {state : State σ}
    (h : ∀ value after, Accepts reader state value after → next value after = other value after) :
    (reader >>= next) state = (reader >>= other) state := by
  rw [bind_apply, bind_apply]
  cases hreader : reader state with
  | accepted value after => exact h value after hreader
  | rejected error after => rfl
  | tooDeep after => rfl

/-- Whenever a reader accepts, a token is ahead, and its kind is as stated. -/
def LeavesAhead (reader : Reader σ α) (stated : α → Token.Kind → Prop) : Prop :=
  ∀ ⦃state after : State σ⦄ ⦃value : α⦄, Accepts reader state value after →
    ∃ token, after.ahead = some token ∧ stated value token.kind

abbrev LooksAhead (reader : Reader σ α) : Prop := LeavesAhead reader fun _ _ ↦ True

section LooksAhead

variable {reader : Reader σ α}

omit [TokenSource σ]

theorem looksAhead_giveUp : LooksAhead (giveUp : Reader σ α) :=
  fun _ _ _ h ↦ absurd h not_accepts_giveUp

theorem LooksAhead.after {next : α → Reader σ β} (h : ∀ value, LooksAhead (next value)) :
    LooksAhead (reader >>= next) := by
  intro state after value haccepts
  obtain ⟨first, mid, -, hnext⟩ := accepts_bind.1 haccepts
  exact h first hnext

/-- What follows a look ahead and changes no state leaves the token ahead. -/
theorem LooksAhead.before (h : LooksAhead reader) {next : α → Reader σ β}
    (hnext : ∀ first mid value after, Accepts (next first) mid value after → after = mid) :
    LooksAhead (reader >>= next) := by
  intro state after value haccepts
  obtain ⟨first, mid, hfirst, hlast⟩ := accepts_bind.1 haccepts
  rw [hnext first mid value after hlast]
  exact h hfirst

theorem LooksAhead.before_pure (h : LooksAhead reader) (f : α → β) :
    LooksAhead (do let value ← reader; return f value) :=
  h.before fun _ _ _ _ hpure ↦ (accepts_pure.1 hpure).2.symm

end LooksAhead

/-- A look ahead, after which a value is returned at once or another look ahead follows. -/
theorem looksAhead_peek {next : Token → Reader σ α}
    (h : ∀ token, LooksAhead (next token) ∨ ∃ value, next token = Pure.pure value) :
    LooksAhead (peek >>= next) := by
  intro state after value haccepts
  obtain ⟨token, peeked, hpeek, hnext⟩ := accepts_bind.1 haccepts
  rcases h token with hlooks | ⟨found, hpure⟩
  · exact hlooks hnext
  · rw [hpure] at hnext
    obtain ⟨-, rfl⟩ := accepts_pure.1 hnext
    exact ⟨token, (accepts_peek hpeek).2.1, trivial⟩

theorem next_of_ahead {state : State σ} {token : Token} (h : state.ahead = some token) :
    state.Next token.kind :=
  ⟨token, by simp [State.upNext, h], rfl⟩

/-- The token that a reader of phrases leaves ahead would not make its phrase longer. -/
theorem LooksAhead.leavesAhead {category : Category} {reader : Reader σ Expr}
    (h : LooksAhead reader) (hreader : Recognizes vocabulary category reader) :
    LeavesAhead reader fun _ kind ↦ category.goesOn kind = false := by
  intro state after value haccepts
  obtain ⟨token, hahead, -⟩ := h haccepts
  obtain ⟨-, -, -, hstops⟩ := hreader haccepts
  exact ⟨token, hahead, hstops token.kind (next_of_ahead hahead)⟩

omit [TokenSource σ] in
theorem LeavesAhead.mono {reader : Reader σ α} {strong weak : α → Token.Kind → Prop}
    (h : LeavesAhead reader strong) (hweak : ∀ value kind, strong value kind → weak value kind) :
    LeavesAhead reader weak := by
  intro state after value haccepts
  obtain ⟨token, hahead, hkind⟩ := h haccepts
  exact ⟨token, hahead, hweak value token.kind hkind⟩

end Reader

/-! ## The tiers -/

section Tiers

variable (vocabulary : Vocabulary) (depth : Nat)

theorem looksAhead_subscript : LooksAhead (subscript (σ := σ) vocabulary depth) := by
  induction depth with
  | zero => exact looksAhead_giveUp
  | succ depth ih =>
    rw [subscript]
    refine .after fun _ ↦ .after fun base ↦ looksAhead_peek fun ahead ↦ ?_
    split
    · exact .inl (.after fun _ ↦ ih.before_pure _)
    · exact .inr ⟨_, rfl⟩

theorem looksAhead_power : LooksAhead (power (σ := σ) vocabulary depth) := by
  induction depth with
  | zero => exact looksAhead_giveUp
  | succ depth ih =>
    rw [power]
    refine .after fun _ ↦ .after fun lhs ↦ looksAhead_peek fun ahead ↦ ?_
    split
    · exact .inl (.after fun _ ↦ ih.before_pure _)
    · exact .inr ⟨_, rfl⟩

theorem looksAhead_remainder : LooksAhead (remainder (σ := σ) vocabulary depth) := by
  induction depth with
  | zero => exact looksAhead_giveUp
  | succ depth ih =>
    rw [remainder]
    refine .after fun _ ↦ .after fun lhs ↦ looksAhead_peek fun ahead ↦ ?_
    split
    · exact .inl (.after fun _ ↦ ih.before_pure _)
    · exact .inr ⟨_, rfl⟩

theorem looksAhead_quotientFrom (lhs : Expr) :
    LooksAhead (quotientFrom (σ := σ) vocabulary depth lhs) := by
  induction depth generalizing lhs with
  | zero => exact looksAhead_giveUp
  | succ depth ih =>
    rw [quotientFrom]
    refine looksAhead_peek fun ahead ↦ ?_
    split
    · exact .inl (.after fun _ ↦ .after fun _ ↦ ih _)
    · exact .inr ⟨_, rfl⟩

theorem looksAhead_quotient : LooksAhead (quotient (σ := σ) vocabulary depth) := by
  cases depth with
  | zero => exact looksAhead_giveUp
  | succ depth =>
    rw [quotient]
    exact .after fun _ ↦ .after fun lhs ↦ looksAhead_quotientFrom vocabulary depth lhs

theorem looksAhead_product : LooksAhead (product (σ := σ) vocabulary depth) := by
  induction depth with
  | zero => exact looksAhead_giveUp
  | succ depth ih =>
    rw [product]
    refine .after fun _ ↦ .after fun lhs ↦ looksAhead_peek fun ahead ↦ ?_
    split
    · exact .inl (.after fun _ ↦ ih.before_pure _)
    · exact .inl (.after fun _ ↦ ih.before_pure _)
    · split
      · exact .inl (ih.before_pure _)
      · exact .inr ⟨_, rfl⟩

theorem looksAhead_sum : LooksAhead (sum (σ := σ) vocabulary depth) := by
  induction depth with
  | zero => exact looksAhead_giveUp
  | succ depth ih =>
    rw [sum]
    refine .after fun _ ↦ .after fun lhs ↦ looksAhead_peek fun ahead ↦ ?_
    split
    · exact .inl (.after fun _ ↦ ih.before_pure _)
    · refine .inl (.after fun _ ↦ ih.before fun rhs mid value after h ↦ ?_)
      obtain ⟨grouped, kept, hgrouped, hpure⟩ := accepts_bind.1 h
      cases hgrouped
      exact (accepts_pure.1 hpure).2.symm
    · exact .inr ⟨_, rfl⟩

end Tiers

/-- Each tier takes all that it can: it leaves none of its operators ahead, none of those of the
tighter tiers, and from the products on no beginning of a factor. Behind a sum there is the end of
the input, an equals sign, or a bracket that is no opening parenthesis. -/
structure TakesAll (vocabulary : Vocabulary) (σ : Type) [TokenSource σ] (depth : Nat) : Prop where
  subscript : LeavesAhead (subscript (σ := σ) vocabulary depth) fun _ kind ↦ kind ≠ .underscore
  power : LeavesAhead (power (σ := σ) vocabulary depth) fun _ kind ↦
    kind ∉ [.underscore, .operator .exponent]
  remainder : LeavesAhead (remainder (σ := σ) vocabulary depth) fun _ kind ↦
    kind ∉ [.underscore, .operator .exponent, .operator .modulus]
  quotient : LeavesAhead (quotient (σ := σ) vocabulary depth) fun _ kind ↦
    kind ∉ [.underscore, .operator .exponent, .operator .modulus, .operator .divide]
  product : LeavesAhead (product (σ := σ) vocabulary depth) fun _ kind ↦
    kind ∉ [.underscore, .operator .exponent, .operator .modulus, .operator .divide,
      .operator .multiply] ∧ kind.beginsFactor = false
  sum : LeavesAhead (sum (σ := σ) vocabulary depth) fun _ kind ↦
    kind ∉ [.underscore, .operator .exponent, .operator .modulus, .operator .divide,
      .operator .multiply, .operator .plus, .operator .minus] ∧ kind.beginsFactor = false
  expr : LeavesAhead (expr (σ := σ) vocabulary depth) fun value? kind ↦
    match value? with
    | some _ => kind = .endOfInput ∨ kind = .equal ∨
        ∃ bracket, kind = .bracket bracket ∧ bracket ≠ .opening '('
    | none => kind = .endOfInput

/-- What would not make a sum longer ends a formula, a side of an equation, or a group. -/
theorem Category.eq_of_goesOn_sum {kind : Token.Kind} (h : Category.goesOn .sum kind = false) :
    kind = .endOfInput ∨ kind = .equal ∨
      ∃ bracket, kind = .bracket bracket ∧ bracket ≠ .opening '(' := by
  cases kind with
  | operator op => cases op <;> simp [goesOn] at h
  | bracket bracket =>
    have hbracket : bracket ≠ .opening '(' := by simpa [goesOn, Token.Kind.beginsFactor] using h
    exact .inr (.inr ⟨bracket, rfl, hbracket⟩)
  | _ => simp_all [goesOn, Token.Kind.beginsFactor]

theorem leavesAhead_expr (vocabulary : Vocabulary) (depth : Nat) :
    LeavesAhead (expr (σ := σ) vocabulary depth) fun value? kind ↦
      match value? with
      | some _ => Category.goesOn .sum kind = false
      | none => kind = .endOfInput := by
  cases depth with
  | zero => exact fun _ _ _ h ↦ absurd h not_accepts_giveUp
  | succ depth =>
    intro state after value? h
    rw [expr, accepts_enter] at h
    obtain ⟨ahead, peeked, hpeek, h⟩ := accepts_bind.1 h
    split at h
    · next hend =>
      obtain ⟨rfl, rfl⟩ := accepts_pure.1 h
      exact ⟨ahead, (accepts_peek hpeek).2.1, hend⟩
    iterate 2
      obtain ⟨_, _, _, h⟩ := accepts_bind.1 h
      exact absurd h not_accepts_reject
    · obtain ⟨value, hsum, rfl⟩ := accepts_map.1 h
      exact (looksAhead_sum vocabulary depth).leavesAhead (sound vocabulary depth).sum hsum

theorem takesAll (vocabulary : Vocabulary) (depth : Nat) : TakesAll vocabulary σ depth where
  subscript := ((looksAhead_subscript vocabulary depth).leavesAhead
    (sound vocabulary depth).subscript).mono fun _ kind h ↦ by simpa [Category.goesOn] using h
  power := ((looksAhead_power vocabulary depth).leavesAhead
    (sound vocabulary depth).power).mono fun _ kind h ↦ by simp_all [Category.goesOn]
  remainder := ((looksAhead_remainder vocabulary depth).leavesAhead
    (sound vocabulary depth).remainder).mono fun _ kind h ↦ by simp_all [Category.goesOn]
  quotient := ((looksAhead_quotient vocabulary depth).leavesAhead
    (sound vocabulary depth).quotient).mono fun _ kind h ↦ by simp_all [Category.goesOn]
  product := ((looksAhead_product vocabulary depth).leavesAhead
    (sound vocabulary depth).product).mono fun _ kind h ↦ by simp_all [Category.goesOn]
  sum := ((looksAhead_sum vocabulary depth).leavesAhead
    (sound vocabulary depth).sum).mono fun _ kind h ↦ by simp_all [Category.goesOn]
  expr := (leavesAhead_expr vocabulary depth).mono fun value? kind h ↦ by
    cases value? with
    | none => exact h
    | some value => exact Category.eq_of_goesOn_sum h

/-! ## What is never taken -/

section Alternatives

variable (vocabulary : Vocabulary) (depth : Nat)

/-- The rule of products, with any other alternative for a division sign ahead. -/
def productWith (atDivision : Expr → Reader σ Expr) : Reader σ Expr := do
  enter .product
  let lhs ← quotient vocabulary depth
  let ahead ← peek
  match ahead.kind with
  | .operator .multiply =>
    let _ ← advance
    let rhs ← product vocabulary depth
    return .binary .multiply lhs rhs false
  | .operator .divide => atDivision lhs
  | kind =>
    if kind.beginsFactor then
      let rhs ← product vocabulary depth
      return .binary .multiply lhs rhs false
    else return lhs

/-- The rule of groups, with any other alternative for a closing bracket behind nothing. -/
def groupWith (atNothing : Reader σ Expr) : Reader σ Expr := do
  enter .group
  let found ← advance
  let partner? := match found.kind with
    | .bracket bracket => if bracket.opens then bracket.partner? else none
    | _ => none
  match partner? with
  | none => reject (.missingGroup found.kind)
  | some partner =>
    let content? ← expr vocabulary depth
    let found ← advance
    if found.kind = .bracket (.closing partner) then
      match content? with
      | some content => return content
      | none => atNothing
    else reject (.openGroup partner found.kind)

/-- A product never sees a division sign, whatever it would do with it. -/
theorem product_eq_productWith (atDivision : Expr → Reader σ Expr) :
    product vocabulary (depth + 1) = productWith vocabulary depth atDivision := by
  funext state
  rw [product, productWith]
  refine bind_congr_of_accepts fun _ entered _ ↦ bind_congr_of_accepts fun lhs read hlhs ↦
    bind_congr_of_accepts fun ahead peeked hpeek ↦ ?_
  obtain ⟨left, -, -, hstops⟩ := (sound vocabulary depth).quotient hlhs
  obtain ⟨hpath, hnext⟩ := path_of_peek hpeek
  have hdivide := (Category.goesOn_quotient.1 (hstops _ ((State.next_of_path_nil hpath).1 hnext))).1
  generalize ahead.kind = kind at hdivide ⊢
  cases kind with
  | operator op =>
    cases op with
    | divide => exact absurd rfl hdivide
    | _ => rfl
  | _ => rfl

/-- A group never finds its closing bracket behind nothing, whatever it would do then. -/
theorem group_eq_groupWith (atNothing : Reader σ Expr) :
    group vocabulary (depth + 1) = groupWith vocabulary depth atNothing := by
  funext state
  rw [group, groupWith]
  refine bind_congr_of_accepts fun _ entered _ ↦ bind_congr_of_accepts fun found opened _ ↦ ?_
  refine congrFun (?_ : (_ : Reader σ Expr) = _) opened
  generalize found.kind = kind
  cases kind with
  | bracket bracket =>
    dsimp only
    generalize (if bracket.opens then bracket.partner? else none) = partner?
    cases partner? with
    | none => rfl
    | some partner =>
      funext state
      refine bind_congr_of_accepts fun content? read hread ↦
        bind_congr_of_accepts fun last closed hlast ↦ ?_
      refine congrFun (?_ : (_ : Reader σ Expr) = _) closed
      split
      · next hclose =>
        cases content? with
        | some content => rfl
        | none =>
          have hend := ((sound vocabulary depth).expr hread).2
          have hkind := hend.unique (next_of_advance hlast)
          rw [hclose] at hkind
          contradiction
      · rfl
  | _ => rfl

end Alternatives

end FormulaText.Grammar
