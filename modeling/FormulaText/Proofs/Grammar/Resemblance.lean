import FormulaText.Proofs.Grammar.Completeness
import FormulaText.Proofs.Grammar.Underway
import Mathlib.Data.Option.Defs

/-!
# Readings that differ in calls

Two sources give the same tokens at the same places, except that one of them calls some names that
are symbols for the other. If no such name is a function, a fraction or a root, both sources are
read as the same formula. They are also refused with the same error, because a symbol or a call
begins a factor, and a rule that refuses a token never comes to one that does.
-/

namespace FormulaText

/-- Whether a token is a name with a rule of its own in the grammar. -/
def Token.Kind.isNamed : Token.Kind → Bool
  | .control _ | .call _ => true
  | _ => false

/-- A token and its counterpart: the same one and no name, or a symbol and a call of it. -/
inductive Token.Kind.Resembles (vocabulary : Vocabulary) : Token.Kind → Token.Kind → Prop
  | same {kind} (hnamed : kind.isNamed = false) : Resembles vocabulary kind kind
  | called {name} (hrole : Grammar.roleOf vocabulary name = .plain) :
    Resembles vocabulary (.symbol name) (.call name)

structure Token.Resembles (vocabulary : Vocabulary) (token twin : Token) : Prop where
  kind : token.kind.Resembles vocabulary twin.kind
  line : twin.line = token.line
  endColumn : twin.endColumn = token.endColumn

namespace Token.Resembles

variable {vocabulary : Vocabulary} {token other : Token}

theorem cases (h : token.Resembles vocabulary other) :
    other.kind = token.kind ∧ token.kind.isNamed = false ∨
      ∃ name, token.kind = .symbol name ∧ other.kind = .call name ∧
        Grammar.roleOf vocabulary name = .plain := by
  have hkind := h.kind
  generalize token.kind = kind at hkind
  generalize other.kind = kind' at hkind
  cases hkind with
  | same hnamed => exact .inl ⟨rfl, hnamed⟩
  | called hrole => exact .inr ⟨_, rfl, rfl, hrole⟩

/-- A token that begins no factor is no symbol. -/
theorem kind_eq (h : token.Resembles vocabulary other) (hfactor : token.kind.beginsFactor = false) :
    other.kind = token.kind := by
  obtain ⟨hkind, -⟩ | ⟨name, hsymbol, -, -⟩ := h.cases
  · exact hkind
  · rw [hsymbol] at hfactor
    contradiction

theorem kind_eq_of_bracket (h : token.Resembles vocabulary other) {bracket : Bracket}
    (hbracket : token.kind = .bracket bracket) : other.kind = token.kind := by
  obtain ⟨hkind, -⟩ | ⟨name, hsymbol, -, -⟩ := h.cases
  · exact hkind
  · rw [hbracket] at hsymbol
    contradiction

theorem isClosingBracket_eq (h : token.Resembles vocabulary other) :
    other.kind.isClosingBracket = token.kind.isClosingBracket := by
  obtain ⟨hkind, -⟩ | ⟨name, hsymbol, hcall, -⟩ := h.cases
  · rw [hkind]
  · rw [hsymbol, hcall]
    rfl

end Token.Resembles

namespace Grammar

open Reader

variable {σ τ α β α' β' : Type} {vocabulary : Vocabulary} {R : σ → τ → Prop}

/-- Answers of two sources: tokens that resemble each other, where what comes after them is in the
relation `R`, or the same error. -/
inductive AnswersAlike (vocabulary : Vocabulary) (R : σ → τ → Prop) :
    Except SyntaxError Token × σ → Except SyntaxError Token × τ → Prop
  | token {token other rest others} (htoken : token.Resembles vocabulary other)
    (hrest : R rest others) : AnswersAlike vocabulary R (.ok token, rest) (.ok other, others)
  | error (error rest others) : AnswersAlike vocabulary R (.error error, rest) (.error error, others)

/-- Sources in the relation `R` answer alike, and stay in the relation as long as there are
tokens. -/
structure AreAlike [TokenSource σ] [TokenSource τ] (vocabulary : Vocabulary) (R : σ → τ → Prop) :
    Prop where
  text {source twin} (h : R source twin) : TokenSource.text twin = TokenSource.text source
  next {source twin} (h : R source twin) :
    AnswersAlike vocabulary R (TokenSource.next source) (TokenSource.next twin)

/-- Two readings have come to the same point, where the events on the way do not count. -/
structure State.Resembles (vocabulary : Vocabulary) (R : σ → τ → Prop) (state : State σ)
    (twin : State τ) : Prop where
  source : R state.source twin.source
  ahead : Option.Rel (Token.Resembles vocabulary) state.ahead twin.ahead
  last : Option.Rel (Token.Resembles vocabulary) state.last twin.last

/-- What comes of two readings: values and states in the relation `post`, or the same error.
Nothing is said where one of them gives up. -/
def Outcome.Agrees (post : α → State σ → β → State τ → Prop) :
    Outcome σ α → Outcome τ β → Prop
  | .accepted value state, .accepted other twin => post value state other twin
  | .rejected error _, .rejected fault _ => fault = error
  | .tooDeep _, _ => True
  | _, .tooDeep _ => True
  | _, _ => False

def Same (vocabulary : Vocabulary) (R : σ → τ → Prop) (value : α) (state : State σ) (other : α)
    (twin : State τ) : Prop :=
  value = other ∧ state.Resembles vocabulary R twin

/-- Besides, the token ahead begins no factor. -/
def Settled (vocabulary : Vocabulary) (R : σ → τ → Prop) (value : α) (state : State σ) (other : α)
    (twin : State τ) : Prop :=
  Same vocabulary R value state other twin ∧
    ∃ token, state.ahead = some token ∧ token.kind.beginsFactor = false

def AgreeAt (state : State σ) (twin : State τ) (post : α → State σ → β → State τ → Prop)
    (reader : Reader σ α) (twinReader : Reader τ β) : Prop :=
  (reader state).Agrees post (twinReader twin)

section Readers

variable {reader : Reader σ α} {twinReader : Reader τ β} {next : α → Reader σ α'}
  {twinNext : β → Reader τ β'} {state : State σ} {twin : State τ}
  {mid : α → State σ → β → State τ → Prop} {post : α' → State σ → β' → State τ → Prop}

theorem Outcome.agrees_tooDeep (post : α → State σ → β → State τ → Prop)
    (outcome : Outcome σ α) (twin : State τ) : outcome.Agrees post (.tooDeep twin) := by
  cases outcome <;> trivial

/-- Two readers in a row, where the second ones are looked at after what the first ones accept. -/
theorem agrees_bind (h : AgreeAt state twin mid reader twinReader)
    (hnext : ∀ value after other twinAfter, mid value after other twinAfter →
      AgreeAt after twinAfter post (next value) (twinNext other)) :
    AgreeAt state twin post (reader >>= next) (twinReader >>= twinNext) := by
  unfold AgreeAt at h ⊢
  rw [bind_apply, bind_apply]
  cases hreader : reader state with
  | tooDeep after => trivial
  | accepted value after =>
    cases htwin : twinReader twin with
    | tooDeep twinAfter => exact Outcome.agrees_tooDeep _ _ _
    | accepted other twinAfter =>
      rw [hreader, htwin] at h
      exact hnext _ _ _ _ h
    | rejected fault twinAfter =>
      rw [hreader, htwin] at h
      exact h.elim
  | rejected error after =>
    cases htwin : twinReader twin with
    | tooDeep twinAfter => exact Outcome.agrees_tooDeep _ _ _
    | accepted other twinAfter =>
      rw [hreader, htwin] at h
      exact h.elim
    | rejected fault twinAfter =>
      rw [hreader, htwin] at h
      exact h

theorem agrees_enter {next : Unit → Reader σ α'} {twinNext : Unit → Reader τ β'} (rule : Rule)
    (h : state.Resembles vocabulary R twin)
    (hnext : ∀ after twinAfter, after.Resembles vocabulary R twinAfter →
      after.ahead = state.ahead → AgreeAt after twinAfter post (next ()) (twinNext ())) :
    AgreeAt state twin post (enter rule >>= next) (enter rule >>= twinNext) :=
  hnext _ _ ⟨h.source, h.ahead, h.last⟩ rfl

theorem agrees_enter_twin {twinNext : Unit → Reader τ β} (rule : Rule)
    (h : state.Resembles vocabulary R twin)
    (hnext : ∀ twinAfter, state.Resembles vocabulary R twinAfter →
      AgreeAt state twinAfter mid reader (twinNext ())) :
    AgreeAt state twin mid reader (enter rule >>= twinNext) :=
  hnext _ ⟨h.source, h.ahead, h.last⟩

theorem agrees_staysGrouped (operand : Expr) (h : state.Resembles vocabulary R twin) :
    AgreeAt state twin
      (fun grouped after other twinAfter ↦ grouped = other ∧ state = after ∧ twin = twinAfter)
      (staysGrouped operand) (staysGrouped operand) := by
  refine ⟨?_, rfl, rfl⟩
  have hlast := h.last
  generalize state.last = last at hlast
  generalize twin.last = last' at hlast
  cases hlast with
  | none => rfl
  | some htoken =>
    rw [Option.any_some, Option.any_some, htoken.isClosingBracket_eq]

variable [TokenSource σ] [TokenSource τ] (hR : AreAlike vocabulary R)

include hR

theorem agrees_reject (fault : Fault) (h : state.Resembles vocabulary R twin) :
    AgreeAt state twin post (reject fault) (reject fault) := by
  have hlast := h.last
  unfold AgreeAt reject
  generalize state.last = last at hlast
  generalize twin.last = last' at hlast
  cases hlast with
  | none => exact congrArg (SyntaxError.inText · 0 0 fault) (hR.text h.source)
  | some htoken =>
    change SyntaxError.inText _ _ _ _ = SyntaxError.inText _ _ _ _
    rw [hR.text h.source, htoken.line, htoken.endColumn]

/-- Two readings look at tokens that resemble each other. -/
theorem agrees_peek (h : state.Resembles vocabulary R twin) :
    AgreeAt state twin
      (fun token after other twinAfter ↦ token.Resembles vocabulary other ∧
        after.Resembles vocabulary R twinAfter ∧ after.ahead = some token ∧
        ∀ ahead, state.ahead = some ahead → token = ahead) peek peek := by
  unfold AgreeAt
  have hahead := h.ahead
  cases hstate : state.ahead with
  | some token =>
    rw [hstate] at hahead
    cases htwin : twin.ahead with
    | none =>
      rw [htwin] at hahead
      contradiction
    | some other =>
      rw [htwin] at hahead
      rw [peek_of_ahead hstate, peek_of_ahead htwin]
      cases hahead with
      | some htoken => exact ⟨htoken, h, hstate, fun ahead hsome ↦ Option.some.inj hsome⟩
  | none =>
    rw [hstate] at hahead
    have htwin : twin.ahead = none := by
      cases htwin : twin.ahead with
      | none => rfl
      | some other =>
        rw [htwin] at hahead
        contradiction
    have hnext := hR.next h.source
    rcases hsource : TokenSource.next state.source with ⟨answer, rest⟩
    rcases hother : TokenSource.next twin.source with ⟨answer', others⟩
    rw [hsource, hother] at hnext
    cases hnext with
    | error error =>
      rw [peek_of_failure hstate hsource, peek_of_failure htwin hother]
      rfl
    | token htoken hrest =>
      rw [peek_of_next hstate hsource, peek_of_next htwin hother]
      exact ⟨htoken, ⟨hrest, .some htoken, h.last⟩, rfl, nofun⟩

theorem agrees_advance (h : state.Resembles vocabulary R twin) :
    AgreeAt state twin
      (fun token after other twinAfter ↦ token.Resembles vocabulary other ∧
        after.Resembles vocabulary R twinAfter ∧ ∀ ahead, state.ahead = some ahead → token = ahead)
      advance advance := by
  refine agrees_bind (agrees_peek hR h) ?_
  rintro token peeked other twinPeeked ⟨htoken, hpeeked, -, hahead⟩
  exact ⟨htoken, ⟨hpeeked.source, .none, .some htoken⟩, hahead⟩

/-- Two readings look ahead and go on, where a call is taken as its symbol would be. -/
theorem agrees_peek_bind {next : Token → Reader σ α'} {twinNext : Token → Reader τ β'}
    (h : state.Resembles vocabulary R twin)
    (hcall : ∀ (other : Token) (name : String),
      twinNext { other with kind := .call name } = twinNext { other with kind := .symbol name })
    (hnext : ∀ token after other twinAfter, after.Resembles vocabulary R twinAfter →
      after.ahead = some token → other.kind = token.kind →
      AgreeAt after twinAfter post (next token) (twinNext other)) :
    AgreeAt state twin post (peek >>= next) (peek >>= twinNext) := by
  refine agrees_bind (agrees_peek hR h) ?_
  rintro token after other twinAfter ⟨htoken, hafter, hahead, -⟩
  obtain ⟨hkind, -⟩ | ⟨name, hsymbol, hother, -⟩ := htoken.cases
  · exact hnext token after other twinAfter hafter hahead hkind
  · have hsame : twinNext other = twinNext { other with kind := .symbol name } := by
      rw [← hcall, ← hother]
    rw [hsame]
    exact hnext token after _ twinAfter hafter hahead hsymbol.symm

/-- A token that begins no factor is refused with the same error. -/
theorem agrees_advance_reject (fault : Token.Kind → Fault) (h : state.Resembles vocabulary R twin)
    {token : Token} (hahead : state.ahead = some token) (hfactor : token.kind.beginsFactor = false) :
    AgreeAt state twin post (advance >>= fun found ↦ reject (fault found.kind))
      (advance >>= fun found ↦ reject (fault found.kind)) := by
  refine agrees_bind (agrees_advance hR h) ?_
  rintro found after other twinAfter ⟨hfound, hafter, hfirst⟩
  obtain rfl := hfirst token hahead
  rw [hfound.kind_eq hfactor]
  exact agrees_reject hR _ hafter

end Readers

/-! ## The rules -/

section Rules

/-- A rule comes to the same on both sources, with `post` for the states afterwards. -/
def RuleAgrees (vocabulary : Vocabulary) (R : σ → τ → Prop)
    (post : α → State σ → α → State τ → Prop) (rule : Reader σ α) (twinRule : Reader τ α) : Prop :=
  ∀ state twin, state.Resembles vocabulary R twin → AgreeAt state twin post rule twinRule

namespace RuleAgrees

variable {rule : Reader σ α} {twinRule : Reader τ α}

/-- What is made of the value of a rule is the same as well. -/
theorem make_same (h : RuleAgrees vocabulary R (Same vocabulary R) rule twinRule) (make : α → α') :
    RuleAgrees vocabulary R (Same vocabulary R) (rule >>= fun value ↦ return make value)
      (twinRule >>= fun value ↦ return make value) := by
  intro state twin hstate
  refine agrees_bind (h state twin hstate) ?_
  rintro value after _ twinAfter ⟨rfl, hafter⟩
  exact ⟨rfl, hafter⟩

theorem make_settled (h : RuleAgrees vocabulary R (Settled vocabulary R) rule twinRule)
    (make : α → α') :
    RuleAgrees vocabulary R (Settled vocabulary R) (rule >>= fun value ↦ return make value)
      (twinRule >>= fun value ↦ return make value) := by
  intro state twin hstate
  refine agrees_bind (h state twin hstate) ?_
  rintro value after _ twinAfter ⟨⟨rfl, hafter⟩, hsettled⟩
  exact ⟨⟨rfl, hafter⟩, hsettled⟩

end RuleAgrees

/-- A reader that reads nothing gives its value on both sources. -/
theorem ruleAgrees_pure (value : α) :
    RuleAgrees vocabulary R (Same vocabulary R) (Pure.pure value : Reader σ α)
      (Pure.pure value : Reader τ α) :=
  fun _ _ hstate ↦ ⟨rfl, hstate⟩

variable [TokenSource σ] [TokenSource τ]

theorem RuleAgrees.behind_advance {rule : Reader σ α} {twinRule : Reader τ α}
    {post : α → State σ → α → State τ → Prop} (hR : AreAlike vocabulary R)
    (h : RuleAgrees vocabulary R post rule twinRule) :
    RuleAgrees vocabulary R post (advance >>= fun _ ↦ rule) (advance >>= fun _ ↦ twinRule) := by
  intro state twin hstate
  refine agrees_bind (agrees_advance hR hstate) ?_
  rintro _ after _ twinAfter ⟨-, hafter, -⟩
  exact h after twinAfter hafter

/-- The rules down to a depth come to the same on sources that are alike. A sum and all that ends
with one go on until no factor is ahead. -/
structure RulesAgree (vocabulary : Vocabulary) (R : σ → τ → Prop) (depth : Nat) : Prop where
  expr : RuleAgrees vocabulary R (Settled vocabulary R) (expr vocabulary depth)
    (expr vocabulary depth)
  sum : RuleAgrees vocabulary R (Settled vocabulary R) (sum vocabulary depth)
    (sum vocabulary depth)
  product : RuleAgrees vocabulary R (Settled vocabulary R) (product vocabulary depth)
    (product vocabulary depth)
  quotient : RuleAgrees vocabulary R (Same vocabulary R) (quotient vocabulary depth)
    (quotient vocabulary depth)
  quotientFrom (lhs : Expr) : RuleAgrees vocabulary R (Same vocabulary R)
    (quotientFrom vocabulary depth lhs) (quotientFrom vocabulary depth lhs)
  remainder : RuleAgrees vocabulary R (Same vocabulary R) (remainder vocabulary depth)
    (remainder vocabulary depth)
  power : RuleAgrees vocabulary R (Same vocabulary R) (power vocabulary depth)
    (power vocabulary depth)
  subscript : RuleAgrees vocabulary R (Same vocabulary R) (subscript vocabulary depth)
    (subscript vocabulary depth)
  operand : RuleAgrees vocabulary R (Same vocabulary R) (operand vocabulary depth)
    (operand vocabulary depth)
  signed {state : State σ} {twin : State τ} (h : state.Resembles vocabulary R twin)
    {token : Token} (hahead : state.ahead = some token) (hnamed : token.kind.beginsFactor = false) :
    AgreeAt state twin (Same vocabulary R) (signed vocabulary depth) (signed vocabulary depth)
  group {state : State σ} {twin : State τ} (h : state.Resembles vocabulary R twin) {token : Token}
    (hahead : state.ahead = some token) {bracket : Bracket} (hkind : token.kind = .bracket bracket) :
    AgreeAt state twin (Same vocabulary R) (group vocabulary depth) (group vocabulary depth)

namespace RulesAgree

variable {depth : Nat}

theorem zero : RulesAgree vocabulary R 0 where
  expr _ _ _ := trivial
  sum _ _ _ := trivial
  product _ _ _ := trivial
  quotient _ _ _ := trivial
  quotientFrom _ _ _ _ := trivial
  remainder _ _ _ := trivial
  power _ _ _ := trivial
  subscript _ _ _ := trivial
  operand _ _ _ := trivial
  signed _ _ _ _ := trivial
  group _ _ _ _ _ := trivial

variable (hR : AreAlike vocabulary R) (ih : RulesAgree vocabulary R depth)

include ih

theorem quotient_succ : RuleAgrees vocabulary R (Same vocabulary R)
    (Grammar.quotient vocabulary (depth + 1)) (Grammar.quotient vocabulary (depth + 1)) := by
  intro state twin h
  rw [Grammar.quotient, Grammar.quotient]
  refine agrees_enter .quotient h fun entered twinEntered hentered _ ↦
    agrees_bind (ih.remainder _ _ hentered) ?_
  rintro lhs read _ twinRead ⟨rfl, hread⟩
  exact ih.quotientFrom _ _ _ hread

include hR

theorem expr_succ : RuleAgrees vocabulary R (Settled vocabulary R)
    (Grammar.expr vocabulary (depth + 1)) (Grammar.expr vocabulary (depth + 1)) := by
  intro state twin h
  rw [Grammar.expr, Grammar.expr]
  refine agrees_enter .expr h fun entered twinEntered hentered _ ↦
    agrees_peek_bind hR hentered (fun _ _ ↦ rfl)
      fun token peeked other twinPeeked hpeeked hahead hkind ↦ ?_
  rw [hkind]
  split
  · next hend => exact ⟨⟨rfl, hpeeked⟩, token, hahead, by rw [hend]; rfl⟩
  iterate 2
    next hmark => exact agrees_advance_reject hR _ hpeeked hahead (by rw [hmark]; rfl)
  · exact ih.sum.make_settled some _ _ hpeeked

theorem sum_succ : RuleAgrees vocabulary R (Settled vocabulary R)
    (Grammar.sum vocabulary (depth + 1)) (Grammar.sum vocabulary (depth + 1)) := by
  intro state twin h
  rw [Grammar.sum, Grammar.sum]
  refine agrees_enter .sum h fun entered twinEntered hentered _ ↦
    agrees_bind (ih.product _ _ hentered) ?_
  rintro lhs read _ twinRead ⟨⟨rfl, hread⟩, settled, hsettled, hfactor⟩
  refine agrees_bind (agrees_peek hR hread) ?_
  rintro token peeked other twinPeeked ⟨htoken, hpeeked, hahead, hfirst⟩
  obtain rfl := hfirst settled hsettled
  rw [htoken.kind_eq hfactor]
  split
  · exact (ih.sum.make_settled _).behind_advance hR _ _ hpeeked
  · refine RuleAgrees.behind_advance hR (fun _ _ hafter ↦ agrees_bind (ih.sum _ _ hafter) ?_)
      _ _ hpeeked
    rintro rhs last _ twinLast ⟨⟨rfl, hlast⟩, hlastSettled⟩
    refine agrees_bind (agrees_staysGrouped rhs hlast) ?_
    rintro grouped _ _ _ ⟨rfl, rfl, rfl⟩
    exact ⟨⟨rfl, hlast⟩, hlastSettled⟩
  · exact ⟨⟨rfl, hpeeked⟩, token, hahead, hfactor⟩

theorem product_succ : RuleAgrees vocabulary R (Settled vocabulary R)
    (Grammar.product vocabulary (depth + 1)) (Grammar.product vocabulary (depth + 1)) := by
  intro state twin h
  rw [Grammar.product, Grammar.product]
  refine agrees_enter .product h fun entered twinEntered hentered _ ↦
    agrees_bind (ih.quotient _ _ hentered) ?_
  rintro lhs read _ twinRead ⟨rfl, hread⟩
  have hproduct (op : Operator) := ih.product.make_settled (Expr.binary op lhs · false)
  refine agrees_peek_bind hR hread (fun _ _ ↦ rfl)
    fun token peeked other twinPeeked hpeeked hahead hkind ↦ ?_
  rw [hkind]
  split
  iterate 2 exact (hproduct _).behind_advance hR _ _ hpeeked
  · split
    · exact hproduct _ _ _ hpeeked
    · next hfactor => exact ⟨⟨rfl, hpeeked⟩, token, hahead, by simpa using hfactor⟩

theorem quotientFrom_succ (lhs : Expr) : RuleAgrees vocabulary R (Same vocabulary R)
    (Grammar.quotientFrom vocabulary (depth + 1) lhs)
    (Grammar.quotientFrom vocabulary (depth + 1) lhs) := by
  intro state twin h
  rw [Grammar.quotientFrom, Grammar.quotientFrom]
  refine agrees_peek_bind hR h (fun _ _ ↦ rfl)
    fun token peeked other twinPeeked hpeeked hahead hkind ↦ ?_
  rw [hkind]
  split
  · refine RuleAgrees.behind_advance hR (fun _ _ hafter ↦ agrees_bind (ih.remainder _ _ hafter) ?_)
      _ _ hpeeked
    rintro rhs last _ twinLast ⟨rfl, hlast⟩
    exact ih.quotientFrom _ _ _ hlast
  · exact ⟨rfl, hpeeked⟩

theorem remainder_succ : RuleAgrees vocabulary R (Same vocabulary R)
    (Grammar.remainder vocabulary (depth + 1)) (Grammar.remainder vocabulary (depth + 1)) := by
  intro state twin h
  rw [Grammar.remainder, Grammar.remainder]
  refine agrees_enter .remainder h fun entered twinEntered hentered _ ↦
    agrees_bind (ih.power _ _ hentered) ?_
  rintro lhs read _ twinRead ⟨rfl, hread⟩
  refine agrees_peek_bind hR hread (fun _ _ ↦ rfl)
    fun token peeked other twinPeeked hpeeked hahead hkind ↦ ?_
  rw [hkind]
  split
  · exact (ih.remainder.make_same _).behind_advance hR _ _ hpeeked
  · exact ⟨rfl, hpeeked⟩

theorem power_succ : RuleAgrees vocabulary R (Same vocabulary R)
    (Grammar.power vocabulary (depth + 1)) (Grammar.power vocabulary (depth + 1)) := by
  intro state twin h
  rw [Grammar.power, Grammar.power]
  refine agrees_enter .power h fun entered twinEntered hentered _ ↦
    agrees_bind (ih.subscript _ _ hentered) ?_
  rintro lhs read _ twinRead ⟨rfl, hread⟩
  refine agrees_peek_bind hR hread (fun _ _ ↦ rfl)
    fun token peeked other twinPeeked hpeeked hahead hkind ↦ ?_
  rw [hkind]
  split
  · exact (ih.power.make_same _).behind_advance hR _ _ hpeeked
  · exact ⟨rfl, hpeeked⟩

theorem subscript_succ : RuleAgrees vocabulary R (Same vocabulary R)
    (Grammar.subscript vocabulary (depth + 1)) (Grammar.subscript vocabulary (depth + 1)) := by
  intro state twin h
  rw [Grammar.subscript, Grammar.subscript]
  refine agrees_enter .subscript h fun entered twinEntered hentered _ ↦
    agrees_bind (ih.operand _ _ hentered) ?_
  rintro base read _ twinRead ⟨rfl, hread⟩
  refine agrees_peek_bind hR hread (fun _ _ ↦ rfl)
    fun token peeked other twinPeeked hpeeked hahead hkind ↦ ?_
  rw [hkind]
  split
  · exact (ih.subscript.make_same _).behind_advance hR _ _ hpeeked
  · exact ⟨rfl, hpeeked⟩

/-- A call takes one rule more than a symbol does. -/
theorem operand_succ : RuleAgrees vocabulary R (Same vocabulary R)
    (Grammar.operand vocabulary (depth + 1)) (Grammar.operand vocabulary (depth + 1)) := by
  intro state twin h
  rw [Grammar.operand, Grammar.operand]
  refine agrees_enter .operand h fun entered twinEntered hentered _ ↦
    agrees_bind (agrees_peek hR hentered) ?_
  rintro token peeked other twinPeeked ⟨htoken, hpeeked, hahead, -⟩
  obtain ⟨hkind, hnamed⟩ | ⟨name, hsymbol, hcall, hrole⟩ := htoken.cases
  · rw [hkind]
    split
    · exact (ruleAgrees_pure _).behind_advance hR _ _ hpeeked
    · next hop => exact ih.signed hpeeked hahead (by rw [hop]; rfl)
    · exact (ruleAgrees_pure _).behind_advance hR _ _ hpeeked
    iterate 2
      next hname =>
      rw [hname] at hnamed
      contradiction
    · next hbracket => exact ih.group hpeeked hahead hbracket
    iterate 3
      next hmark => exact agrees_advance_reject hR _ hpeeked hahead (by rw [hmark]; rfl)
  · rw [hsymbol, hcall]
    cases depth with
    | zero => exact Outcome.agrees_tooDeep _ _ _
    | succ depth =>
      dsimp only
      rw [named_eq_role, hrole]
      exact agrees_enter_twin _ hpeeked fun twinEntered hentered ↦
        (ruleAgrees_pure _).behind_advance hR _ _ hentered

theorem signed_succ {state : State σ} {twin : State τ} (h : state.Resembles vocabulary R twin)
    {token : Token} (hahead : state.ahead = some token)
    (hfactor : token.kind.beginsFactor = false) :
    AgreeAt state twin (Same vocabulary R) (Grammar.signed vocabulary (depth + 1))
      (Grammar.signed vocabulary (depth + 1)) := by
  rw [Grammar.signed, Grammar.signed]
  refine agrees_enter .signed h fun entered twinEntered hentered hsame ↦
    agrees_bind (agrees_advance hR hentered) ?_
  rintro found after other twinAfter ⟨hfound, hafter, hfirst⟩
  obtain rfl := hfirst token (hsame.trans hahead)
  rw [hfound.kind_eq hfactor]
  split
  · refine agrees_bind (ih.operand _ _ hafter) ?_
    rintro value last _ twinLast ⟨rfl, hlast⟩
    split <;> exact ⟨rfl, hlast⟩
  · refine agrees_bind (ih.operand _ _ hafter) ?_
    rintro value last _ twinLast ⟨rfl, hlast⟩
    split
    · exact ⟨rfl, hlast⟩
    · refine agrees_bind (agrees_staysGrouped _ hlast) ?_
      rintro grouped _ _ _ ⟨rfl, rfl, rfl⟩
      exact ⟨rfl, hlast⟩
  · exact agrees_reject hR _ hafter

theorem group_succ {state : State σ} {twin : State τ} (h : state.Resembles vocabulary R twin)
    {token : Token} (hahead : state.ahead = some token) {bracket : Bracket}
    (hkind : token.kind = .bracket bracket) :
    AgreeAt state twin (Same vocabulary R) (Grammar.group vocabulary (depth + 1))
      (Grammar.group vocabulary (depth + 1)) := by
  rw [Grammar.group, Grammar.group]
  refine agrees_enter .group h fun entered twinEntered hentered hsame ↦
    agrees_bind (agrees_advance hR hentered) ?_
  rintro found after other twinAfter ⟨hfound, hafter, hfirst⟩
  obtain rfl := hfirst token (hsame.trans hahead)
  rw [hfound.kind_eq_of_bracket hkind]
  dsimp only
  split
  · exact agrees_reject hR _ hafter
  · refine agrees_bind (ih.expr _ _ hafter) ?_
    rintro content? read _ twinRead ⟨⟨rfl, hread⟩, settled, hsettled, hnext⟩
    refine agrees_bind (agrees_advance hR hread) ?_
    rintro closing last other' twinLast ⟨hclosing, hlast, hfirst⟩
    obtain rfl := hfirst settled hsettled
    rw [hclosing.kind_eq hnext]
    split
    · cases content? with
      | some content => exact ⟨rfl, hlast⟩
      | none => exact agrees_reject hR _ hlast
    · exact agrees_reject hR _ hlast

theorem succ : RulesAgree vocabulary R (depth + 1) where
  expr := ih.expr_succ hR
  sum := ih.sum_succ hR
  product := ih.product_succ hR
  quotient := ih.quotient_succ
  quotientFrom := ih.quotientFrom_succ hR
  remainder := ih.remainder_succ hR
  power := ih.power_succ hR
  subscript := ih.subscript_succ hR
  operand := ih.operand_succ hR
  signed := ih.signed_succ hR
  group := ih.group_succ hR

end RulesAgree

theorem rulesAgree (hR : AreAlike vocabulary R) (depth : Nat) : RulesAgree vocabulary R depth := by
  induction depth with
  | zero => exact .zero
  | succ depth ih => exact ih.succ hR

/-- A formula is read alike from sources that are alike. -/
theorem agrees_formula (hR : AreAlike vocabulary R) (depth : Nat) :
    RuleAgrees vocabulary R (Same vocabulary R) (formula vocabulary depth)
      (formula vocabulary depth) := by
  have hexpr := (rulesAgree hR depth).expr
  have hequation : RuleAgrees vocabulary R (Settled vocabulary R) (equation vocabulary depth)
      (equation vocabulary depth) := by
    intro state twin h
    refine agrees_bind (hexpr state twin h) ?_
    rintro lhs? read _ twinRead ⟨⟨rfl, hread⟩, settled, hsettled, hfactor⟩
    split
    · exact ⟨⟨rfl, hread⟩, settled, hsettled, hfactor⟩
    · refine agrees_bind (agrees_peek hR hread) ?_
      rintro token peeked other twinPeeked ⟨htoken, hpeeked, hahead, hfirst⟩
      obtain rfl := hfirst settled hsettled
      rw [htoken.kind_eq hfactor]
      split
      · refine RuleAgrees.behind_advance hR (fun _ _ hafter ↦ agrees_bind (hexpr _ _ hafter) ?_)
          _ _ hpeeked
        rintro rhs? last _ twinLast ⟨⟨rfl, hlast⟩, hlastSettled⟩
        split
        · exact ⟨⟨rfl, hlast⟩, hlastSettled⟩
        · exact RuleAgrees.behind_advance hR (fun _ _ hend ↦ agrees_reject hR _ hend) _ _ hlast
      · exact ⟨⟨rfl, hpeeked⟩, token, hahead, hfactor⟩
  intro state twin h
  refine agrees_bind (hequation state twin h) ?_
  rintro expr? read _ twinRead ⟨⟨rfl, hread⟩, settled, hsettled, hfactor⟩
  refine agrees_bind (agrees_advance hR hread) ?_
  rintro found last other twinLast ⟨hfound, hlast, hfirst⟩
  obtain rfl := hfirst settled hsettled
  rw [hfound.kind_eq hfactor]
  split
  · exact ⟨rfl, hlast⟩
  · exact agrees_reject hR _ hlast

end Rules

theorem Outcome.Agrees.result_eq {outcome : Outcome σ (Option Expr)}
    {twin : Outcome τ (Option Expr)} (h : outcome.Agrees (Same vocabulary R) twin)
    (hdeep : ∀ state, outcome ≠ .tooDeep state) (hdeep' : ∀ state, twin ≠ .tooDeep state) :
    (twin.reading hdeep').result = (outcome.reading hdeep).result := by
  cases outcome with
  | tooDeep state => exact absurd rfl (hdeep state)
  | accepted value state =>
    cases twin with
    | tooDeep twinState => exact absurd rfl (hdeep' twinState)
    | accepted other twinState => exact congrArg Except.ok h.1.symm
    | rejected fault twinState => exact h.elim
  | rejected error state =>
    cases twin with
    | tooDeep twinState => exact absurd rfl (hdeep' twinState)
    | accepted other twinState => exact h.elim
    | rejected fault twinState => exact congrArg Except.error h

/-- Sources that are alike are read as the same, be it a formula or an error. -/
theorem parse_eq_of_areAlike [FiniteTokenSource σ] [FiniteTokenSource τ]
    (hR : AreAlike vocabulary R) {source : σ} {twin : τ} (h : R source twin)
    (hbound : FiniteTokenSource.bound twin = FiniteTokenSource.bound source) :
    parse vocabulary twin = parse vocabulary source := by
  have hdeep := formula_ne_tooDeep vocabulary (.start source) (Nat.le_refl (depthFor source))
  have hdeep' := formula_ne_tooDeep vocabulary (.start twin) (Nat.le_refl (depthFor twin))
  have hdepth : depthFor source = depthFor twin := by rw [depthFor, depthFor, hbound]
  have hagrees : (formula vocabulary (depthFor source) (.start source)).Agrees (Same vocabulary R)
      (formula vocabulary (depthFor twin) (.start twin)) :=
    hdepth ▸ agrees_formula hR (depthFor source) (.start source) (.start twin) ⟨h, .none, .none⟩
  exact hagrees.result_eq hdeep hdeep'

end Grammar

end FormulaText
