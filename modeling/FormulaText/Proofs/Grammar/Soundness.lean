import FormulaText.Proofs.Grammar.Upcoming

/-!
# What is read is a phrase

Each rule that accepts has consumed a phrase of its category, returns the tree that the phrase
stands for, and has stopped at a token that would not make the phrase longer. The rules are looked
at together, by induction on their depth.
-/

namespace FormulaText.Grammar

open Reader

variable {σ : Type} [TokenSource σ] {vocabulary : Vocabulary} {depth : Nat}

theorem nameToken_ne_endOfInput (isCall : Bool) (name : String) :
    nameToken isCall name ≠ .endOfInput := by
  cases isCall <;> simp [nameToken]

namespace State

def Next (state : State σ) (kind : Token.Kind) : Prop :=
  ∃ token, state.upNext.1 = .ok token ∧ token.kind = kind

/-- The next token would not make a phrase of a category longer. -/
def Stops (state : State σ) (category : Category) : Prop :=
  ∀ kind, state.Next kind → category.goesOn kind = false

theorem next_of_path_nil {start stop : State σ} {kind : Token.Kind} (h : start.Path [] stop) :
    stop.Next kind ↔ start.Next kind := by
  rw [Next, ← h.1]
  rfl

/-- What has happened so far does not matter for what is next. -/
theorem next_events {state : State σ} {events : List Event} {kind : Token.Kind} :
    Next { state with events := events } kind ↔ state.Next kind := Iff.rfl

theorem Next.unique {state : State σ} {kind other : Token.Kind} (h : state.Next kind)
    (hother : state.Next other) : other = kind := by
  obtain ⟨token, htoken, rfl⟩ := h
  obtain ⟨found, hfound, rfl⟩ := hother
  rw [htoken] at hfound
  cases hfound
  rfl

theorem stops_of_next {state : State σ} {category : Category} {kind : Token.Kind}
    (h : state.Next kind) (hstops : category.goesOn kind = false) : state.Stops category := by
  intro other hother
  rw [h.unique hother]
  exact hstops

end State

namespace Reader

theorem path_of_peek {state after : State σ} {token : Token} (h : Accepts peek state token after) :
    state.Path [] after ∧ after.Next token.kind := by
  obtain ⟨hnext, -, hpath⟩ := accepts_peek h
  exact ⟨hpath, (State.next_of_path_nil hpath).2 ⟨token, hnext, rfl⟩⟩

/-- A rule that begins by looking ahead. -/
theorem accepts_enter_peek {α : Type} {rule : Rule} {next : Token → Reader σ α}
    {state after : State σ} {value : α}
    (h : Accepts (do enter rule; let ahead ← peek; next ahead) state value after) :
    ∃ ahead peeked, state.Path [] peeked ∧ peeked.Next ahead.kind ∧
      Accepts (next ahead) peeked value after := by
  obtain ⟨ahead, peeked, hpeek, h⟩ := accepts_bind.1 (accepts_enter.1 h)
  obtain ⟨hpath, hnext⟩ := path_of_peek hpeek
  exact ⟨ahead, peeked, State.path_events.1 hpath, hnext, h⟩

theorem next_of_advance {state after : State σ} {token : Token}
    (h : Accepts advance state token after) : state.Next token.kind := by
  obtain ⟨found, peeked, hpeek, h⟩ := accepts_bind.1 h
  obtain ⟨_, kept, hmodify, h⟩ := accepts_bind.1 h
  cases hmodify
  obtain ⟨rfl, rfl⟩ := accepts_pure.1 h
  exact ⟨found, (accepts_peek hpeek).1, rfl⟩

/-- Consuming a token before the end of the input is a path. -/
theorem path_of_advance {state after : State σ} {token : Token} {kind : Token.Kind}
    (hnext : state.Next kind) (hkind : kind ≠ .endOfInput)
    (h : Accepts advance state token after) : state.Path [kind] after := by
  obtain ⟨found, peeked, hpeek, h⟩ := accepts_bind.1 h
  obtain ⟨_, kept, hmodify, h⟩ := accepts_bind.1 h
  cases hmodify
  obtain ⟨rfl, rfl⟩ := accepts_pure.1 h
  obtain ⟨hfound, hahead, hpath⟩ := accepts_peek hpeek
  obtain ⟨token, htoken, rfl⟩ := hnext
  rw [htoken] at hfound
  cases hfound
  refine ⟨found, _, ?_, rfl, hkind, rfl, rfl, State.path_refl _⟩
  rw [hpath.1]
  simp [State.upNext, hahead]

/-- A rule that begins by consuming a token. -/
theorem accepts_enter_advance {α : Type} {rule : Rule} {next : Token → Reader σ α}
    {state after : State σ} {value : α}
    (h : Accepts (do enter rule; let found ← advance; next found) state value after) :
    ∃ found passed, state.Next found.kind ∧
      (found.kind ≠ .endOfInput → state.Path [found.kind] passed) ∧
        Accepts (next found) passed value after := by
  obtain ⟨found, passed, hfound, h⟩ := accepts_bind.1 (accepts_enter.1 h)
  have hnext := next_of_advance hfound
  refine ⟨found, passed, State.next_events.1 hnext, fun hkind ↦ ?_, h⟩
  exact State.path_events.1 (path_of_advance hnext hkind hfound)

/-- A rule that begins by consuming the name it is for. -/
theorem accepts_enter_name {rule : Rule} {next : Reader σ Expr} {state after : State σ}
    {value : Expr} {isCall : Bool} {name : String} (hnext : state.Next (nameToken isCall name))
    (h : Accepts (do enter rule; let _ ← advance; next) state value after) :
    ∃ passed, state.Path [nameToken isCall name] passed ∧ Accepts next passed value after := by
  obtain ⟨found, passed, hfound, hpath, h⟩ := accepts_enter_advance h
  have hkind := hnext.unique hfound
  rw [hkind] at hpath
  exact ⟨passed, hpath (nameToken_ne_endOfInput isCall name), h⟩

end Reader

/-- All that a reader accepts is a phrase that could not be longer. -/
def Recognizes (vocabulary : Vocabulary) (category : Category) (reader : Reader σ Expr) : Prop :=
  ∀ ⦃state after : State σ⦄ ⦃value : Expr⦄, Accepts reader state value after →
    ∃ kinds, state.Path kinds after ∧ Derives vocabulary category kinds value ∧
      after.Stops category

def RecognizesNamed (vocabulary : Vocabulary) (name : String) (reader : Reader σ Expr) : Prop :=
  ∀ ⦃state after : State σ⦄ ⦃value : Expr⦄ ⦃isCall : Bool⦄,
    state.Next (nameToken isCall name) → Accepts reader state value after →
      ∃ kinds, state.Path kinds after ∧ Derives vocabulary .named kinds value

/-- A sum, or nothing before the end of the input. -/
def RecognizesExpr (vocabulary : Vocabulary) (reader : Reader σ (Option Expr)) : Prop :=
  ∀ ⦃state after : State σ⦄ ⦃value? : Option Expr⦄, Accepts reader state value? after →
    match value? with
    | some value =>
      ∃ kinds, state.Path kinds after ∧ Derives vocabulary .sum kinds value ∧ after.Stops .sum
    | none => state.Path [] after ∧ after.Next .endOfInput

structure Sound (vocabulary : Vocabulary) (σ : Type) [TokenSource σ] (depth : Nat) : Prop where
  expr : RecognizesExpr vocabulary (expr (σ := σ) vocabulary depth)
  sum : Recognizes vocabulary .sum (sum (σ := σ) vocabulary depth)
  product : Recognizes vocabulary .product (product (σ := σ) vocabulary depth)
  quotient : Recognizes vocabulary .quotient (quotient (σ := σ) vocabulary depth)
  quotientFrom {lhs value : Expr} {left : List Token.Kind} {state after : State σ}
    (hlhs : Derives vocabulary .quotient left lhs) (hstops : state.Stops .remainder)
    (h : Accepts (quotientFrom vocabulary depth lhs) state value after) :
    ∃ kinds, state.Path kinds after ∧ Derives vocabulary .quotient (left ++ kinds) value ∧
      after.Stops .quotient
  remainder : Recognizes vocabulary .remainder (remainder (σ := σ) vocabulary depth)
  power : Recognizes vocabulary .power (power (σ := σ) vocabulary depth)
  subscript : Recognizes vocabulary .subscript (subscript (σ := σ) vocabulary depth)
  operand : Recognizes vocabulary .operand (operand (σ := σ) vocabulary depth)
  signed : Recognizes vocabulary .operand (signed (σ := σ) vocabulary depth)
  named {name : String} {isCall : Bool} {state after : State σ} {value : Expr}
    (hnext : state.Next (nameToken isCall name))
    (h : Accepts (named vocabulary depth name isCall) state value after) :
    ∃ kinds, state.Path kinds after ∧ Derives vocabulary .named kinds value
  fraction {name : String} (hrole : roleOf vocabulary name = .fraction) :
    RecognizesNamed vocabulary name (fraction (σ := σ) vocabulary depth)
  root {name : String} (hrole : roleOf vocabulary name = .root) :
    RecognizesNamed vocabulary name (root (σ := σ) vocabulary depth)
  application {name : String} (hrole : roleOf vocabulary name = .function) :
    RecognizesNamed vocabulary name (application (σ := σ) vocabulary depth name)
  group : Recognizes vocabulary .group (group (σ := σ) vocabulary depth)

/-- A rule that begins with a phrase and then looks ahead. -/
theorem Recognizes.first {category : Category} {rule : Rule} {reader : Reader σ Expr}
    {next : Expr → Token → Reader σ Expr} {state after : State σ} {value : Expr}
    (hreader : Recognizes vocabulary category reader)
    (h : Accepts (do enter rule; let lhs ← reader; let ahead ← peek; next lhs ahead)
      state value after) :
    ∃ lhs left ahead peeked, state.Path left peeked ∧ Derives vocabulary category left lhs ∧
      peeked.Next ahead.kind ∧ category.goesOn ahead.kind = false ∧
        Accepts (next lhs ahead) peeked value after := by
  obtain ⟨lhs, read, hlhs, h⟩ := accepts_bind.1 (accepts_enter.1 h)
  obtain ⟨left, hleft, hderives, hstops⟩ := hreader hlhs
  obtain ⟨ahead, peeked, hpeek, h⟩ := accepts_bind.1 h
  obtain ⟨hpath, hnext⟩ := path_of_peek hpeek
  have hleft := (State.path_events.1 hleft).trans hpath
  rw [List.append_nil] at hleft
  have hgoesOn := hstops _ ((State.next_of_path_nil hpath).1 hnext)
  exact ⟨lhs, left, ahead, peeked, hleft, hderives, hnext, hgoesOn, h⟩

/-- A rule that goes on with a known token and a phrase. -/
theorem Recognizes.rest {category : Category} {kind : Token.Kind} {reader : Reader σ Expr}
    {next : Expr → Reader σ Expr} {state after : State σ} {value : Expr}
    (hreader : Recognizes vocabulary category reader) (hnext : state.Next kind)
    (hkind : kind ≠ .endOfInput)
    (h : Accepts (do let _ ← advance; let rhs ← reader; next rhs) state value after) :
    ∃ rhs right read, state.Path (kind :: right) read ∧ Derives vocabulary category right rhs ∧
      read.justClosed = endsClosed right ∧ read.Stops category ∧
        Accepts (next rhs) read value after := by
  obtain ⟨_, passed, hadvance, h⟩ := accepts_bind.1 h
  obtain ⟨rhs, read, hrhs, h⟩ := accepts_bind.1 h
  obtain ⟨right, hright, hderives, hstops⟩ := hreader hrhs
  have hpath := (path_of_advance hnext hkind hadvance).trans hright
  have hclosed := hright.justClosed_eq hderives.ne_nil
  exact ⟨rhs, right, read, hpath, hderives, hclosed, hstops, h⟩

namespace Sound

theorem zero : Sound vocabulary σ 0 where
  expr _ _ _ h := absurd h not_accepts_giveUp
  sum _ _ _ h := absurd h not_accepts_giveUp
  product _ _ _ h := absurd h not_accepts_giveUp
  quotient _ _ _ h := absurd h not_accepts_giveUp
  quotientFrom _ _ h := absurd h not_accepts_giveUp
  remainder _ _ _ h := absurd h not_accepts_giveUp
  power _ _ _ h := absurd h not_accepts_giveUp
  subscript _ _ _ h := absurd h not_accepts_giveUp
  operand _ _ _ h := absurd h not_accepts_giveUp
  signed _ _ _ h := absurd h not_accepts_giveUp
  named _ h := absurd h not_accepts_giveUp
  fraction _ _ _ _ _ _ h := absurd h not_accepts_giveUp
  root _ _ _ _ _ _ h := absurd h not_accepts_giveUp
  application _ _ _ _ _ _ h := absurd h not_accepts_giveUp
  group _ _ _ h := absurd h not_accepts_giveUp

theorem expr_succ (ih : Sound vocabulary σ depth) :
    RecognizesExpr vocabulary (Grammar.expr (σ := σ) vocabulary (depth + 1)) := by
  intro state after value? h
  rw [Grammar.expr] at h
  obtain ⟨ahead, peeked, hpath, hnext, h⟩ := accepts_enter_peek h
  split at h
  · next hkind =>
    obtain ⟨rfl, rfl⟩ := accepts_pure.1 h
    exact ⟨hpath, hkind ▸ hnext⟩
  iterate 2
    obtain ⟨_, _, _, h⟩ := accepts_bind.1 h
    exact absurd h not_accepts_reject
  · obtain ⟨value, hsum, rfl⟩ := accepts_map.1 h
    obtain ⟨kinds, hkinds, hderives⟩ := ih.sum hsum
    exact ⟨kinds, hpath.trans hkinds, hderives⟩

theorem sum_succ (ih : Sound vocabulary σ depth) :
    Recognizes vocabulary .sum (Grammar.sum (σ := σ) vocabulary (depth + 1)) := by
  intro state after value h
  rw [Grammar.sum] at h
  obtain ⟨lhs, left, ahead, peeked, hleft, hlhs, hnext, hstops, h⟩ := ih.product.first h
  split at h
  · next hkind =>
    obtain ⟨rhs, right, last, hright, hrhs, -, hlast, h⟩ := ih.sum.rest (hkind ▸ hnext) (by simp) h
    obtain ⟨rfl, rfl⟩ := accepts_pure.1 h
    exact ⟨_, hleft.trans hright, .plus hlhs hrhs, hlast⟩
  · next hkind =>
    obtain ⟨rhs, right, last, hright, hrhs, hclosed, hlast, h⟩ :=
      ih.sum.rest (hkind ▸ hnext) (by simp) h
    obtain ⟨grouped, kept, hgrouped, h⟩ := accepts_bind.1 h
    obtain ⟨rfl, rfl⟩ := accepts_pure.1 h
    cases hgrouped
    rw [State.justClosed] at hclosed
    rw [hclosed]
    exact ⟨_, hleft.trans hright, .minus hlhs hrhs, hlast⟩
  · next hplus hminus =>
    obtain ⟨rfl, rfl⟩ := accepts_pure.1 h
    have hgoesOn := Category.goesOn_sum.2 ⟨hplus, hminus, hstops⟩
    exact ⟨left, hleft, .sum_of_product hlhs, State.stops_of_next hnext hgoesOn⟩

theorem product_succ (ih : Sound vocabulary σ depth) :
    Recognizes vocabulary .product (Grammar.product (σ := σ) vocabulary (depth + 1)) := by
  intro state after value h
  rw [Grammar.product] at h
  obtain ⟨lhs, left, ahead, peeked, hleft, hlhs, hnext, hstops, h⟩ := ih.quotient.first h
  split at h
  · next hkind =>
    obtain ⟨rhs, right, last, hright, hrhs, -, hlast, h⟩ :=
      ih.product.rest (hkind ▸ hnext) (by simp) h
    obtain ⟨rfl, rfl⟩ := accepts_pure.1 h
    exact ⟨_, hleft.trans hright, .times hlhs hrhs, hlast⟩
  · next hkind =>
    -- a quotient has taken every division sign
    exact absurd hkind (Category.goesOn_quotient.1 hstops).1
  · next hmultiply hdivide =>
    split at h
    · next hfactor =>
      obtain ⟨rhs, last, hrhs, h⟩ := accepts_bind.1 h
      obtain ⟨right, hright, hderives, hlast⟩ := ih.product hrhs
      obtain ⟨rfl, rfl⟩ := accepts_pure.1 h
      obtain ⟨token, htoken, hkind⟩ := hnext
      refine ⟨_, hleft.trans hright, .juxtaposed hlhs hderives ?_, hlast⟩
      rw [hright.head?_eq hderives.ne_nil htoken, hkind]
      exact hfactor
    · next hfactor =>
      obtain ⟨rfl, rfl⟩ := accepts_pure.1 h
      rw [Bool.not_eq_true] at hfactor
      have hgoesOn := Category.goesOn_product.2 ⟨hmultiply, hfactor, hstops⟩
      exact ⟨left, hleft, .product_of_quotient hlhs, State.stops_of_next hnext hgoesOn⟩

theorem quotient_succ (ih : Sound vocabulary σ depth) :
    Recognizes vocabulary .quotient (Grammar.quotient (σ := σ) vocabulary (depth + 1)) := by
  intro state after value h
  rw [Grammar.quotient] at h
  obtain ⟨lhs, read, hlhs, h⟩ := accepts_bind.1 (accepts_enter.1 h)
  obtain ⟨left, hleft, hderives, hstops⟩ := ih.remainder hlhs
  obtain ⟨right, hright, hvalue, hlast⟩ :=
    ih.quotientFrom (.quotient_of_remainder hderives) hstops h
  exact ⟨left ++ right, (State.path_events.1 hleft).trans hright, hvalue, hlast⟩

theorem quotientFrom_succ (ih : Sound vocabulary σ depth) {lhs value : Expr}
    {left : List Token.Kind} {state after : State σ} (hlhs : Derives vocabulary .quotient left lhs)
    (hstops : state.Stops .remainder)
    (h : Accepts (Grammar.quotientFrom vocabulary (depth + 1) lhs) state value after) :
    ∃ kinds, state.Path kinds after ∧ Derives vocabulary .quotient (left ++ kinds) value ∧
      after.Stops .quotient := by
  rw [Grammar.quotientFrom] at h
  obtain ⟨ahead, peeked, hpeek, h⟩ := accepts_bind.1 h
  obtain ⟨hpath, hnext⟩ := path_of_peek hpeek
  split at h
  · next hkind =>
    obtain ⟨rhs, right, read, hright, hrhs, -, hread, h⟩ :=
      ih.remainder.rest (hkind ▸ hnext) (by simp) h
    obtain ⟨kinds, hkinds, hvalue, hlast⟩ := ih.quotientFrom (.divided hlhs hrhs) hread h
    refine ⟨_, (hpath.trans hright).trans hkinds, ?_, hlast⟩
    simpa using hvalue
  · next hdivide =>
    obtain ⟨rfl, rfl⟩ := accepts_pure.1 h
    have hremainder := hstops _ ((State.next_of_path_nil hpath).1 hnext)
    have hgoesOn := Category.goesOn_quotient.2 ⟨hdivide, hremainder⟩
    exact ⟨[], hpath, by simpa using hlhs, State.stops_of_next hnext hgoesOn⟩

theorem remainder_succ (ih : Sound vocabulary σ depth) :
    Recognizes vocabulary .remainder (Grammar.remainder (σ := σ) vocabulary (depth + 1)) := by
  intro state after value h
  rw [Grammar.remainder] at h
  obtain ⟨lhs, left, ahead, peeked, hleft, hlhs, hnext, hstops, h⟩ := ih.power.first h
  split at h
  · next hkind =>
    obtain ⟨rhs, right, last, hright, hrhs, -, hlast, h⟩ :=
      ih.remainder.rest (hkind ▸ hnext) (by simp) h
    obtain ⟨rfl, rfl⟩ := accepts_pure.1 h
    exact ⟨_, hleft.trans hright, .modulo hlhs hrhs, hlast⟩
  · next hmodulus =>
    obtain ⟨rfl, rfl⟩ := accepts_pure.1 h
    have hgoesOn := Category.goesOn_remainder.2 ⟨hmodulus, hstops⟩
    exact ⟨left, hleft, .remainder_of_power hlhs, State.stops_of_next hnext hgoesOn⟩

theorem power_succ (ih : Sound vocabulary σ depth) :
    Recognizes vocabulary .power (Grammar.power (σ := σ) vocabulary (depth + 1)) := by
  intro state after value h
  rw [Grammar.power] at h
  obtain ⟨lhs, left, ahead, peeked, hleft, hlhs, hnext, hstops, h⟩ := ih.subscript.first h
  split at h
  · next hkind =>
    obtain ⟨rhs, right, last, hright, hrhs, -, hlast, h⟩ :=
      ih.power.rest (hkind ▸ hnext) (by simp) h
    obtain ⟨rfl, rfl⟩ := accepts_pure.1 h
    exact ⟨_, hleft.trans hright, .raised hlhs hrhs, hlast⟩
  · next hexponent =>
    obtain ⟨rfl, rfl⟩ := accepts_pure.1 h
    have hgoesOn := Category.goesOn_power.2 ⟨hexponent, hstops⟩
    exact ⟨left, hleft, .power_of_subscript hlhs, State.stops_of_next hnext hgoesOn⟩

theorem subscript_succ (ih : Sound vocabulary σ depth) :
    Recognizes vocabulary .subscript (Grammar.subscript (σ := σ) vocabulary (depth + 1)) := by
  intro state after value h
  rw [Grammar.subscript] at h
  obtain ⟨base, left, ahead, peeked, hleft, hbase, hnext, -, h⟩ := ih.operand.first h
  split at h
  · next hkind =>
    obtain ⟨index, right, last, hright, hindex, -, hlast, h⟩ :=
      ih.subscript.rest (hkind ▸ hnext) (by simp) h
    obtain ⟨rfl, rfl⟩ := accepts_pure.1 h
    exact ⟨_, hleft.trans hright, .indexed hbase hindex, hlast⟩
  · next hunderscore =>
    obtain ⟨rfl, rfl⟩ := accepts_pure.1 h
    have hgoesOn : Category.goesOn .subscript ahead.kind = false := by
      simpa [Category.goesOn] using hunderscore
    exact ⟨left, hleft, .subscript_of_operand hbase, State.stops_of_next hnext hgoesOn⟩

theorem operand_succ (ih : Sound vocabulary σ depth) :
    Recognizes vocabulary .operand (Grammar.operand (σ := σ) vocabulary (depth + 1)) := by
  intro state after value h
  rw [Grammar.operand] at h
  obtain ⟨ahead, peeked, hpath, hnext, h⟩ := accepts_enter_peek h
  split at h
  · next number hkind =>
    obtain ⟨_, passed, hadvance, h⟩ := accepts_bind.1 h
    obtain ⟨rfl, rfl⟩ := accepts_pure.1 h
    have hpass := path_of_advance (hkind ▸ hnext) (by simp) hadvance
    exact ⟨_, hpath.trans hpass, .number number, fun _ _ ↦ rfl⟩
  · obtain ⟨kinds, hkinds, hderives⟩ := ih.signed h
    exact ⟨kinds, hpath.trans hkinds, hderives⟩
  · next name hkind =>
    obtain ⟨_, passed, hadvance, h⟩ := accepts_bind.1 h
    obtain ⟨rfl, rfl⟩ := accepts_pure.1 h
    have hpass := path_of_advance (hkind ▸ hnext) (by simp) hadvance
    exact ⟨_, hpath.trans hpass, .symbol name, fun _ _ ↦ rfl⟩
  iterate 2
    obtain ⟨kinds, hkinds, hderives⟩ := ih.named (by simpa [nameToken, *] using hnext) h
    exact ⟨kinds, hpath.trans hkinds, .operand_of_named hderives, fun _ _ ↦ rfl⟩
  · obtain ⟨kinds, hkinds, hderives, -⟩ := ih.group h
    exact ⟨kinds, hpath.trans hkinds, .operand_of_group hderives, fun _ _ ↦ rfl⟩
  iterate 3
    obtain ⟨_, _, _, h⟩ := accepts_bind.1 h
    exact absurd h not_accepts_reject

theorem signed_succ (ih : Sound vocabulary σ depth) :
    Recognizes vocabulary .operand (Grammar.signed (σ := σ) vocabulary (depth + 1)) := by
  intro state after value h
  rw [Grammar.signed] at h
  obtain ⟨found, passed, -, hpass, h⟩ := accepts_enter_advance h
  split at h
  · next hkind =>
    rw [hkind] at hpass
    have hpass := hpass (by simp)
    obtain ⟨inner, read, hinner, h⟩ := accepts_bind.1 h
    obtain ⟨kinds, hkinds, hderives, -⟩ := ih.operand hinner
    have hsigned := Derives.signed .plus hderives
    split at h <;> obtain ⟨rfl, rfl⟩ := accepts_pure.1 h <;>
      exact ⟨_, hpass.trans hkinds, by simpa [withSign, signToken] using hsigned, fun _ _ ↦ rfl⟩
  · next hkind =>
    rw [hkind] at hpass
    have hpass := hpass (by simp)
    obtain ⟨inner, read, hinner, h⟩ := accepts_bind.1 h
    obtain ⟨kinds, hkinds, hderives, -⟩ := ih.operand hinner
    have hsigned := Derives.signed .minus hderives
    have hclosed := hkinds.justClosed_eq hderives.ne_nil
    split at h
    · obtain ⟨rfl, rfl⟩ := accepts_pure.1 h
      exact ⟨_, hpass.trans hkinds, hsigned, fun _ _ ↦ rfl⟩
    · obtain ⟨grouped, kept, hgrouped, h⟩ := accepts_bind.1 h
      obtain ⟨rfl, rfl⟩ := accepts_pure.1 h
      cases hgrouped
      rw [State.justClosed] at hclosed
      refine ⟨_, hpass.trans hkinds, ?_, fun _ _ ↦ rfl⟩
      rw [hclosed]
      simpa [withSign, signToken] using hsigned
  · exact absurd h not_accepts_reject

theorem named_succ (ih : Sound vocabulary σ depth) {name : String} {isCall : Bool}
    {state after : State σ} {value : Expr} (hnext : state.Next (nameToken isCall name))
    (h : Accepts (Grammar.named vocabulary (depth + 1) name isCall) state value after) :
    ∃ kinds, state.Path kinds after ∧ Derives vocabulary .named kinds value := by
  rw [Grammar.named, accepts_enter] at h
  have hentered : State.Next { state with events := .entered (.named name) :: state.events }
      (nameToken isCall name) := hnext
  split at h
  · next hfraction =>
    obtain ⟨kinds, hkinds, hderives⟩ := ih.fraction (by simp [roleOf, hfraction]) hentered h
    exact ⟨kinds, State.path_events.1 hkinds, hderives⟩
  · next hfraction =>
    split at h
    · next hroot =>
      obtain ⟨kinds, hkinds, hderives⟩ := ih.root (by simp [roleOf, hfraction, hroot]) hentered h
      exact ⟨kinds, State.path_events.1 hkinds, hderives⟩
    · next hroot =>
      split at h
      · next hfunction =>
        obtain ⟨kinds, hkinds, hderives⟩ :=
          ih.application (by simp [roleOf, hfraction, hroot, hfunction]) hentered h
        exact ⟨kinds, State.path_events.1 hkinds, hderives⟩
      · next hfunction =>
        obtain ⟨_, passed, hadvance, h⟩ := accepts_bind.1 h
        have hpass := path_of_advance hentered (nameToken_ne_endOfInput _ _) hadvance
        have hplain : Derives vocabulary .named [nameToken isCall name] (plainName isCall name) :=
          .plain isCall (by simp [roleOf, hfraction, hroot, hfunction])
        split at h <;> obtain ⟨rfl, rfl⟩ := accepts_pure.1 h <;>
          exact ⟨_, State.path_events.1 hpass, by simpa [plainName, *] using hplain⟩

theorem fraction_succ (ih : Sound vocabulary σ depth) {name : String}
    (hrole : roleOf vocabulary name = .fraction) :
    RecognizesNamed vocabulary name (Grammar.fraction (σ := σ) vocabulary (depth + 1)) := by
  intro state after value isCall hnext h
  rw [Grammar.fraction] at h
  obtain ⟨passed, hpass, h⟩ := accepts_enter_name hnext h
  obtain ⟨numerator, mid, hnumerator, h⟩ := accepts_bind.1 h
  obtain ⟨denominator, last, hdenominator, h⟩ := accepts_bind.1 h
  obtain ⟨rfl, rfl⟩ := accepts_pure.1 h
  obtain ⟨upper, hupper, habove, -⟩ := ih.group hnumerator
  obtain ⟨lower, hlower, hbelow, -⟩ := ih.group hdenominator
  exact ⟨_, (hpass.trans hupper).trans hlower, .fraction isCall hrole habove hbelow⟩

theorem root_succ (ih : Sound vocabulary σ depth) {name : String}
    (hrole : roleOf vocabulary name = .root) :
    RecognizesNamed vocabulary name (Grammar.root (σ := σ) vocabulary (depth + 1)) := by
  intro state after value isCall hnext h
  rw [Grammar.root] at h
  obtain ⟨passed, hpass, h⟩ := accepts_enter_name hnext h
  obtain ⟨ahead, peeked, hpeek, h⟩ := accepts_bind.1 h
  obtain ⟨hpath, hahead⟩ := path_of_peek hpeek
  split at h
  · next hopen =>
    obtain ⟨index, inner, read, hinner, hindex, -, -, h⟩ :=
      ih.operand.rest (hopen ▸ hahead) (by simp) h
    obtain ⟨found, closed, hfound, h⟩ := accepts_bind.1 h
    split at h
    · next hclose =>
      obtain ⟨radicand, last, hradicand, h⟩ := accepts_bind.1 h
      obtain ⟨rfl, rfl⟩ := accepts_pure.1 h
      obtain ⟨outer, houter, hderives, -⟩ := ih.group hradicand
      have hclosed := path_of_advance (hclose ▸ next_of_advance hfound) (by simp) hfound
      have hwhole := (((hpass.trans hpath).trans hinner).trans hclosed).trans houter
      refine ⟨_, hwhole, ?_⟩
      simpa using Derives.indexedRoot isCall hrole hindex hderives
    · exact absurd h not_accepts_reject
  · next hopen =>
    obtain ⟨radicand, last, hradicand, h⟩ := accepts_bind.1 h
    obtain ⟨rfl, rfl⟩ := accepts_pure.1 h
    obtain ⟨kinds, hkinds, hderives, -⟩ := ih.group hradicand
    obtain ⟨token, htoken, hkind⟩ := hahead
    have hhead : kinds.head? ≠ some (.bracket (.opening '[')) := by
      rw [hkinds.head?_eq hderives.ne_nil htoken, hkind]
      simpa using hopen
    exact ⟨_, (hpass.trans hpath).trans hkinds, .root isCall hrole hderives hhead⟩

theorem application_succ (ih : Sound vocabulary σ depth) {name : String}
    (hrole : roleOf vocabulary name = .function) :
    RecognizesNamed vocabulary name
      (Grammar.application (σ := σ) vocabulary (depth + 1) name) := by
  intro state after value isCall hnext h
  rw [Grammar.application] at h
  obtain ⟨passed, hpass, h⟩ := accepts_enter_name hnext h
  obtain ⟨ahead, peeked, hpeek, h⟩ := accepts_bind.1 h
  obtain ⟨hpath, -⟩ := path_of_peek hpeek
  split at h
  · obtain ⟨argument, last, hargument, h⟩ := accepts_bind.1 h
    obtain ⟨rfl, rfl⟩ := accepts_pure.1 h
    obtain ⟨kinds, hkinds, hderives, -⟩ := ih.group hargument
    exact ⟨_, (hpass.trans hpath).trans hkinds,
      .application isCall hrole (.operand_of_group hderives)⟩
  · obtain ⟨argument, last, hargument, h⟩ := accepts_bind.1 h
    obtain ⟨rfl, rfl⟩ := accepts_pure.1 h
    obtain ⟨kinds, hkinds, hderives, -⟩ := ih.operand hargument
    exact ⟨_, (hpass.trans hpath).trans hkinds, .application isCall hrole hderives⟩

theorem group_succ (ih : Sound vocabulary σ depth) :
    Recognizes vocabulary .group (Grammar.group (σ := σ) vocabulary (depth + 1)) := by
  intro state after value h
  rw [Grammar.group] at h
  obtain ⟨found, opened, -, hopened, h⟩ := accepts_enter_advance h
  cases hkind : found.kind with
  | bracket bracket =>
    obtain ⟨mark, opens⟩ := bracket
    rw [hkind] at h hopened
    cases opens with
    | false => exact absurd h not_accepts_reject
    | true =>
      simp only [if_true] at h
      have hopened := hopened (by simp)
      split at h
      · exact absurd h not_accepts_reject
      · next partner hpartner =>
        obtain ⟨content?, read, hcontent, h⟩ := accepts_bind.1 h
        obtain ⟨last, closed, hlast, h⟩ := accepts_bind.1 h
        split at h
        · next hclose =>
          have hclosed := path_of_advance (hclose ▸ next_of_advance hlast) (by simp) hlast
          split at h
          · next content =>
            obtain ⟨rfl, rfl⟩ := accepts_pure.1 h
            obtain ⟨kinds, hkinds, hderives, -⟩ := ih.expr hcontent
            have hwhole := (hopened.trans hkinds).trans hclosed
            exact ⟨_, hwhole, .group hpartner hderives, fun _ _ ↦ rfl⟩
          · exact absurd h not_accepts_reject
        · exact absurd h not_accepts_reject
  | _ =>
    rw [hkind] at h
    exact absurd h not_accepts_reject

theorem succ (ih : Sound vocabulary σ depth) : Sound vocabulary σ (depth + 1) where
  expr := ih.expr_succ
  sum := ih.sum_succ
  product := ih.product_succ
  quotient := ih.quotient_succ
  quotientFrom := ih.quotientFrom_succ
  remainder := ih.remainder_succ
  power := ih.power_succ
  subscript := ih.subscript_succ
  operand := ih.operand_succ
  signed := ih.signed_succ
  named := ih.named_succ
  fraction := ih.fraction_succ
  root := ih.root_succ
  application := ih.application_succ
  group := ih.group_succ

end Sound

theorem sound (vocabulary : Vocabulary) (depth : Nat) : Sound vocabulary σ depth := by
  induction depth with
  | zero => exact .zero
  | succ depth ih => exact ih.succ

/-- All that is accepted as an equation is a formula, or there is nothing before the end. -/
theorem isFormula_of_accepts_equation {state after : State σ} {value? : Option Expr}
    (h : Accepts (equation vocabulary depth) state value? after) :
    ∃ kinds, state.Path kinds after ∧ IsFormula vocabulary kinds value? := by
  obtain ⟨lhs?, read, hlhs, h⟩ := accepts_bind.1 h
  have hleft := (sound vocabulary depth).expr hlhs
  split at h
  · obtain ⟨rfl, rfl⟩ := accepts_pure.1 h
    exact ⟨[], hleft.1, .nothing⟩
  · next lhs =>
    obtain ⟨left, hleft, hderives, -⟩ := hleft
    obtain ⟨ahead, peeked, hpeek, h⟩ := accepts_bind.1 h
    obtain ⟨hpath, hnext⟩ := path_of_peek hpeek
    have hleft := hleft.trans hpath
    rw [List.append_nil] at hleft
    split at h
    · next hkind =>
      obtain ⟨_, passed, hadvance, h⟩ := accepts_bind.1 h
      have hpass := path_of_advance (hkind ▸ hnext) (by simp) hadvance
      obtain ⟨rhs?, last, hrhs, h⟩ := accepts_bind.1 h
      have hright := (sound vocabulary depth).expr hrhs
      split at h
      · next rhs =>
        obtain ⟨rfl, rfl⟩ := accepts_pure.1 h
        obtain ⟨right, hright, hrightDerives, -⟩ := hright
        exact ⟨_, hleft.trans (hpass.trans hright), .equation hderives hrightDerives⟩
      · obtain ⟨_, _, _, h⟩ := accepts_bind.1 h
        exact absurd h not_accepts_reject
    · obtain ⟨rfl, rfl⟩ := accepts_pure.1 h
      exact ⟨left, hleft, .sum hderives⟩

/-- All that is accepted is a formula up to the end of the input. -/
theorem isFormula_of_accepts {state after : State σ} {value? : Option Expr}
    (h : Accepts (formula vocabulary depth) state value? after) :
    ∃ kinds, state.Upcoming kinds ∧ IsFormula vocabulary kinds value? := by
  obtain ⟨found?, read, hequation, h⟩ := accepts_bind.1 h
  obtain ⟨kinds, hkinds, hformula⟩ := isFormula_of_accepts_equation hequation
  obtain ⟨found, last, hfound, h⟩ := accepts_bind.1 h
  split at h
  · next hend =>
    obtain ⟨rfl, rfl⟩ := accepts_pure.1 h
    have hnext := next_of_advance hfound
    rw [hend] at hnext
    have hupcoming : state.Upcoming (kinds ++ []) := hkinds.upcoming hnext
    rw [List.append_nil] at hupcoming
    exact ⟨kinds, hupcoming, hformula⟩
  · exact absurd h not_accepts_reject

end FormulaText.Grammar
