import FormulaText.Expr.Basic
import FormulaText.Grammar.Event
import FormulaText.Token.Source

/-!
# Readers

A reader reads some tokens of a source as a value. It looks at most one token ahead, and it knows
the token it consumed last. A reader accepts, or it rejects with an error, or it gives up because
its rules are nested too deep.
-/

namespace FormulaText.Grammar

/-- How far a reading is: the source, the token pulled but not consumed, the token consumed last,
and all events so far, the latest first. -/
structure State (σ : Type) where
  source : σ
  ahead : Option Token
  last : Option Token
  events : List Event

def State.start {σ : Type} (source : σ) : State σ := ⟨source, none, none, []⟩

inductive Outcome (σ α : Type) where
  | accepted (value : α) (state : State σ)
  | rejected (error : SyntaxError) (state : State σ)
  | tooDeep (state : State σ)

def Reader (σ α : Type) : Type := State σ → Outcome σ α

namespace Reader

variable {σ α β : Type}

def pure (value : α) : Reader σ α := fun state ↦ .accepted value state

def bind (reader : Reader σ α) (next : α → Reader σ β) : Reader σ β := fun state ↦
  match reader state with
  | .accepted value state => next value state
  | .rejected error state => .rejected error state
  | .tooDeep state => .tooDeep state

instance : Monad (Reader σ) where
  pure := pure
  bind := bind

theorem pure_apply (value : α) (state : State σ) :
    (Pure.pure value : Reader σ α) state = .accepted value state := rfl

theorem bind_apply (reader : Reader σ α) (next : α → Reader σ β) (state : State σ) :
    (reader >>= next) state = match reader state with
      | .accepted value state => next value state
      | .rejected error state => .rejected error state
      | .tooDeep state => .tooDeep state := rfl

theorem map_apply (f : α → β) (reader : Reader σ α) (state : State σ) :
    (f <$> reader) state = match reader state with
      | .accepted value state => .accepted (f value) state
      | .rejected error state => .rejected error state
      | .tooDeep state => .tooDeep state := rfl

def giveUp : Reader σ α := fun state ↦ .tooDeep state

def get : Reader σ (State σ) := fun state ↦ .accepted state state

def modify (change : State σ → State σ) : Reader σ Unit := fun state ↦ .accepted () (change state)

def enter (rule : Rule) : Reader σ Unit :=
  modify fun state ↦ { state with events := .entered rule :: state.events }

/-- Whether the operand just read has to stay grouped after a minus: it is an operation, and the
token consumed last is a closing bracket. -/
def staysGrouped (operand : Expr) : Reader σ Bool := do
  let state ← get
  return operand.isBinary && state.last.any (·.kind.isClosingBracket)

variable [TokenSource σ]

def pull : Reader σ Token := fun state ↦
  let (answer, source) := TokenSource.next state.source
  let state := { state with source := source, events := .pulled answer :: state.events }
  match answer with
  | .ok token => .accepted token state
  | .error error => .rejected error state

/-- The token ahead, which stays ahead. -/
def peek : Reader σ Token := do
  match (← get).ahead with
  | some token => return token
  | none =>
    let token ← pull
    modify fun state ↦ { state with ahead := some token }
    return token

def advance : Reader σ Token := do
  let token ← peek
  modify fun state ↦
    { state with ahead := none, last := some token, events := .consumed token :: state.events }
  return token

/-- Rejects the token consumed last. -/
def reject (fault : Fault) : Reader σ α := fun state ↦
  let (line, column) := match state.last with
    | some token => (token.line, token.endColumn)
    | none => (0, 0)
  .rejected (.inText (TokenSource.text state.source) line column fault) state

/-! ## What a reader ensures -/

/-- A reader does not give up, and all that it accepts has the property `post`. -/
def Ensures (reader : Reader σ α) (state : State σ) (post : α → State σ → Prop) : Prop :=
  match reader state with
  | .accepted value state => post value state
  | .rejected _ _ => True
  | .tooDeep _ => False

omit [TokenSource σ]

theorem ensures_pure {value : α} {state : State σ} {post : α → State σ → Prop} :
    Ensures (Pure.pure value) state post ↔ post value state := Iff.rfl

theorem ensures_bind {reader : Reader σ α} {next : α → Reader σ β} {state : State σ}
    {post : β → State σ → Prop} :
    Ensures (reader >>= next) state post ↔
      Ensures reader state fun value state ↦ Ensures (next value) state post := by
  simp only [Ensures, bind_apply]
  cases reader state <;> rfl

theorem ensures_map {reader : Reader σ α} {f : α → β} {state : State σ}
    {post : β → State σ → Prop} :
    Ensures (f <$> reader) state post ↔
      Ensures reader state fun value state ↦ post (f value) state := by
  simp only [Ensures, map_apply]
  cases reader state <;> rfl

theorem Ensures.mono {reader : Reader σ α} {state : State σ} {weak strong : α → State σ → Prop}
    (h : Ensures reader state strong) (hpost : ∀ value state, strong value state → weak value state) :
    Ensures reader state weak := by
  revert h
  unfold Ensures
  cases reader state with
  | accepted value state => exact hpost value state
  | rejected error state => exact id
  | tooDeep state => exact id

/-- Two readers in a row, where the second one is looked at after what the first one ensures. -/
theorem Ensures.bind {reader : Reader σ α} {next : α → Reader σ β} {state : State σ}
    {mid : α → State σ → Prop} {post : β → State σ → Prop} (h : Ensures reader state mid)
    (hnext : ∀ value state, mid value state → Ensures (next value) state post) :
    Ensures (reader >>= next) state post :=
  ensures_bind.2 (h.mono hnext)

theorem ensures_get {state : State σ} {post : State σ → State σ → Prop} :
    Ensures get state post ↔ post state state := Iff.rfl

theorem ensures_modify {change : State σ → State σ} {state : State σ}
    {post : Unit → State σ → Prop} :
    Ensures (modify change) state post ↔ post () (change state) := Iff.rfl

theorem ensures_enter {rule : Rule} {state : State σ} {post : Unit → State σ → Prop} :
    Ensures (enter rule) state post ↔
      post () { state with events := .entered rule :: state.events } := Iff.rfl

theorem ensures_staysGrouped {operand : Expr} {state : State σ} {post : Bool → State σ → Prop} :
    Ensures (staysGrouped operand) state post ↔
      post (operand.isBinary && state.last.any (·.kind.isClosingBracket)) state := Iff.rfl

theorem ensures_pull [TokenSource σ] {state : State σ} {post : Token → State σ → Prop} :
    Ensures pull state post ↔
      ∀ token source, TokenSource.next state.source = (.ok token, source) →
        post token
          { state with source := source, events := .pulled (.ok token) :: state.events } := by
  rcases hnext : TokenSource.next state.source with ⟨_ | token, source⟩ <;>
    simp [Ensures, pull, hnext]

theorem ensures_reject [TokenSource σ] (fault : Fault) (state : State σ)
    (post : α → State σ → Prop) : Ensures (reject fault) state post := trivial

end Reader

end FormulaText.Grammar
