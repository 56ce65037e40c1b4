import FormulaText.Grammar.Depth

/-!
# Readings of whole formulas

A finite source of tokens is read as a formula, or as nothing if it has no token. The reading also
tells where it left the source and what happened on the way.
-/

namespace FormulaText.Grammar

/-- What a source was read as, and how far the reading came. -/
structure Reading (σ : Type) where
  result : Except SyntaxError (Option Expr)
  state : State σ

/-- What comes of a reader of a formula that does not give up. -/
def Outcome.reading {σ : Type} (outcome : Outcome σ (Option Expr))
    (h : ∀ state, outcome ≠ .tooDeep state) : Reading σ :=
  match outcome with
  | .accepted expr? state => ⟨.ok expr?, state⟩
  | .rejected error state => ⟨.error error, state⟩
  | .tooDeep state => absurd rfl (h state)

variable {σ : Type} [FiniteTokenSource σ]

def depthFor (source : σ) : Nat := 16 * FiniteTokenSource.bound source + 12

def read (vocabulary : Vocabulary) (source : σ) : Reading σ :=
  (formula vocabulary (depthFor source) (.start source)).reading
    (formula_ne_tooDeep vocabulary _ (Nat.le_refl _))

def parse (vocabulary : Vocabulary) (source : σ) : Except SyntaxError (Option Expr) :=
  (read vocabulary source).result

namespace Reading

omit [FiniteTokenSource σ]

/-- The log of a reading, the first line first. -/
def log (reading : Reading σ) : List String := reading.state.events.reverse.filterMap Event.record?

/-- The source as the reading left it. What was looked at but not consumed is gone. -/
def source (reading : Reading σ) : σ := reading.state.source

end Reading

end FormulaText.Grammar
