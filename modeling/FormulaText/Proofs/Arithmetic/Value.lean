import FormulaText.Proofs.Arithmetic.Written
import FormulaText.Proofs.Grammar.Phrase

/-!
# Sums and products read in the ordinary way

Tokens of sums and products are read from left to right. A number or a name is a factor of the
current term, a sign ends the term and begins the next one, and a closing bracket makes a factor of
all that stands between it and its partner. No tree is needed for this.
-/

namespace FormulaText

def Sign.operator : Sign → Operator
  | .plus => .plus
  | .minus => .minus

/-- What has a value of its own. -/
inductive Atom where
  | number (magnitude : Magnitude)
  | name (name : String)
deriving DecidableEq

/-- The atom that a token is: a name, or a number that has no minus. -/
def Token.Kind.atom? : Token.Kind → Option Atom
  | .number (.finite false magnitude) => some (.number magnitude)
  | .symbol name => some (.name name)
  | _ => none

/-- Whether a token belongs to sums and products: an atom, one of `+ - *`, or a bracket. -/
def Token.Kind.isArithmetic : Token.Kind → Bool
  | .operator op => op = .plus || op = .minus || op = .multiply
  | .bracket _ => true
  | kind => kind.atom?.isSome

/-- Whether a sign after a token stands between two operands. -/
def Token.Kind.endsOperand : Token.Kind → Bool
  | .number _ | .symbol _ => true
  | kind => kind.isClosingBracket

/-- Whether each sign stands between two operands, where `behindOperand` tells what came before. -/
def signsBetween (behindOperand : Bool) : List Token.Kind → Bool
  | [] => true
  | kind :: kinds =>
    (behindOperand || (kind ≠ .operator .plus && kind ≠ .operator .minus)) &&
      signsBetween kind.endsOperand kinds

/-- Whether tokens belong to sums and products in which no operand has a sign of its own. -/
def isArithmetic (kinds : List Token.Kind) : Bool :=
  kinds.all Token.Kind.isArithmetic && signsBetween false kinds

namespace Arithmetic

/-- What is read inside of some brackets: the sum of the terms before the last one, and the product
of the factors of the last one. -/
structure Level where
  total : Int
  term : Int

namespace Level

def start : Level := ⟨0, 1⟩

def value (level : Level) : Int := level.total + level.term

def times (level : Level) (factor : Int) : Level := ⟨level.total, level.term * factor⟩

def next (level : Level) (sign : Sign) : Level := ⟨level.value, sign.unit⟩

end Level

/-- One token more, where `outer` are the levels of the brackets that are still open. -/
def step (values : Atom → Int) : Level × List Level → Token.Kind → Level × List Level
  | (level, outer), .operator .plus => (level.next .plus, outer)
  | (level, outer), .operator .minus => (level.next .minus, outer)
  | (level, outer), .bracket ⟨_, true⟩ => (.start, level :: outer)
  | (level, enclosing :: outer), .bracket ⟨_, false⟩ => (enclosing.times level.value, outer)
  | (level, outer), kind =>
    match kind.atom? with
    | some atom => (level.times (values atom), outer)
    | none => (level, outer)

/-- The value of tokens that are read in the ordinary way, where atoms have the values `values`. -/
def value (values : Atom → Int) (kinds : List Token.Kind) : Int :=
  (kinds.foldl (step values) (.start, [])).1.value

/-! ## Values of phrases -/

/-- The tokens are factors of the current term. -/
def Multiplies (values : Atom → Int) (kinds : List Token.Kind) (factor : Int) : Prop :=
  ∀ level outer, kinds.foldl (step values) (level, outer) = (level.times factor, outer)

/-- The tokens are a sum, whose first term belongs to the current one. -/
def Adds (values : Atom → Int) (kinds : List Token.Kind) (parts : Written.Parts) : Prop :=
  ∀ level outer, ∃ after : Level, kinds.foldl (step values) (level, outer) = (after, outer) ∧
    after.value = level.total + (level.term * parts.lead + parts.tail)

section

variable {values : Atom → Int} {kinds first rest : List Token.Kind} {factor left right : Int}
  {parts others : Written.Parts}

theorem multiplies_atom (values : Atom → Int) {kind : Token.Kind} {atom : Atom}
    (h : kind.atom? = some atom) : Multiplies values [kind] (values atom) := by
  intro level outer
  rw [List.foldl_cons, List.foldl_nil]
  cases kind with
  | number value =>
    rw [step]
    · rw [h]
    all_goals nofun
  | symbol name =>
    rw [step]
    · rw [h]
    all_goals nofun
  | _ => contradiction

theorem Multiplies.append (hfirst : Multiplies values first left)
    (hrest : Multiplies values rest right) : Multiplies values (first ++ rest) (left * right) := by
  intro level outer
  rw [List.foldl_append, hfirst, hrest, Level.times, Level.times, Level.times, Int.mul_assoc]

/-- The sign of a product has no value of its own. -/
theorem Multiplies.behindSign (h : Multiplies values kinds factor) :
    Multiplies values (.operator .multiply :: kinds) factor :=
  fun level outer ↦ h level outer

theorem Multiplies.adds (h : Multiplies values kinds factor) : Adds values kinds ⟨factor, 0⟩ := by
  intro level outer
  refine ⟨level.times factor, h level outer, ?_⟩
  rw [Level.value, Level.times, Int.add_zero]

/-- A sum in brackets is a factor. -/
theorem Adds.inBrackets (h : Adds values kinds parts) (mark partner : Char) :
    Multiplies values (.bracket (.opening mark) :: kinds ++ [.bracket (.closing partner)])
      parts.total := by
  intro level outer
  obtain ⟨inner, hinner, hvalue⟩ := h .start (level :: outer)
  have htotal : inner.value = parts.total := by
    rw [hvalue, Level.start, Int.zero_add, Int.one_mul, Written.Parts.total]
  have hclose : step values (inner, level :: outer) (.bracket (.closing partner)) =
      (level.times inner.value, outer) := rfl
  have hopen : step values (level, outer) (.bracket (.opening mark)) = (.start, level :: outer) :=
    rfl
  rw [List.cons_append, List.foldl_cons, hopen, List.foldl_append, hinner, List.foldl_cons,
    List.foldl_nil, hclose, htotal]

/-- Two sums with a sign between them, without brackets. -/
theorem Adds.signed (sign : Sign) (hfirst : Adds values first parts)
    (hrest : Adds values rest others) :
    Adds values (first ++ .operator sign.operator :: rest)
      ⟨parts.lead, parts.tail + others.behind sign⟩ := by
  intro level outer
  obtain ⟨middle, hmiddle, hvalue⟩ := hfirst level outer
  obtain ⟨after, hafter, hend⟩ := hrest (middle.next sign) outer
  have hsign : step values (middle, outer) (.operator sign.operator) =
      (middle.next sign, outer) := by
    cases sign <;> rfl
  refine ⟨after, ?_, ?_⟩
  · rw [List.foldl_append, hmiddle, List.foldl_cons, hsign, hafter]
  · simp only [hend, Level.next, hvalue, Written.Parts.behind]
    omega

theorem Adds.value_eq (h : Adds values kinds parts) : value values kinds = parts.total := by
  obtain ⟨after, hafter, hvalue⟩ := h .start []
  rw [value, hafter, hvalue, Level.start, Int.zero_add, Int.one_mul, Written.Parts.total]

end

end Arithmetic

end FormulaText
