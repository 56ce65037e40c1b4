import FormulaText.Proofs.Arithmetic.Phrases
import FormulaText.Proofs.Vocabulary.Names
import Mathlib.Algebra.Field.Basic

/-!
# Products and quotients read from left to right

Tokens of products and quotients are read from left to right in a field. Each operand multiplies or
divides all that was read before it, and it multiplies where nothing is written before it. The value
of a group or of a fraction is found first and then used as that of a number is. No tree is needed
for this. The parser nests products to the right and quotients to the left, so that a tree has the
same value only because multiplication is associative with division.
-/

namespace FormulaText

open Grammar

/-- Whether a token belongs to products and quotients: an atom, one of `* /`, a bracket, or the
control word of a Greek letter or of a fraction. -/
def Token.Kind.isMultiplicative : Token.Kind → Bool
  | .operator op => op = .multiply || op = .divide
  | .bracket _ => true
  | .control name => isGreekLetter name || Text.equalIgnoringAsciiCase name "frac"
  | kind => kind.atom?.isSome

namespace Products

/-- What the next operand is: one more operand of a product, or a part of a fraction. -/
inductive Place (F : Type*) where
  | operand
  | numerator
  | denominator (numerator : F)

/-- What is read inside of some brackets: the value so far, whether the next operand divides it, and
the place of that operand. -/
structure Level (F : Type*) where
  value : F
  divides : Bool
  place : Place F

variable {F : Type*} [Field F]

namespace Level

def start : Level F := ⟨1, false, .operand⟩

def combine (level : Level F) (operand : F) : Level F :=
  ⟨if level.divides then level.value / operand else level.value * operand, false, .operand⟩

/-- The value of an atom or of a group, put into its place. -/
def take (level : Level F) (value : F) : Level F :=
  match level.place with
  | .operand => level.combine value
  | .numerator => { level with place := .denominator value }
  | .denominator numerator => level.combine (numerator / value)

end Level

/-- One token more, where `outer` are the levels of the brackets that are still open. -/
def step (values : Atom → F) : Level F × List (Level F) → Token.Kind → Level F × List (Level F)
  | (level, outer), .operator .multiply => ({ level with divides := false }, outer)
  | (level, outer), .operator .divide => ({ level with divides := true }, outer)
  | (level, outer), .bracket ⟨_, true⟩ => (.start, level :: outer)
  | (level, enclosing :: outer), .bracket ⟨_, false⟩ => (enclosing.take level.value, outer)
  | (level, outer), .control name =>
    if isGreekLetter name then (level.take (values (.name name)), outer)
    else ({ level with place := .numerator }, outer)
  | (level, outer), kind =>
    match kind.atom? with
    | some atom => (level.take (values atom), outer)
    | none => (level, outer)

/-- The value of tokens that are read from left to right, where atoms have the values `values`. -/
def value (values : Atom → F) (kinds : List Token.Kind) : F :=
  (kinds.foldl (step values) (.start, [])).1.value

/-- The value of a formula, node by node, if it is made of products, quotients and atoms. -/
def treeValue? (values : Atom → F) : Expr → Option F
  | .number (.finite false magnitude) => some (values (.number magnitude))
  | .symbol name => some (values (.name name))
  | .binary .multiply lhs rhs _ => do return (← treeValue? values lhs) * (← treeValue? values rhs)
  | .binary .divide lhs rhs _ => do return (← treeValue? values lhs) / (← treeValue? values rhs)
  | _ => none

/-! ## Values of phrases -/

/-- The tokens are an atom or a group, and are put into any place. -/
def Takes (values : Atom → F) (kinds : List Token.Kind) (x : F) : Prop :=
  ∀ level outer, kinds.foldl (step values) (level, outer) = (level.take x, outer)

/-- The tokens are an operand of a product. -/
def Combines (values : Atom → F) (kinds : List Token.Kind) (x : F) : Prop :=
  ∀ level outer, level.place = .operand →
    kinds.foldl (step values) (level, outer) = (level.combine x, outer)

/-- The tokens are operands of a product, and what they are combined to multiplies what was read
before them. -/
def Multiplies (values : Atom → F) (kinds : List Token.Kind) (x : F) : Prop :=
  ∀ (before : F) outer,
    kinds.foldl (step values) (⟨before, false, .operand⟩, outer) =
      (⟨before * x, false, .operand⟩, outer)

section

variable {values : Atom → F} {kinds left right : List Token.Kind} {x y : F}

theorem takes_atom {kind : Token.Kind} {atom : Atom} (h : kind.atom? = some atom) :
    Takes values [kind] (values atom) := by
  intro level outer
  rw [List.foldl_cons, List.foldl_nil]
  cases kind with
  | number value =>
    rw [step]
    · rw [h]
    all_goals nofun
  | symbol name =>
    rw [step]
    · rw [h]
    all_goals nofun
  | _ => contradiction

theorem Takes.combines (h : Takes values kinds x) : Combines values kinds x := by
  intro level outer hplace
  rw [h, Level.take, hplace]

theorem Combines.multiplies (h : Combines values kinds x) : Multiplies values kinds x :=
  fun _ outer ↦ h _ outer rfl

/-- What is in brackets begins anew. -/
theorem Multiplies.inBrackets (h : Multiplies values kinds x) (mark partner : Char) :
    Takes values (.bracket (.opening mark) :: kinds ++ [.bracket (.closing partner)]) x := by
  intro level outer
  have hopen : step values (level, outer) (.bracket (.opening mark)) = (.start, level :: outer) :=
    rfl
  have hclose : step values (⟨1 * x, false, .operand⟩, level :: outer)
      (.bracket (.closing partner)) = (level.take (1 * x), outer) := rfl
  rw [List.cons_append, List.foldl_cons, hopen, List.foldl_append, Level.start, h, List.foldl_cons,
    List.foldl_nil, hclose, one_mul]

theorem takes_letter {name : String} (h : isGreekLetter name = true) :
    Takes values [.control name] (values (.name name)) := by
  intro level outer
  rw [List.foldl_cons, List.foldl_nil, step, if_pos h]

/-- The parts of a fraction are found before the fraction is used. -/
theorem Takes.fraction {name : String} (hname : isGreekLetter name = false)
    (habove : Takes values left x) (hbelow : Takes values right y) :
    Combines values (.control name :: left ++ right) (x / y) := by
  intro level outer hplace
  have hbegin : step values (level, outer) (.control name) =
      ({ level with place := .numerator }, outer) := by simp [step, hname]
  rw [List.cons_append, List.foldl_cons, hbegin, List.foldl_append, habove, hbelow]
  rfl

theorem Multiplies.juxtaposed (hleft : Multiplies values left x)
    (hright : Multiplies values right y) : Multiplies values (left ++ right) (x * y) := by
  intro before outer
  rw [List.foldl_append, hleft, hright, mul_assoc]

theorem Multiplies.times (hleft : Multiplies values left x) (hright : Multiplies values right y) :
    Multiplies values (left ++ .operator .multiply :: right) (x * y) :=
  hleft.juxtaposed fun before outer ↦ hright before outer

/-- A divisor is one operand: a product behind the sign would have only its first one divide. -/
theorem Multiplies.divided (hleft : Multiplies values left x) (hright : Combines values right y) :
    Multiplies values (left ++ .operator .divide :: right) (x / y) := by
  intro before outer
  have hsign : step values (⟨before * x, false, .operand⟩, outer) (.operator .divide) =
      (⟨before * x, true, .operand⟩, outer) := rfl
  rw [List.foldl_append, hleft, List.foldl_cons, hsign, hright _ _ rfl, Level.combine, if_pos rfl,
    mul_div_assoc]

theorem Multiplies.value_eq (h : Multiplies values kinds x) : value values kinds = x := by
  rw [value, Level.start, h]
  exact one_mul x

end

/-! ## Phrases -/

def IsRead (values : Atom → F) : Category → List Token.Kind → F → Prop
  | .sum | .product | .quotient => Multiplies values
  | .group => Takes values
  | .remainder | .power | .subscript | .operand | .named => Combines values

variable {category : Category} {kinds : List Token.Kind} {expr : Expr}

/-- A name among these tokens is the control word of a Greek letter or of a fraction. -/
theorem of_isMultiplicative_nameToken {isCall : Bool} {name : String}
    (h : (nameToken isCall name).isMultiplicative = true) :
    isCall = false ∧
      if isGreekLetter name then roleOf .common name = .plain
      else roleOf .common name = .fraction := by
  cases isCall with
  | true => exact absurd h Bool.false_ne_true
  | false =>
    refine ⟨rfl, ?_⟩
    split
    · exact roleOf_of_isGreekLetter ‹_›
    · have hfrac : Text.equalIgnoringAsciiCase name "frac" = true := by
        simpa [nameToken, Token.Kind.isMultiplicative, *] using h
      exact if_pos hfrac

/-- A phrase of multiplicative tokens is read with the value of its tree. -/
theorem exists_treeValue? (values : Atom → F) (h : Derives .common category kinds expr)
    (hkinds : ∀ kind ∈ kinds, kind.isMultiplicative = true) :
    ∃ x, treeValue? values expr = some x ∧ IsRead values category kinds x := by
  induction h with
  | sum_of_product h ih | remainder_of_power h ih | power_of_subscript h ih
  | subscript_of_operand h ih | operand_of_named h ih => exact ih hkinds
  | product_of_quotient h ih => exact ih hkinds
  | quotient_of_remainder h ih =>
    obtain ⟨x, hvalue, hread⟩ := ih hkinds
    exact ⟨x, hvalue, Combines.multiplies hread⟩
  | operand_of_group h ih =>
    obtain ⟨x, hvalue, hread⟩ := ih hkinds
    exact ⟨x, hvalue, Takes.combines hread⟩
  | times hlhs hrhs ihlhs ihrhs =>
    simp only [List.forall_mem_append, List.forall_mem_cons] at hkinds
    obtain ⟨x, hx, hleft⟩ := ihlhs hkinds.1
    obtain ⟨y, hy, hright⟩ := ihrhs hkinds.2.2
    exact ⟨x * y, by rw [treeValue?, hx, hy]; rfl, Multiplies.times hleft hright⟩
  | juxtaposed hlhs hrhs hfactor ihlhs ihrhs =>
    rw [List.forall_mem_append] at hkinds
    obtain ⟨x, hx, hleft⟩ := ihlhs hkinds.1
    obtain ⟨y, hy, hright⟩ := ihrhs hkinds.2
    exact ⟨x * y, by rw [treeValue?, hx, hy]; rfl, Multiplies.juxtaposed hleft hright⟩
  | divided hlhs hrhs ihlhs ihrhs =>
    simp only [List.forall_mem_append, List.forall_mem_cons] at hkinds
    obtain ⟨x, hx, hleft⟩ := ihlhs hkinds.1
    obtain ⟨y, hy, hright⟩ := ihrhs hkinds.2.2
    exact ⟨x / y, by rw [treeValue?, hx, hy]; rfl, Multiplies.divided hleft hright⟩
  | number value =>
    have hatom := hkinds _ List.mem_cons_self
    match value, hatom with
    | .finite false magnitude, _ => exact ⟨_, rfl, (takes_atom rfl).combines⟩
  | symbol name => exact ⟨_, rfl, (takes_atom rfl).combines⟩
  | @group mark partner _ _ hpartner h ih =>
    simp only [List.cons_append, List.forall_mem_cons, List.forall_mem_append] at hkinds
    obtain ⟨x, hvalue, hread⟩ := ih hkinds.2.1
    exact ⟨x, hvalue, Multiplies.inBrackets hread mark partner⟩
  | @fraction isCall name _ _ _ _ hrole habove hbelow ihabove ihbelow =>
    simp only [List.cons_append, List.forall_mem_cons, List.forall_mem_append] at hkinds
    obtain ⟨x, hx, hleft⟩ := ihabove hkinds.2.1
    obtain ⟨y, hy, hright⟩ := ihbelow hkinds.2.2
    obtain ⟨rfl, hname⟩ := of_isMultiplicative_nameToken hkinds.1
    have hletter : isGreekLetter name = false := by
      by_contra hletter
      rw [if_pos (by simpa using hletter), hrole] at hname
      contradiction
    exact ⟨x / y, by rw [treeValue?, hx, hy]; rfl, Takes.fraction hletter hleft hright⟩
  | @plain isCall name hrole =>
    obtain ⟨rfl, hname⟩ := of_isMultiplicative_nameToken (hkinds _ List.mem_cons_self)
    have hletter : isGreekLetter name = true := by
      by_contra hletter
      rw [if_neg hletter, hrole] at hname
      contradiction
    refine ⟨values (.name name), ?_, (takes_letter hletter).combines⟩
    simp [plainName, hletter, treeValue?]
  | plus | minus | modulo | raised | indexed =>
    simp only [List.forall_mem_append, List.forall_mem_cons] at hkinds
    exact absurd hkinds.2.1 (by decide)
  | signed sign =>
    have hsign := hkinds _ List.mem_cons_self
    cases sign <;> contradiction
  | root isCall hrole | indexedRoot isCall hrole | application isCall hrole =>
    have hname := (of_isMultiplicative_nameToken (hkinds _ List.mem_cons_self)).2
    rw [hrole] at hname
    split at hname <;> contradiction

end Products

end FormulaText
