import FormulaText.Grammar.Rules

/-!
# Phrases of a formula

The grammar as a relation between token kinds and trees, one category of phrases for each tier of
operators. It speaks of whole phrases and knows nothing of lookahead, depth or positions. Sums,
products, remainders and powers nest to the right, and a quotient nests to the left.
-/

namespace FormulaText.Grammar

/-- A kind of phrase. The first seven are the tiers from the loosest to the tightest. -/
inductive Category where
  | sum
  | product
  | quotient
  | remainder
  | power
  | subscript
  | operand
  | named
  | group
deriving DecidableEq

inductive Role where
  | fraction
  | root
  | function
  | plain
deriving DecidableEq

/-- Fractions and roots come before the functions of a vocabulary. -/
def roleOf (vocabulary : Vocabulary) (name : String) : Role :=
  if Text.equalIgnoringAsciiCase name "frac" then .fraction
  else if Text.equalIgnoringAsciiCase name "sqrt" then .root
  else if vocabulary.isFunction name then .function
  else .plain

/-- The token of a control word, or of a call. -/
def nameToken (isCall : Bool) (name : String) : Token.Kind :=
  if isCall then .call name else .control name

/-- A plain name is a symbol if it is called or a Greek letter. -/
def plainName (isCall : Bool) (name : String) : Expr :=
  if isCall || isGreekLetter name then .symbol name else .control name

def endsClosed (kinds : List Token.Kind) : Bool := kinds.getLast?.any Token.Kind.isClosingBracket

def signToken : Sign → Token.Kind
  | .plus => .operator .plus
  | .minus => .operator .minus

/-- An operand with a sign before it. The sign of a number becomes part of the number, and a minus
notes whether the operand is an operation whose last token is a closing bracket. -/
def withSign (sign : Sign) (value : Expr) (closed : Bool) : Expr :=
  match sign, value with
  | .plus, .number value => .number value
  | .minus, .number value => .number value.neg
  | .plus, value => .signed .plus value false
  | .minus, value => .signed .minus value (value.isBinary && closed)

/-- The tokens that are a phrase of a category, and the tree that the phrase stands for. -/
inductive Derives (vocabulary : Vocabulary) : Category → List Token.Kind → Expr → Prop
  | sum_of_product {kinds value} (h : Derives vocabulary .product kinds value) :
    Derives vocabulary .sum kinds value
  | plus {left right lhs rhs} (hlhs : Derives vocabulary .product left lhs)
    (hrhs : Derives vocabulary .sum right rhs) :
    Derives vocabulary .sum (left ++ .operator .plus :: right) (.binary .plus lhs rhs false)
  | minus {left right lhs rhs} (hlhs : Derives vocabulary .product left lhs)
    (hrhs : Derives vocabulary .sum right rhs) :
    Derives vocabulary .sum (left ++ .operator .minus :: right)
      (.binary .minus lhs rhs (rhs.isBinary && endsClosed right))
  | product_of_quotient {kinds value} (h : Derives vocabulary .quotient kinds value) :
    Derives vocabulary .product kinds value
  | times {left right lhs rhs} (hlhs : Derives vocabulary .quotient left lhs)
    (hrhs : Derives vocabulary .product right rhs) :
    Derives vocabulary .product (left ++ .operator .multiply :: right)
      (.binary .multiply lhs rhs false)
  | juxtaposed {left right lhs rhs} (hlhs : Derives vocabulary .quotient left lhs)
    (hrhs : Derives vocabulary .product right rhs)
    (hfactor : right.head?.any Token.Kind.beginsFactor) :
    Derives vocabulary .product (left ++ right) (.binary .multiply lhs rhs false)
  | quotient_of_remainder {kinds value} (h : Derives vocabulary .remainder kinds value) :
    Derives vocabulary .quotient kinds value
  | divided {left right lhs rhs} (hlhs : Derives vocabulary .quotient left lhs)
    (hrhs : Derives vocabulary .remainder right rhs) :
    Derives vocabulary .quotient (left ++ .operator .divide :: right)
      (.binary .divide lhs rhs false)
  | remainder_of_power {kinds value} (h : Derives vocabulary .power kinds value) :
    Derives vocabulary .remainder kinds value
  | modulo {left right lhs rhs} (hlhs : Derives vocabulary .power left lhs)
    (hrhs : Derives vocabulary .remainder right rhs) :
    Derives vocabulary .remainder (left ++ .operator .modulus :: right)
      (.binary .modulus lhs rhs false)
  | power_of_subscript {kinds value} (h : Derives vocabulary .subscript kinds value) :
    Derives vocabulary .power kinds value
  | raised {left right lhs rhs} (hlhs : Derives vocabulary .subscript left lhs)
    (hrhs : Derives vocabulary .power right rhs) :
    Derives vocabulary .power (left ++ .operator .exponent :: right)
      (.binary .exponent lhs rhs false)
  | subscript_of_operand {kinds value} (h : Derives vocabulary .operand kinds value) :
    Derives vocabulary .subscript kinds value
  | indexed {left right base index} (hbase : Derives vocabulary .operand left base)
    (hindex : Derives vocabulary .subscript right index) :
    Derives vocabulary .subscript (left ++ .underscore :: right) (.subscript base index)
  | number (value : Binary64) : Derives vocabulary .operand [.number value] (.number value)
  | symbol (name : String) : Derives vocabulary .operand [.symbol name] (.symbol name)
  | signed (sign : Sign) {kinds value} (h : Derives vocabulary .operand kinds value) :
    Derives vocabulary .operand (signToken sign :: kinds)
      (withSign sign value (endsClosed kinds))
  | operand_of_named {kinds value} (h : Derives vocabulary .named kinds value) :
    Derives vocabulary .operand kinds value
  | operand_of_group {kinds value} (h : Derives vocabulary .group kinds value) :
    Derives vocabulary .operand kinds value
  | plain (isCall : Bool) {name : String} (hrole : roleOf vocabulary name = .plain) :
    Derives vocabulary .named [nameToken isCall name] (plainName isCall name)
  | fraction (isCall : Bool) {name : String} {above below numerator denominator}
    (hrole : roleOf vocabulary name = .fraction)
    (habove : Derives vocabulary .group above numerator)
    (hbelow : Derives vocabulary .group below denominator) :
    Derives vocabulary .named (nameToken isCall name :: above ++ below)
      (.binary .divide numerator denominator false)
  | root (isCall : Bool) {name : String} {kinds radicand}
    (hrole : roleOf vocabulary name = .root) (h : Derives vocabulary .group kinds radicand)
    (hopen : kinds.head? ≠ some (.bracket (.opening '['))) :
    Derives vocabulary .named (nameToken isCall name :: kinds) (.apply "sqrt" radicand)
  | indexedRoot (isCall : Bool) {name : String} {inner outer index radicand}
    (hrole : roleOf vocabulary name = .root) (hindex : Derives vocabulary .operand inner index)
    (h : Derives vocabulary .group outer radicand) :
    Derives vocabulary .named
      (nameToken isCall name :: .bracket (.opening '[') :: inner ++
        .bracket (.closing ']') :: outer)
      (.binary .exponent radicand (.binary .divide (.number .one) index false) false)
  | application (isCall : Bool) {name : String} {kinds argument}
    (hrole : roleOf vocabulary name = .function) (h : Derives vocabulary .operand kinds argument) :
    Derives vocabulary .named (nameToken isCall name :: kinds) (.apply name argument)
  | group {mark partner : Char} {kinds content}
    (hpartner : (Bracket.opening mark).partner? = some partner)
    (h : Derives vocabulary .sum kinds content) :
    Derives vocabulary .group
      (.bracket (.opening mark) :: kinds ++ [.bracket (.closing partner)]) content

/-- The tokens that are a formula, and the tree it stands for. Nothing is a formula without one. -/
inductive IsFormula (vocabulary : Vocabulary) : List Token.Kind → Option Expr → Prop
  | nothing : IsFormula vocabulary [] none
  | sum {kinds value} (h : Derives vocabulary .sum kinds value) :
    IsFormula vocabulary kinds (some value)
  | equation {left right lhs rhs} (hlhs : Derives vocabulary .sum left lhs)
    (hrhs : Derives vocabulary .sum right rhs) :
    IsFormula vocabulary (left ++ .equal :: right) (some (.equation lhs rhs))

/-- Whether a token after a phrase would make the phrase longer: the operators of its tier do, and
all that make a phrase of the next tier longer. -/
def Category.goesOn : Category → Token.Kind → Bool
  | .sum, kind =>
    kind = .operator .plus || kind = .operator .minus || kind = .operator .multiply ||
      kind.beginsFactor || kind = .operator .divide || kind = .operator .modulus ||
      kind = .operator .exponent || kind = .underscore
  | .product, kind =>
    kind = .operator .multiply || kind.beginsFactor || kind = .operator .divide ||
      kind = .operator .modulus || kind = .operator .exponent || kind = .underscore
  | .quotient, kind =>
    kind = .operator .divide || kind = .operator .modulus || kind = .operator .exponent ||
      kind = .underscore
  | .remainder, kind =>
    kind = .operator .modulus || kind = .operator .exponent || kind = .underscore
  | .power, kind => kind = .operator .exponent || kind = .underscore
  | .subscript, kind => kind = .underscore
  | .operand, _ | .named, _ | .group, _ => false

namespace Category

variable {kind : Token.Kind}

theorem goesOn_sum : goesOn .sum kind = false ↔
    kind ≠ .operator .plus ∧ kind ≠ .operator .minus ∧ goesOn .product kind = false := by
  simp [goesOn, and_assoc]

theorem goesOn_product : goesOn .product kind = false ↔
    kind ≠ .operator .multiply ∧ kind.beginsFactor = false ∧ goesOn .quotient kind = false := by
  simp [goesOn, and_assoc]

theorem goesOn_quotient : goesOn .quotient kind = false ↔
    kind ≠ .operator .divide ∧ goesOn .remainder kind = false := by
  simp [goesOn, and_assoc]

theorem goesOn_remainder : goesOn .remainder kind = false ↔
    kind ≠ .operator .modulus ∧ goesOn .power kind = false := by
  simp [goesOn, and_assoc]

theorem goesOn_power : goesOn .power kind = false ↔
    kind ≠ .operator .exponent ∧ goesOn .subscript kind = false := by
  simp [goesOn]

/-- A quotient ends where a factor begins. -/
theorem goesOn_quotient_of_beginsFactor (h : kind.beginsFactor = true) :
    goesOn .quotient kind = false := by
  cases kind <;> simp_all [goesOn, Token.Kind.beginsFactor]

end Category

section Lemmas

variable {vocabulary : Vocabulary} {category : Category} {kinds : List Token.Kind} {value : Expr}

theorem Derives.ne_nil (h : Derives vocabulary category kinds value) : kinds ≠ [] := by
  induction h with
  | juxtaposed hlhs hrhs hfactor ihl ihr => simp [ihl]
  | _ => simp_all

theorem endsClosed_append (left : List Token.Kind) {right : List Token.Kind} (h : right ≠ []) :
    endsClosed (left ++ right) = endsClosed right := by
  obtain ⟨front, last, rfl⟩ := List.eq_nil_or_concat right |>.resolve_left h
  simp [endsClosed, ← List.append_assoc]

@[simp] theorem endsClosed_cons_cons (first second : Token.Kind) (rest : List Token.Kind) :
    endsClosed (first :: second :: rest) = endsClosed (second :: rest) :=
  endsClosed_append [first] (List.cons_ne_nil _ _)

/-- A group is a phrase between two brackets. -/
theorem Derives.endsClosed_of_group (h : Derives vocabulary .group kinds value) :
    endsClosed kinds = true := by
  cases h with
  | group hpartner h =>
    rw [endsClosed_append _ (List.cons_ne_nil _ _)]
    rfl

/-- An operand that begins with a bracket is a group. -/
theorem Derives.group_of_bracket {bracket : Bracket}
    (h : Derives vocabulary .operand kinds value) (hhead : kinds.head? = some (.bracket bracket)) :
    Derives vocabulary .group kinds value := by
  cases h with
  | operand_of_group h => exact h
  | signed sign h => cases sign <;> simp [signToken] at hhead
  | operand_of_named h =>
    cases h <;> simp only [nameToken, List.head?_cons, List.cons_append] at hhead <;>
      split at hhead <;> simp at hhead
  | _ => simp at hhead

end Lemmas

end FormulaText.Grammar
