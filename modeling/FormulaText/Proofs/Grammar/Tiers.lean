import FormulaText.Expr.Precedence
import FormulaText.Proofs.Grammar.Phrase

/-!
# Phrases in the tiers of operators

A phrase of a tight tier is also one of each looser tier, and brackets make any phrase tight. An
operator takes operands of its own tiers on its two sides.
-/

namespace FormulaText.Grammar

/-- The place of a category among the tiers, where looser ones come later. -/
def Category.rank : Category → Nat
  | .named | .group => 0
  | .operand => 1
  | .subscript => 2
  | .power => 3
  | .remainder => 4
  | .quotient => 5
  | .product => 6
  | .sum => 7

def category : Operator → Category
  | .plus | .minus => .sum
  | .multiply => .product
  | .divide => .quotient
  | .modulus => .remainder
  | .exponent => .power

def leftCategory : Operator → Category
  | .plus | .minus => .product
  | .multiply | .divide => .quotient
  | .modulus => .power
  | .exponent => .subscript

def rightCategory : Operator → Category
  | .plus | .minus => .sum
  | .multiply => .product
  | .divide | .modulus => .remainder
  | .exponent => .power

def enclosedIf (needed : Bool) (kinds : List Token.Kind) : List Token.Kind :=
  if needed then .bracket (.opening '(') :: kinds ++ [.bracket (.closing ')')] else kinds

def inBraces (kinds : List Token.Kind) : List Token.Kind :=
  .bracket (.opening '{') :: kinds ++ [.bracket (.closing '}')]

variable {vocabulary : Vocabulary} {tier tight : Category} {kinds left right : List Token.Kind}
  {value lhs rhs : Expr}

section Loosen

variable (h : Derives vocabulary tight kinds value)

include h

theorem Derives.to_operand (hrank : tight.rank ≤ Category.operand.rank) :
    Derives vocabulary .operand kinds value := by
  cases tight with
  | operand => exact h
  | named => exact .operand_of_named h
  | group => exact .operand_of_group h
  | sum | product | quotient | remainder | power | subscript => exact absurd hrank (by decide)

theorem Derives.to_subscript (hrank : tight.rank ≤ Category.subscript.rank) :
    Derives vocabulary .subscript kinds value := by
  cases tight with
  | subscript => exact h
  | operand | named | group => exact .subscript_of_operand (h.to_operand (by decide))
  | sum | product | quotient | remainder | power => exact absurd hrank (by decide)

theorem Derives.to_power (hrank : tight.rank ≤ Category.power.rank) :
    Derives vocabulary .power kinds value := by
  cases tight with
  | power => exact h
  | subscript | operand | named | group => exact .power_of_subscript (h.to_subscript (by decide))
  | sum | product | quotient | remainder => exact absurd hrank (by decide)

theorem Derives.to_remainder (hrank : tight.rank ≤ Category.remainder.rank) :
    Derives vocabulary .remainder kinds value := by
  cases tight with
  | remainder => exact h
  | power | subscript | operand | named | group =>
    exact .remainder_of_power (h.to_power (by decide))
  | sum | product | quotient => exact absurd hrank (by decide)

theorem Derives.to_quotient (hrank : tight.rank ≤ Category.quotient.rank) :
    Derives vocabulary .quotient kinds value := by
  cases tight with
  | quotient => exact h
  | remainder | power | subscript | operand | named | group =>
    exact .quotient_of_remainder (h.to_remainder (by decide))
  | sum | product => exact absurd hrank (by decide)

theorem Derives.to_product (hrank : tight.rank ≤ Category.product.rank) :
    Derives vocabulary .product kinds value := by
  cases tight with
  | product => exact h
  | quotient | remainder | power | subscript | operand | named | group =>
    exact .product_of_quotient (h.to_quotient (by decide))
  | sum => exact absurd hrank (by decide)

/-- Each phrase is a sum. -/
theorem Derives.to_sum : Derives vocabulary .sum kinds value := by
  cases tight with
  | sum => exact h
  | product | quotient | remainder | power | subscript | operand | named | group =>
    exact .sum_of_product (h.to_product (by decide))

/-- A phrase of a tier is one of each looser tier. -/
theorem Derives.loosen (hrank : tight.rank ≤ tier.rank)
    (htier : Category.operand.rank ≤ tier.rank) : Derives vocabulary tier kinds value := by
  cases tier with
  | operand => exact h.to_operand hrank
  | subscript => exact h.to_subscript hrank
  | power => exact h.to_power hrank
  | remainder => exact h.to_remainder hrank
  | quotient => exact h.to_quotient hrank
  | product => exact h.to_product hrank
  | sum => exact h.to_sum
  | named | group => exact absurd htier (by decide)

theorem Derives.inParentheses :
    Derives vocabulary .group
      (.bracket (.opening '(') :: kinds ++ [.bracket (.closing ')')]) value :=
  .group rfl h.to_sum

theorem Derives.inBraces : Derives vocabulary .group (inBraces kinds) value :=
  .group rfl h.to_sum

/-- With brackets where they are needed, a phrase is one of a tier that it is too loose for. -/
theorem Derives.enclosed {needed : Bool} (htier : Category.operand.rank ≤ tier.rank)
    (hrank : needed = false → tight.rank ≤ tier.rank) :
    Derives vocabulary tier (enclosedIf needed kinds) value := by
  cases needed with
  | true => exact h.inParentheses.loosen (Nat.zero_le _) htier
  | false => exact h.loosen (hrank rfl) htier

end Loosen

def IsPhrase (vocabulary : Vocabulary) (category : Category) (kinds : List Token.Kind) : Prop :=
  ∃ value, Derives vocabulary category kinds value

theorem IsPhrase.to_sum (h : IsPhrase vocabulary tier kinds) : IsPhrase vocabulary .sum kinds :=
  h.imp fun _ ↦ Derives.to_sum

/-- An operation, whose minus is grouped if its right operand is an operation that ends in a closing
bracket. -/
theorem Derives.operation (op : Operator) (hlhs : Derives vocabulary (leftCategory op) left lhs)
    (hrhs : Derives vocabulary (rightCategory op) right rhs) :
    Derives vocabulary (category op) (left ++ .operator op :: right)
      (.binary op lhs rhs (op = .minus && (rhs.isBinary && endsClosed right))) := by
  cases op with
  | plus => exact .plus hlhs hrhs
  | minus => exact .minus hlhs hrhs
  | multiply => exact .times hlhs hrhs
  | divide => exact .divided hlhs hrhs
  | modulus => exact .modulo hlhs hrhs
  | exponent => exact .raised hlhs hrhs

theorem rank_leftCategory (op : Operator) :
    Category.subscript.rank ≤ (leftCategory op).rank := by
  cases op <;> decide

theorem rank_rightCategory (op : Operator) :
    Category.subscript.rank ≤ (rightCategory op).rank := by
  cases op <;> decide

@[simp] theorem endsClosed_enclosedIf_true : endsClosed (enclosedIf true kinds) = true := by
  change endsClosed (_ ++ [_]) = true
  rw [endsClosed_append _ (List.cons_ne_nil _ _)]
  rfl

@[simp] theorem enclosedIf_false : enclosedIf false kinds = kinds := rfl

theorem enclosedIf_ne_nil {needed : Bool} (h : kinds ≠ []) : enclosedIf needed kinds ≠ [] := by
  cases needed with
  | true => exact List.cons_ne_nil _ _
  | false => exact h

theorem head?_enclosedIf_true :
    (enclosedIf true kinds).head? = some (.bracket (.opening '(')) := rfl

theorem head?_inBraces : (inBraces kinds).head? = some (.bracket (.opening '{')) := rfl

theorem endsClosed_inBraces : endsClosed (inBraces kinds) = true := by
  rw [inBraces, endsClosed_append _ (List.cons_ne_nil _ _)]
  rfl

end FormulaText.Grammar
