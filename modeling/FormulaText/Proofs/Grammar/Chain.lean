import FormulaText.Proofs.Grammar.Tiers

/-!
# Chains of operands

Operands with an operator or the mark of an index between each two of them are a phrase, in whatever
order these come. So a printed formula can be read even where its brackets do not keep its meaning.
-/

namespace FormulaText.Grammar

/-- What stands between two operands: an operator, or the mark of an index. -/
inductive Link where
  | operator (op : Operator)
  | index
deriving DecidableEq

namespace Link

def kind : Link → Token.Kind
  | operator op => .operator op
  | index => .underscore

def tier : Link → Category
  | operator op => category op
  | index => .subscript

def tierBehind : Link → Category
  | operator op => rightCategory op
  | index => .subscript

end Link

/-- Operands with a link between each two of them. -/
inductive IsChain (vocabulary : Vocabulary) : List Token.Kind → Prop
  | operand {kinds} (h : IsPhrase vocabulary .operand kinds) : IsChain vocabulary kinds
  | linked {left right} (link : Link) (hleft : IsPhrase vocabulary .operand left)
    (hright : IsChain vocabulary right) : IsChain vocabulary (left ++ link.kind :: right)

variable {vocabulary : Vocabulary} {tier : Category} {kinds left right : List Token.Kind}
  {value : Expr} {link : Link}

theorem Link.rank_tierBehind (link : Link) :
    Category.subscript.rank ≤ link.tierBehind.rank := by
  cases link with
  | operator op => exact rank_rightCategory op
  | index => exact Nat.le_refl _

theorem IsPhrase.to_operand (h : IsPhrase vocabulary .group kinds) :
    IsPhrase vocabulary .operand kinds :=
  h.imp fun _ ↦ Derives.operand_of_group

theorem IsPhrase.loosen {tight : Category} (h : IsPhrase vocabulary tight kinds)
    (hrank : tight.rank ≤ tier.rank) (htier : Category.operand.rank ≤ tier.rank) :
    IsPhrase vocabulary tier kinds :=
  h.imp fun _ hvalue ↦ hvalue.loosen hrank htier

theorem IsPhrase.operation (op : Operator) (hleft : IsPhrase vocabulary (leftCategory op) left)
    (hright : IsPhrase vocabulary (rightCategory op) right) :
    IsPhrase vocabulary (category op) (left ++ .operator op :: right) := by
  obtain ⟨lhs, hlhs⟩ := hleft
  obtain ⟨rhs, hrhs⟩ := hright
  exact ⟨_, hlhs.operation op hrhs⟩

/-- An operand with a link before a phrase that is tight enough to stand behind the link. -/
theorem IsPhrase.linked (hleft : IsPhrase vocabulary .operand left)
    (h : IsPhrase vocabulary tier right) (htier : tier.rank ≤ link.tierBehind.rank) :
    IsPhrase vocabulary link.tier (left ++ link.kind :: right) := by
  have hright := h.loosen htier (Nat.le_of_lt link.rank_tierBehind)
  cases link with
  | operator op =>
    have hrank := Nat.le_of_lt (rank_leftCategory op)
    exact (hleft.loosen hrank hrank).operation op hright
  | index =>
    obtain ⟨base, hbase⟩ := hleft
    obtain ⟨index, hindex⟩ := hright
    exact ⟨_, .indexed hbase hindex⟩

/-- A link goes into the left operand of an operation, or the operation may stand behind it. -/
theorem Link.rank_leftCategory_or (link : Link) (op : Operator) :
    link.tier.rank ≤ (leftCategory op).rank ∨ (category op).rank ≤ link.tierBehind.rank := by
  cases link with
  | operator other => cases other <;> cases op <;> decide
  | index => cases op <;> decide

theorem Link.rank_tier (link : Link) : Category.operand.rank ≤ link.tier.rank := by
  cases link with
  | operator op => cases op <;> decide
  | index => decide

/-- A phrase that may stand behind a link, as one of a looser tier than the two. -/
theorem IsPhrase.linkedLoosely (hleft : IsPhrase vocabulary .operand left)
    (h : IsPhrase vocabulary tier right) (htier : tier.rank ≤ link.tierBehind.rank)
    {loose : Category} (hlink : link.tier.rank ≤ loose.rank) :
    IsPhrase vocabulary loose (left ++ link.kind :: right) :=
  (hleft.linked h htier).loosen hlink (Nat.le_trans link.rank_tier hlink)

/-- An operand and a link before an operation. The link binds tighter than the operator and goes
into its left operand, or it takes the whole operation. -/
theorem IsPhrase.prependOperation (op : Operator) {lhs rhs : List Token.Kind} {loose : Category}
    (hleft : IsPhrase vocabulary .operand left) (hlhs : IsPhrase vocabulary (leftCategory op) lhs)
    (hrhs : IsPhrase vocabulary (rightCategory op) rhs)
    (hinto : link.tier.rank ≤ (leftCategory op).rank →
      IsPhrase vocabulary (leftCategory op) (left ++ link.kind :: lhs))
    (htier : (category op).rank ≤ loose.rank) (hlink : link.tier.rank ≤ loose.rank) :
    IsPhrase vocabulary loose (left ++ link.kind :: (lhs ++ .operator op :: rhs)) := by
  rcases link.rank_leftCategory_or op with hrank | hrank
  · have hoperation := (hinto hrank).operation op hrhs
    rw [List.append_assoc, List.cons_append] at hoperation
    exact hoperation.loosen htier (Nat.le_trans link.rank_tier hlink)
  · exact hleft.linkedLoosely (hlhs.operation op hrhs) hrank hlink

/-- An operand and a link before any phrase make a phrase, which is no looser than the two. -/
theorem IsPhrase.prepend (hleft : IsPhrase vocabulary .operand left) (link : Link)
    {loose : Category} (h : Derives vocabulary tier right value) (htier : tier.rank ≤ loose.rank)
    (hlink : link.tier.rank ≤ loose.rank) :
    IsPhrase vocabulary loose (left ++ link.kind :: right) := by
  have htight {tight : Category} {kinds : List Token.Kind} {value : Expr} {loose : Category}
      (hphrase : Derives vocabulary tight kinds value)
      (hrank : tight.rank ≤ Category.subscript.rank) (hlink : link.tier.rank ≤ loose.rank) :
      IsPhrase vocabulary loose (left ++ link.kind :: kinds) :=
    hleft.linkedLoosely ⟨_, hphrase⟩ (Nat.le_trans hrank link.rank_tierBehind) hlink
  induction h generalizing loose with
  | sum_of_product h ih | product_of_quotient h ih | quotient_of_remainder h ih
  | remainder_of_power h ih | power_of_subscript h ih | subscript_of_operand h ih
  | operand_of_named h ih | operand_of_group h ih =>
    exact ih (Nat.le_trans (by decide) htier) hlink
  | plus hlhs hrhs ih =>
    exact hleft.prependOperation .plus ⟨_, hlhs⟩ ⟨_, hrhs⟩ (ih (Nat.le_refl _)) htier hlink
  | minus hlhs hrhs ih =>
    exact hleft.prependOperation .minus ⟨_, hlhs⟩ ⟨_, hrhs⟩ (ih (Nat.le_refl _)) htier hlink
  | times hlhs hrhs ih =>
    exact hleft.prependOperation .multiply ⟨_, hlhs⟩ ⟨_, hrhs⟩ (ih (Nat.le_refl _)) htier hlink
  | divided hlhs hrhs ih =>
    exact hleft.prependOperation .divide ⟨_, hlhs⟩ ⟨_, hrhs⟩ (ih (Nat.le_refl _)) htier hlink
  | modulo hlhs hrhs ih =>
    exact hleft.prependOperation .modulus ⟨_, hlhs⟩ ⟨_, hrhs⟩ (ih (Nat.le_refl _)) htier hlink
  | raised hlhs hrhs ih =>
    exact hleft.prependOperation .exponent ⟨_, hlhs⟩ ⟨_, hrhs⟩ (ih (Nat.le_refl _)) htier hlink
  | juxtaposed hlhs hrhs hfactor ih =>
    rcases link.rank_leftCategory_or .multiply with hrank | hrank
    · obtain ⟨lhs, hlhs⟩ := ih (Nat.le_refl _) hrank
      have hproduct := hlhs.juxtaposed hrhs hfactor
      rw [List.append_assoc, List.cons_append] at hproduct
      exact ⟨_, hproduct.loosen htier (Nat.le_trans link.rank_tier hlink)⟩
    · exact hleft.linkedLoosely ⟨_, hlhs.juxtaposed hrhs hfactor⟩ hrank hlink
  | indexed hbase hindex => exact htight (hbase.indexed hindex) (by decide) hlink
  | number value => exact htight (.number value) (by decide) hlink
  | symbol name => exact htight (.symbol name) (by decide) hlink
  | signed sign h => exact htight (h.signed sign) (by decide) hlink
  | plain isCall hrole => exact htight (.plain isCall hrole) (by decide) hlink
  | fraction isCall hrole habove hbelow =>
    exact htight (.fraction isCall hrole habove hbelow) (by decide) hlink
  | root isCall hrole h hopen => exact htight (.root isCall hrole h hopen) (by decide) hlink
  | indexedRoot isCall hrole hindex h =>
    exact htight (.indexedRoot isCall hrole hindex h) (by decide) hlink
  | application isCall hrole h => exact htight (.application isCall hrole h) (by decide) hlink
  | group hpartner h => exact htight (.group hpartner h) (by decide) hlink

/-! ## Chains -/

/-- A chain is a phrase, whatever its links are. -/
theorem IsChain.isPhrase (h : IsChain vocabulary kinds) : IsPhrase vocabulary .sum kinds := by
  induction h with
  | operand h => exact h.to_sum
  | linked link hleft hright ih =>
    obtain ⟨value, hvalue⟩ := ih
    have hlink : link.tier.rank ≤ Category.sum.rank := by cases link.tier <;> decide
    exact hleft.prepend link hvalue (Nat.le_refl _) hlink

theorem IsChain.append (hleft : IsChain vocabulary left) (link : Link)
    (hright : IsChain vocabulary right) : IsChain vocabulary (left ++ link.kind :: right) := by
  induction hleft with
  | operand h => exact .linked link h hright
  | linked first hfirst hrest ih =>
    rw [List.append_assoc, List.cons_append]
    exact .linked first hfirst ih

/-- A minus before a chain is one before its first operand. -/
theorem IsChain.behindMinus (h : IsChain vocabulary kinds) :
    IsChain vocabulary (.operator .minus :: kinds) := by
  have hsigned {operand : List Token.Kind} (hoperand : IsPhrase vocabulary .operand operand) :
      IsPhrase vocabulary .operand (.operator .minus :: operand) := by
    obtain ⟨value, hvalue⟩ := hoperand
    exact ⟨_, hvalue.signed .minus⟩
  cases h with
  | operand h => exact .operand (hsigned h)
  | linked link hleft hright => exact .linked link (hsigned hleft) hright

theorem IsChain.enclosed (h : IsChain vocabulary kinds) :
    IsPhrase vocabulary .group (enclosedIf true kinds) :=
  h.isPhrase.imp fun _ ↦ Derives.inParentheses

theorem IsChain.braced (h : IsChain vocabulary kinds) :
    IsPhrase vocabulary .group (inBraces kinds) :=
  h.isPhrase.imp fun _ ↦ Derives.inBraces

theorem IsChain.enclosedIf (h : IsChain vocabulary kinds) (needed : Bool) :
    IsChain vocabulary (enclosedIf needed kinds) := by
  cases needed with
  | true => exact .operand h.enclosed.to_operand
  | false => exact h

end FormulaText.Grammar
