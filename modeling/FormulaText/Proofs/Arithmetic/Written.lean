import FormulaText.Expr.Operator

/-!
# Sums and products as they are written

A sum is written as terms with signs between them, and a term as factors, each of which is a leaf or
a sum in brackets. The value in the ordinary way adds the terms from left to right. The other value
here is the one that is left when brackets are kept or dropped by the shape of a tree in which sums
nest to the right: a term that is a sum in brackets loses them where it is no last one, and all that
follows a minus gets brackets if it ends in one. `isKept` says exactly when the two agree.
-/

namespace FormulaText

def Sign.unit : Sign → Int
  | .plus => 1
  | .minus => -1

namespace Arithmetic

inductive Tier where
  | factor
  | term
  | sum
deriving DecidableEq

/-- Sums, terms and factors as they are written, with leaves of some type. A product is `explicit` if
its sign is written. -/
inductive Written (α : Type) : Tier → Type
  | leaf (value : α) : Written α .factor
  | group (mark partner : Char) (content : Written α .sum) : Written α .factor
  | ofFactor (factor : Written α .factor) : Written α .term
  | product (explicit : Bool) (first : Written α .factor) (rest : Written α .term) :
    Written α .term
  | ofTerm (term : Written α .term) : Written α .sum
  | sum (sign : Sign) (first : Written α .term) (rest : Written α .sum) : Written α .sum

namespace Written

variable {α β : Type} {tier : Tier}

def map (f : α → β) : {tier : Tier} → Written α tier → Written β tier
  | _, leaf value => leaf (f value)
  | _, group mark partner content => group mark partner (content.map f)
  | _, ofFactor factor => ofFactor (factor.map f)
  | _, product explicit first rest => product explicit (first.map f) (rest.map f)
  | _, ofTerm term => ofTerm (term.map f)
  | _, sum sign first rest => sum sign (first.map f) (rest.map f)

def leaves : {tier : Tier} → Written α tier → List α
  | _, leaf value => [value]
  | _, group _ _ content => content.leaves
  | _, ofFactor factor => factor.leaves
  | _, product _ first rest => first.leaves ++ rest.leaves
  | _, ofTerm term => term.leaves
  | _, sum _ first rest => first.leaves ++ rest.leaves

/-- Whether this is a sum of several terms, in brackets or not. -/
def isSum : {tier : Tier} → Written α tier → Bool
  | _, leaf _ => false
  | _, group _ _ content => content.isSum
  | _, ofFactor factor => factor.isSum
  | _, product _ _ _ => false
  | _, ofTerm term => term.isSum
  | _, sum _ _ _ => true

/-- Whether this is a sum of several terms or a product of several factors, in brackets or not. -/
def isOperation : {tier : Tier} → Written α tier → Bool
  | _, leaf _ => false
  | _, group _ _ content => content.isOperation
  | _, ofFactor factor => factor.isOperation
  | _, product _ _ _ => true
  | _, ofTerm term => term.isOperation
  | _, sum _ _ _ => true

def endsClosed : {tier : Tier} → Written α tier → Bool
  | _, leaf _ => false
  | _, group _ _ _ => true
  | _, ofFactor factor => factor.endsClosed
  | _, product _ _ rest => rest.endsClosed
  | _, ofTerm term => term.endsClosed
  | _, sum _ _ rest => rest.endsClosed

def opensWithSum : {tier : Tier} → Written α tier → Bool
  | _, sum _ first _ => first.isSum
  | _, ofTerm term => term.isSum
  | _, ofFactor factor => factor.isSum
  | _, group _ _ content => content.isSum
  | _, product _ _ _ | _, leaf _ => false

/-- Whether a minus before a sum goes with the first term alone once the sum is printed. It does
before one term, and before several if the first is no sum in brackets and the last does not end in
a bracket. -/
def followsMinus : Written α .sum → Bool
  | ofTerm _ => true
  | sum _ first rest => !rest.endsClosed && !first.isSum

/-- Whether each minus keeps its meaning when this is printed. -/
def isKept : {tier : Tier} → Written α tier → Bool
  | _, leaf _ => true
  | _, group _ _ content => content.isKept
  | _, ofFactor factor => factor.isKept
  | _, product _ first rest => first.isKept && rest.isKept
  | _, ofTerm term => term.isKept
  | _, sum sign first rest =>
    first.isKept && rest.isKept && (sign = .plus || rest.followsMinus)

/-! ## Shapes -/

def shape (written : Written α tier) : Written Unit tier := written.map fun _ ↦ ()

section Shape

variable (f : α → β) (written : Written α tier)

@[simp] theorem shape_map : (written.map f).shape = written.shape := by
  unfold shape
  induction written with
  | leaf => rfl
  | group mark partner content ih => simp only [map, ih]
  | ofFactor factor ih => simp only [map, ih]
  | ofTerm term ih => simp only [map, ih]
  | product explicit first rest ihfirst ihrest => simp only [map, ihfirst, ihrest]
  | sum sign first rest ihfirst ihrest => simp only [map, ihfirst, ihrest]

@[simp] theorem isSum_map : (written.map f).isSum = written.isSum := by
  induction written with
  | leaf | product | sum => rfl
  | group mark partner content ih => exact ih
  | ofFactor factor ih => exact ih
  | ofTerm term ih => exact ih

@[simp] theorem isOperation_map : (written.map f).isOperation = written.isOperation := by
  induction written with
  | leaf | product | sum => rfl
  | group mark partner content ih => exact ih
  | ofFactor factor ih => exact ih
  | ofTerm term ih => exact ih

@[simp] theorem endsClosed_map : (written.map f).endsClosed = written.endsClosed := by
  induction written with
  | leaf | group => rfl
  | ofFactor factor ih => exact ih
  | ofTerm term ih => exact ih
  | product explicit first rest ihfirst ihrest => exact ihrest
  | sum sign first rest ihfirst ihrest => exact ihrest

theorem followsMinus_map (rest : Written α .sum) :
    (rest.map f).followsMinus = rest.followsMinus := by
  cases rest with
  | ofTerm => rfl
  | sum sign first rest => simp only [map, followsMinus, endsClosed_map, isSum_map]

@[simp] theorem isKept_map : (written.map f).isKept = written.isKept := by
  induction written with
  | leaf => rfl
  | group mark partner content ih => exact ih
  | ofFactor factor ih => exact ih
  | ofTerm term ih => exact ih
  | product explicit first rest ihfirst ihrest => simp only [map, isKept, ihfirst, ihrest]
  | sum sign first rest ihfirst ihrest =>
    simp only [map, isKept, ihfirst, ihrest, followsMinus_map]

end Shape

/-- The number of leaves belongs to the shape. -/
theorem length_leaves_shape (written : Written α tier) :
    written.shape.leaves.length = written.leaves.length := by
  unfold shape
  induction written with
  | leaf => rfl
  | group mark partner content ih => exact ih
  | ofFactor factor ih => exact ih
  | ofTerm term ih => exact ih
  | product explicit first rest ihfirst ihrest =>
    simp only [map, leaves, List.length_append, ihfirst, ihrest]
  | sum sign first rest ihfirst ihrest =>
    simp only [map, leaves, List.length_append, ihfirst, ihrest]

theorem length_leaves_of_shape {written : Written α tier} {other : Written β tier}
    (h : other.shape = written.shape) : other.leaves.length = written.leaves.length := by
  rw [← length_leaves_shape other, h, length_leaves_shape written]

/-- The shape and the leaves are all there is. -/
theorem eq_map_of_leaves {f : α → β} {written : Written α tier} {other : Written β tier}
    (hshape : other.shape = written.shape) (hleaves : other.leaves = written.leaves.map f) :
    other = written.map f := by
  induction written with
  | leaf value =>
    cases other with
    | leaf => simpa [leaves, map] using hleaves
    | group => simp [shape, map] at hshape
  | group mark partner content ih =>
    cases other with
    | leaf => simp [shape, map] at hshape
    | group mark partner other =>
      simp only [shape, map, group.injEq] at hshape
      obtain ⟨rfl, rfl, hcontent⟩ := hshape
      rw [map, ih hcontent hleaves]
  | ofFactor factor ih =>
    cases other with
    | ofFactor other =>
      simp only [shape, map, ofFactor.injEq] at hshape
      rw [map, ih hshape hleaves]
    | product => simp [shape, map] at hshape
  | ofTerm term ih =>
    cases other with
    | ofTerm other =>
      simp only [shape, map, ofTerm.injEq] at hshape
      rw [map, ih hshape hleaves]
    | sum => simp [shape, map] at hshape
  | product explicit first rest ihfirst ihrest =>
    cases other with
    | ofFactor => simp [shape, map] at hshape
    | product explicit otherFirst otherRest =>
      simp only [shape, map, product.injEq] at hshape
      obtain ⟨rfl, hfirst, hrest⟩ := hshape
      simp only [leaves, List.map_append] at hleaves
      have hlength := length_leaves_of_shape hfirst
      have hsplit := List.append_inj hleaves (by rw [hlength, List.length_map])
      rw [map, ihfirst hfirst hsplit.1, ihrest hrest hsplit.2]
  | sum sign first rest ihfirst ihrest =>
    cases other with
    | ofTerm => simp [shape, map] at hshape
    | sum sign otherFirst otherRest =>
      simp only [shape, map, sum.injEq] at hshape
      obtain ⟨rfl, hfirst, hrest⟩ := hshape
      simp only [leaves, List.map_append] at hleaves
      have hlength := length_leaves_of_shape hfirst
      have hsplit := List.append_inj hleaves (by rw [hlength, List.length_map])
      rw [map, ihfirst hfirst hsplit.1, ihrest hrest hsplit.2]

/-! ## Values -/

/-- The value of a sum in two parts, that of the first term and that of all others. A sign before
the sum goes with the first part only. -/
structure Parts where
  lead : Int
  tail : Int

namespace Parts

def total (parts : Parts) : Int := parts.lead + parts.tail

/-- The value behind a sign, without brackets. -/
def behind (parts : Parts) (sign : Sign) : Int := sign.unit * parts.lead + parts.tail

end Parts

/-- The value in the ordinary way. -/
def parts : {tier : Tier} → Written Int tier → Parts
  | _, leaf value => ⟨value, 0⟩
  | _, group _ _ content => ⟨content.parts.total, 0⟩
  | _, ofFactor factor => factor.parts
  | _, product _ first rest => ⟨first.parts.total * rest.parts.total, 0⟩
  | _, ofTerm term => term.parts
  | _, sum sign first rest => ⟨first.parts.total, rest.parts.behind sign⟩

/-- Whether all that follows a sign is printed in brackets. -/
def regroups (sign : Sign) (rest : Written α .sum) : Bool :=
  sign = .minus && (rest.isOperation && rest.endsClosed)

theorem regroups_map (f : α → β) (sign : Sign) (rest : Written α .sum) :
    regroups sign (rest.map f) = regroups sign rest := by
  simp only [regroups, isOperation_map, endsClosed_map]

def Parts.printedBehind (parts : Parts) (sign : Sign) (inBrackets : Bool) : Int :=
  if inBrackets then sign.unit * parts.total else parts.behind sign

/-- The value of what is printed. -/
def printedParts : {tier : Tier} → Written Int tier → Parts
  | _, leaf value => ⟨value, 0⟩
  | _, group _ _ content => content.printedParts
  | _, ofFactor factor => factor.printedParts
  | _, product _ first rest => ⟨first.printedParts.total * rest.printedParts.total, 0⟩
  | _, ofTerm term => term.printedParts
  | _, sum sign first rest =>
    ⟨first.printedParts.lead,
      first.printedParts.tail + rest.printedParts.printedBehind sign (regroups sign rest)⟩

end Written

end Arithmetic

end FormulaText
