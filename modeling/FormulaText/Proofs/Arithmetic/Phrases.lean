import FormulaText.Proofs.Arithmetic.Kept
import FormulaText.Proofs.Arithmetic.Value
import FormulaText.Proofs.Linear.Printing

/-!
# Written sums, their tokens and their trees

The tokens of a written sum have its value in the ordinary way, and the tokens that are printed for
its tree have the other value, in which brackets are kept or dropped by the shape of the tree.
-/

namespace FormulaText

open Grammar

namespace Atom

def kind : Atom → Token.Kind
  | number magnitude => .number (.finite false magnitude)
  | name text => .symbol text

def expr : Atom → Expr
  | number magnitude => .number (.finite false magnitude)
  | name text => .symbol text

theorem atom?_kind (atom : Atom) : atom.kind.atom? = some atom := by
  cases atom <;> rfl

end Atom

namespace Arithmetic.Written

variable {tier : Tier}

def kinds : {tier : Tier} → Written Atom tier → List Token.Kind
  | _, leaf atom => [atom.kind]
  | _, group mark partner content =>
    .bracket (.opening mark) :: content.kinds ++ [.bracket (.closing partner)]
  | _, ofFactor factor => factor.kinds
  | _, product explicit first rest =>
    first.kinds ++ if explicit then .operator .multiply :: rest.kinds else rest.kinds
  | _, ofTerm term => term.kinds
  | _, sum sign first rest => first.kinds ++ .operator sign.operator :: rest.kinds

def expr : {tier : Tier} → Written Atom tier → Expr
  | _, leaf atom => atom.expr
  | _, group _ _ content => content.expr
  | _, ofFactor factor => factor.expr
  | _, product _ first rest => .binary .multiply first.expr rest.expr false
  | _, ofTerm term => term.expr
  | _, sum sign first rest => .binary sign.operator first.expr rest.expr (regroups sign rest)

theorem kinds_ne_nil (written : Written Atom tier) : written.kinds ≠ [] := by
  induction written with
  | leaf | group | sum => simp [kinds]
  | ofFactor factor ih => exact ih
  | ofTerm term ih => exact ih
  | product explicit first rest ihfirst ihrest => simp [kinds, ihfirst]

theorem endsClosed_kinds (written : Written Atom tier) :
    Grammar.endsClosed written.kinds = written.endsClosed := by
  induction written with
  | leaf atom => cases atom <;> rfl
  | group mark partner content ih => exact endsClosed_append _ (List.cons_ne_nil _ _)
  | ofFactor factor ih => exact ih
  | ofTerm term ih => exact ih
  | product explicit first rest ihfirst ihrest =>
    have hrest := endsClosed_append [.operator .multiply] (kinds_ne_nil rest)
    cases explicit with
    | false => exact (endsClosed_append _ (kinds_ne_nil rest)).trans ihrest
    | true => exact (endsClosed_append _ (List.cons_ne_nil _ _)).trans (hrest.trans ihrest)
  | sum sign first rest ihfirst ihrest =>
    have hrest := endsClosed_append [.operator sign.operator] (kinds_ne_nil rest)
    exact (endsClosed_append _ (List.cons_ne_nil _ _)).trans (hrest.trans ihrest)

theorem isBinary_expr (written : Written Atom tier) :
    written.expr.isBinary = written.isOperation := by
  induction written with
  | leaf atom => cases atom <;> rfl
  | group mark partner content ih => exact ih
  | ofFactor factor ih => exact ih
  | ofTerm term ih => exact ih
  | product | sum => rfl

/-- Sums are the only operations that bind looser than products. -/
theorem isLooser_expr (written : Written Atom tier) :
    written.expr.isLooser .multiply = written.isSum := by
  induction written with
  | leaf atom => cases atom <;> rfl
  | group mark partner content ih => exact ih
  | ofFactor factor ih => exact ih
  | ofTerm term ih => exact ih
  | product => rfl
  | sum sign => cases sign <;> rfl

theorem isSigned_expr (written : Written Atom tier) : written.expr.isSigned = false := by
  induction written with
  | leaf atom => cases atom <;> rfl
  | group mark partner content ih => exact ih
  | ofFactor factor ih => exact ih
  | ofTerm term ih => exact ih
  | product | sum => rfl

/-- No operation binds looser than a sum. -/
theorem not_isLooser_sign (sign : Sign) (expr : Expr) : expr.isLooser sign.operator = false := by
  have htier : sign.operator.tier = 0 := by cases sign <;> rfl
  rw [Expr.isLooser, htier]
  cases expr.operator? <;> rfl

/-! ## Values of tokens -/

variable {values : Atom → Int}

/-- A written sum is read with its value in the ordinary way. -/
theorem adds_kinds (values : Atom → Int) (written : Written Atom tier) :
    (tier ≠ .sum → Multiplies values written.kinds (written.map values).parts.total) ∧
      Adds values written.kinds (written.map values).parts := by
  induction written with
  | leaf atom =>
    have hatom := multiplies_atom values atom.atom?_kind
    have htotal : ((leaf atom).map values).parts.total = values atom := Int.add_zero _
    exact ⟨fun _ ↦ htotal ▸ hatom, hatom.adds⟩
  | group mark partner content ih =>
    have hgroup := ih.2.inBrackets mark partner
    have htotal : ((group mark partner content).map values).parts.total =
        (content.map values).parts.total := Int.add_zero _
    exact ⟨fun _ ↦ htotal ▸ hgroup, hgroup.adds⟩
  | ofFactor factor ih => exact ⟨fun _ ↦ ih.1 (by decide), ih.2⟩
  | ofTerm term ih => exact ⟨fun h ↦ absurd rfl h, ih.2⟩
  | product explicit first rest ihfirst ihrest =>
    have hrest := ihrest.1 (by decide)
    have hproduct : Multiplies values (product explicit first rest).kinds
        ((first.map values).parts.total * (rest.map values).parts.total) := by
      cases explicit with
      | false => exact (ihfirst.1 (by decide)).append hrest
      | true => exact (ihfirst.1 (by decide)).append hrest.behindSign
    have htotal : ((product explicit first rest).map values).parts.total =
        (first.map values).parts.total * (rest.map values).parts.total := Int.add_zero _
    exact ⟨fun _ ↦ htotal ▸ hproduct, hproduct.adds⟩
  | sum sign first rest ihfirst ihrest =>
    refine ⟨fun h ↦ absurd rfl h, ?_⟩
    have hsum := (ihfirst.1 (by decide)).adds.signed sign ihrest.2
    rw [Int.zero_add] at hsum
    exact hsum

/-- An operand is printed with brackets around it if it is a sum. -/
theorem multiplies_enclosedIf {values : Atom → Int} {written : Written Atom tier}
    {printed : List Token.Kind} {parts : Parts}
    (hsingle : written.isSum = false → Multiplies values printed parts.total)
    (hsum : Adds values printed parts) :
    Multiplies values (enclosedIf written.isSum printed) parts.total := by
  cases h : written.isSum with
  | false => exact hsingle h
  | true => exact hsum.inBrackets '(' ')'

/-- What is printed for the tree of a written sum is read with the other value. -/
theorem adds_linearKinds (values : Atom → Int) (written : Written Atom tier) :
    (written.isSum = false →
      Multiplies values written.expr.linearKinds (written.map values).printedParts.total) ∧
      Adds values written.expr.linearKinds (written.map values).printedParts := by
  induction written with
  | leaf atom =>
    have hatom : Multiplies values atom.expr.linearKinds (values atom) := by
      cases atom with
      | number magnitude =>
        have hkinds : (Atom.number magnitude).expr.linearKinds =
            [.number (.finite false magnitude)] := by
          simp [Atom.expr, Expr.linearKinds, Binary64.kinds]
        rw [hkinds]
        exact multiplies_atom values rfl
      | name text => exact multiplies_atom values rfl
    have htotal : ((leaf atom).map values).printedParts.total = values atom := Int.add_zero _
    exact ⟨fun _ ↦ htotal ▸ hatom, hatom.adds⟩
  | group mark partner content ih => exact ih
  | ofFactor factor ih => exact ih
  | ofTerm term ih => exact ih
  | product explicit first rest ihfirst ihrest =>
    have hleft : Expr.needsBracketsLeft .multiply first.expr = first.isSum := by
      rw [Expr.needsBracketsLeft, isLooser_expr]
      exact Bool.or_false _
    have hright : Expr.needsBracketsRight .multiply rest.expr false = rest.isSum := by
      rw [Expr.needsBracketsRight, isLooser_expr, isSigned_expr]
      simp
    have hproduct := (multiplies_enclosedIf ihfirst.1 ihfirst.2).append
      (multiplies_enclosedIf ihrest.1 ihrest.2).behindSign
    have htotal : ((product explicit first rest).map values).printedParts.total =
        (first.map values).printedParts.total * (rest.map values).printedParts.total :=
      Int.add_zero _
    rw [expr, Expr.linearKinds, hleft, hright]
    exact ⟨fun _ ↦ htotal ▸ hproduct, hproduct.adds⟩
  | sum sign first rest ihfirst ihrest =>
    have hleft : Expr.needsBracketsLeft sign.operator first.expr = false := by
      rw [Expr.needsBracketsLeft, not_isLooser_sign]
      cases sign <;> rfl
    have hright : Expr.needsBracketsRight sign.operator rest.expr (regroups sign rest) =
        regroups sign rest := by
      rw [Expr.needsBracketsRight, not_isLooser_sign, isSigned_expr]
      cases sign <;> simp [Sign.operator]
    have hbehind : Adds values
        (first.expr.linearKinds ++
          .operator sign.operator :: enclosedIf (regroups sign rest) rest.expr.linearKinds)
        ((sum sign first rest).map values).printedParts := by
      rw [map, printedParts, regroups_map]
      cases regroups sign rest with
      | false => exact ihfirst.2.signed sign ihrest.2
      | true =>
        have hgroup := (ihrest.2.inBrackets '(' ')').adds
        have hsum := ihfirst.2.signed sign hgroup
        rw [Parts.behind, Int.add_zero] at hsum
        exact hsum
    rw [expr, Expr.linearKinds, hleft, hright]
    exact ⟨fun hsum ↦ Bool.noConfusion hsum, hbehind⟩

end Arithmetic.Written

end FormulaText
