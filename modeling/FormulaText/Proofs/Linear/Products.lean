import FormulaText.Proofs.Arithmetic.Products
import FormulaText.Proofs.Latex.Scanning
import FormulaText.Proofs.Linear.Printing
import Mathlib.Algebra.Field.Rat

/-!
# The value of products and quotients that were printed

A formula of products, quotients and fractions is printed in the linear notation with brackets around
divisors only. Read from left to right, the text has the value of the formula, and this is also the
value of the LaTeX text that the formula was read from.
-/

namespace FormulaText.Linear

open Grammar Products

variable {F : Type*} [Field F] {values : Atom → F} {text : String} {kinds : List Token.Kind}
  {expr : Expr} {x : F}

/-- An operand has the same value with brackets around it. -/
theorem multiplies_enclosedIf (needed : Bool) (h : Multiplies values kinds x) :
    Multiplies values (enclosedIf needed kinds) x := by
  cases needed with
  | false => exact h
  | true => exact (h.inBrackets '(' ')').combines.multiplies

/-- A divisor is an operand, because an operation there has brackets. -/
theorem combines_divisor {grouped : Bool} (h : Multiplies values kinds x)
    (hoperand : expr.isBinary = false → Combines values kinds x) :
    Combines values (enclosedIf (Expr.needsBracketsRight .divide expr grouped) kinds) x := by
  cases hneeded : Expr.needsBracketsRight .divide expr grouped with
  | true => exact (h.inBrackets '(' ')').combines
  | false =>
    apply hoperand
    simp only [Expr.needsBracketsRight, Bool.or_eq_false_iff] at hneeded
    simpa using hneeded.1.1.1.2

theorem linearKinds_finite (magnitude : Magnitude) :
    (Expr.number (.finite false magnitude)).linearKinds = [.number (.finite false magnitude)] := by
  simp [Expr.linearKinds, Binary64.kinds]

/-- A printed formula has the value of the formula. -/
theorem multiplies_linearKinds (h : treeValue? values expr = some x) :
    Multiplies values expr.linearKinds x ∧
      (expr.isBinary = false → Combines values expr.linearKinds x) := by
  induction expr generalizing x with
  | number value =>
    match value, h with
    | .finite false magnitude, h =>
      obtain rfl := Option.some.inj h
      rw [linearKinds_finite]
      have hatom : Combines values [.number (.finite false magnitude)]
          (values (.number magnitude)) := (takes_atom rfl).combines
      exact ⟨hatom.multiplies, fun _ ↦ hatom⟩
  | symbol name =>
    obtain rfl := Option.some.inj h
    have hatom : Combines values [.symbol name] (values (.name name)) :=
      (takes_atom rfl).combines
    exact ⟨hatom.multiplies, fun _ ↦ hatom⟩
  | binary op lhs rhs grouped ihl ihr =>
    refine ⟨?_, fun hoperand ↦ absurd hoperand (by simp)⟩
    cases op with
    | multiply =>
      obtain ⟨y, hy, h⟩ := Option.bind_eq_some_iff.1 h
      obtain ⟨z, hz, h⟩ := Option.bind_eq_some_iff.1 h
      obtain rfl := Option.some.inj h
      exact (multiplies_enclosedIf _ (ihl hy).1).times (multiplies_enclosedIf _ (ihr hz).1)
    | divide =>
      obtain ⟨y, hy, h⟩ := Option.bind_eq_some_iff.1 h
      obtain ⟨z, hz, h⟩ := Option.bind_eq_some_iff.1 h
      obtain rfl := Option.some.inj h
      exact (multiplies_enclosedIf _ (ihl hy).1).divided (combines_divisor (ihr hz).1 (ihr hz).2)
    | plus | minus | modulus | exponent => contradiction
  | control | signed | apply | subscript | equation => contradiction

/-- Products and quotients that were read in LaTeX have the value of their tokens, read from left to
right, and so has the text that the linear notation prints for them. -/
theorem value_products_toLinear (hgives : Gives (Latex.scanner text) kinds)
    (hparse : Latex.parse text = .ok (some expr))
    (hkinds : ∀ kind ∈ kinds, kind.isMultiplicative = true) (values : Atom → F) :
    treeValue? values expr = some (value values kinds) ∧
      ∃ printed, Gives (scanner expr.toLinear) printed ∧
        value values printed = value values kinds := by
  have hformula : IsFormula .common kinds (some expr) := (parse_eq_ok_iff_of_gives hgives).1 hparse
  have hvalue : treeValue? values expr = some (value values kinds) := by
    cases hformula with
    | sum h =>
      obtain ⟨x, hx, hread⟩ := exists_treeValue? values h hkinds
      rw [hx, Multiplies.value_eq hread]
    | equation hlhs hrhs =>
      have hequal := hkinds .equal (List.mem_append_right _ List.mem_cons_self)
      contradiction
  have hprinted := gives_toLinear (forall_isSpelled (Latex.isFormulaOf_of_parse hparse))
  exact ⟨hvalue, _, hprinted, (multiplies_linearKinds hvalue).1.value_eq⟩

/-- Juxtaposed quotients, a fraction that divides by zero and is divided by, and a group. -/
theorem value_products_toLinear_fraction :
    let kinds : List Token.Kind := [.symbol "a", .operator .divide, .symbol "b", .symbol "c",
      .operator .divide, .control "frac", .bracket (.opening '{'), .symbol "d",
      .bracket (.closing '}'), .bracket (.opening '{'), .symbol "e", .symbol "a",
      .bracket (.closing '}'), .bracket (.opening '('), .symbol "b", .operator .multiply,
      .control "alpha", .bracket (.closing ')')]
    let expr := Expr.binary .multiply (.binary .divide (.symbol "a") (.symbol "b") false)
      (.binary .multiply
        (.binary .divide (.symbol "c")
          (.binary .divide (.symbol "d") (.binary .multiply (.symbol "e") (.symbol "a") false) false)
          false)
        (.binary .multiply (.symbol "b") (.symbol "alpha") false) false) false
    let values : Atom → ℚ := fun atom ↦ if atom = .name "e" then 0 else 3
    Gives (Latex.scanner "a/b c/\\frac\x7bd\x7d\x7be a\x7d(b*\\alpha )") kinds ∧
      Latex.parse "a/b c/\\frac\x7bd\x7d\x7be a\x7d(b*\\alpha )" = .ok (some expr) ∧
      (∀ kind ∈ kinds, kind.isMultiplicative = true) ∧
      treeValue? values expr = some (value values kinds) ∧
      ∃ printed, Gives (scanner expr.toLinear) printed ∧
        value values printed = value values kinds := by
  intro kinds expr values
  have hgives : Gives (Latex.scanner "a/b c/\\frac\x7bd\x7d\x7be a\x7d(b*\\alpha )") kinds :=
    @gives_of_drain _ _ 20 _ _ (by decide) (by decide +kernel)
  have hparse : Latex.parse "a/b c/\\frac\x7bd\x7d\x7be a\x7d(b*\\alpha )" = .ok (some expr) :=
    eq_ok_of_toOption (by decide +kernel)
  have hkinds : ∀ kind ∈ kinds, kind.isMultiplicative = true := by decide
  exact ⟨hgives, hparse, hkinds, value_products_toLinear hgives hparse hkinds values⟩

end FormulaText.Linear
