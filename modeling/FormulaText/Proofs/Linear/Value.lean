import FormulaText.Proofs.Arithmetic.Reading
import FormulaText.Proofs.Latex.Scanning

/-!
# The value of what was printed in the linear notation

The linear notation keeps the value of a sum if each minus keeps its meaning in it. A sum in brackets
that others follow, and brackets that come back around more than there was in them, are what changes
the meaning of a minus, and then there are values for the names and numbers that tell the two apart.
-/

namespace FormulaText.Linear

open Grammar Arithmetic

variable {text : String} {kinds : List Token.Kind} {expr : Expr}

/-- Atoms that differ can have any values. -/
theorem exists_map_eq {atoms : List Atom} {numbers : List Int} (hatoms : atoms.Nodup)
    (hlength : numbers.length = atoms.length) : ∃ values : Atom → Int, atoms.map values = numbers := by
  induction atoms generalizing numbers with
  | nil => exact ⟨fun _ ↦ 0, (List.length_eq_zero_iff.1 hlength).symm⟩
  | cons atom atoms ih =>
    cases numbers with
    | nil => contradiction
    | cons number numbers =>
      rw [List.nodup_cons] at hatoms
      obtain ⟨values, hvalues⟩ := ih hatoms.2 (Nat.succ.inj hlength)
      refine ⟨fun other ↦ if other = atom then number else values other, ?_⟩
      have hrest : atoms.map (fun other ↦ if other = atom then number else values other) =
          atoms.map values := by
        apply List.map_congr_left
        intro other hother
        apply if_neg
        rintro rfl
        exact hatoms.1 hother
      rw [List.map_cons, if_pos rfl, hrest, hvalues]

/-- The linear text of a written sum has the other value of the sum. -/
theorem value_linearKinds (values : Atom → Int) (formula : Written Atom .sum) :
    value values formula.expr.linearKinds = (formula.map values).printedParts.total :=
  (formula.adds_linearKinds values).2.value_eq

theorem value_kinds (values : Atom → Int) (formula : Written Atom .sum) :
    value values formula.kinds = (formula.map values).parts.total :=
  (formula.adds_kinds values).2.value_eq

/-- A sum that is kept has its value after printing, whatever the values of its atoms are. -/
theorem value_linearKinds_of_isKept {formula : Written Atom .sum} (h : formula.isKept = true)
    (values : Atom → Int) :
    value values formula.expr.linearKinds = value values formula.kinds := by
  rw [value_linearKinds, value_kinds]
  exact (Written.printedParts_of_isKept _ ((formula.isKept_map values).trans h)).1

/-- A sum that is not kept has another value after printing, for some values of its atoms. -/
theorem exists_value_linearKinds_ne {formula : Written Atom .sum} (h : formula.isKept = false)
    (hatoms : formula.leaves.Nodup) :
    ∃ values, value values formula.expr.linearKinds ≠ value values formula.kinds := by
  obtain ⟨other, hshape, hdiffers⟩ := formula.exists_differs h
  obtain ⟨values, hvalues⟩ := exists_map_eq hatoms (Written.length_leaves_of_shape hshape)
  have hother : other = formula.map values := Written.eq_map_of_leaves hshape hvalues.symm
  refine ⟨values, ?_⟩
  rw [value_linearKinds, value_kinds, ← hother]
  exact hdiffers.1

/-- A sum that was read in LaTeX keeps its value in the linear notation exactly if each minus keeps
its meaning there. If no atom stands twice, any other sum has values for which the two differ. -/
theorem value_toLinear_iff_isKept (hgives : Gives (Latex.scanner text) kinds)
    (hparse : Latex.parse text = .ok (some expr)) (harithmetic : isArithmetic kinds = true) :
    ∃ (formula : Written Atom .sum) (printed : List Token.Kind),
      formula.kinds = kinds ∧ formula.expr = expr ∧ Gives (scanner expr.toLinear) printed ∧
        (formula.isKept = true → ∀ values, value values printed = value values kinds) ∧
        (formula.isKept = false → formula.leaves.Nodup →
          ∃ values, value values printed ≠ value values kinds) := by
  have hformula : IsFormula .common kinds (some expr) := (parse_eq_ok_iff_of_gives hgives).1 hparse
  have hprinted := gives_toLinear (forall_isSpelled (Latex.isFormulaOf_of_parse hparse))
  have hwritten : ∃ formula : Written Atom .sum, formula.kinds = kinds ∧ formula.expr = expr := by
    cases hformula with
    | sum h => exact exists_written h harithmetic
    | equation hlhs hrhs =>
      have hequal := (all_append_of_isArithmetic harithmetic).1.2
      rw [List.all_cons, Bool.and_eq_true] at hequal
      exact absurd hequal.1 (by decide)
  obtain ⟨formula, rfl, rfl⟩ := hwritten
  exact ⟨formula, _, rfl, rfl, hprinted, value_linearKinds_of_isKept, exists_value_linearKinds_ne⟩

/-- A sum in brackets behind a minus, and others before it. -/
theorem value_toLinear_iff_isKept_difference :
    let kinds : List Token.Kind := [.symbol "a", .operator .minus, .symbol "d", .operator .minus,
      .bracket (.opening '('), .symbol "b", .operator .plus, .symbol "c", .bracket (.closing ')')]
    let expr := Expr.binary .minus (.symbol "a") (.binary .minus (.symbol "d")
      (.binary .plus (.symbol "b") (.symbol "c") false) true) true
    Gives (Latex.scanner "a-d-(b+c)") kinds ∧ Latex.parse "a-d-(b+c)" = .ok (some expr) ∧
      isArithmetic kinds = true ∧
      ∃ (formula : Written Atom .sum) (printed : List Token.Kind),
        formula.kinds = kinds ∧ formula.expr = expr ∧ Gives (scanner expr.toLinear) printed ∧
          (formula.isKept = true → ∀ values, value values printed = value values kinds) ∧
          (formula.isKept = false → formula.leaves.Nodup →
            ∃ values, value values printed ≠ value values kinds) := by
  intro kinds expr
  have hgives : Gives (Latex.scanner "a-d-(b+c)") kinds :=
    @gives_of_drain _ _ 10 _ _ (by decide) (by decide +kernel)
  have hparse : Latex.parse "a-d-(b+c)" = .ok (some expr) := eq_ok_of_toOption (by decide +kernel)
  have harithmetic : isArithmetic kinds = true := by decide
  exact ⟨hgives, hparse, harithmetic, value_toLinear_iff_isKept hgives hparse harithmetic⟩

/-- Brackets between two terms are lost, with the sign of what is in them: where each name has the
value one, the text is zero before printing and two afterwards. -/
theorem value_toLinear_ne :
    let kinds : List Token.Kind := [.symbol "a", .operator .minus, .bracket (.opening '('),
      .symbol "b", .operator .plus, .symbol "c", .bracket (.closing ')'), .operator .plus,
      .symbol "d"]
    let expr := Expr.binary .minus (.symbol "a") (.binary .plus
      (.binary .plus (.symbol "b") (.symbol "c") false) (.symbol "d") false) false
    Gives (Latex.scanner "a-(b+c)+d") kinds ∧ isArithmetic kinds = true ∧
      Latex.parse "a-(b+c)+d" = .ok (some expr) ∧ expr.toLinear = "a-b+c+d" ∧
      Gives (scanner expr.toLinear) expr.linearKinds ∧
      value (fun _ ↦ 1) kinds = 0 ∧ value (fun _ ↦ 1) expr.linearKinds = 2 := by
  intro kinds expr
  have hgives : Gives (Latex.scanner "a-(b+c)+d") kinds :=
    @gives_of_drain _ _ 10 _ _ (by decide) (by decide +kernel)
  have hparse : Latex.parse "a-(b+c)+d" = .ok (some expr) := eq_ok_of_toOption (by decide +kernel)
  have hprinted := gives_toLinear (forall_isSpelled (Latex.isFormulaOf_of_parse hparse))
  exact ⟨hgives, by decide, hparse, by decide, hprinted, by decide, by decide⟩

end FormulaText.Linear
