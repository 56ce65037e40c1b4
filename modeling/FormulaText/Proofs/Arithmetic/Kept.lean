import FormulaText.Proofs.Arithmetic.Written

/-!
# When printing keeps the value of sums

If each minus keeps its meaning, the two values of a written sum agree. Otherwise leaves can be
chosen so that they differ: zero everywhere but at one term whose sign is lost.
-/

namespace FormulaText.Arithmetic.Written

variable {α : Type} {tier : Tier}

/-- A sum in brackets is an operation that ends in a bracket. -/
theorem regroups_of_isSum {term : Written α .term} (h : term.isSum = true) :
    regroups .minus (.ofTerm term) = true := by
  have hoperation {tier : Tier} (written : Written α tier) (h : written.isSum = true) :
      written.isOperation = true := by
    induction written with
    | leaf => contradiction
    | product | sum => rfl
    | group mark partner content ih => exact ih h
    | ofFactor factor ih => exact ih h
    | ofTerm term ih => exact ih h
  cases term with
  | product => contradiction
  | ofFactor factor =>
    cases factor with
    | leaf => contradiction
    | group mark partner content =>
      have hcontent : content.isOperation = true := hoperation content h
      simp [regroups, isOperation, endsClosed, hcontent]

/-! ## Parts of one term -/

theorem tail_parts (written : Written Int tier) (h : tier ≠ .sum) : written.parts.tail = 0 := by
  induction written with
  | leaf | group | product => rfl
  | ofFactor factor ih => exact ih (by decide)
  | ofTerm | sum => exact absurd rfl h

theorem tail_parts_of_isSum (written : Written Int tier) (h : written.isSum = false) :
    written.parts.tail = 0 := by
  induction written with
  | leaf | group | product => rfl
  | ofFactor factor ih => exact ih h
  | ofTerm term ih => exact ih h
  | sum => contradiction

theorem tail_printedParts_of_isSum (written : Written Int tier) (h : written.isSum = false) :
    written.printedParts.tail = 0 := by
  induction written with
  | leaf | product => rfl
  | group mark partner content ih => exact ih h
  | ofFactor factor ih => exact ih h
  | ofTerm term ih => exact ih h
  | sum => contradiction

/-- What is no sum has its whole value in the first part. -/
theorem lead_eq_of_total_eq {written : Written Int tier} (h : written.isSum = false)
    (htotal : written.printedParts.total = written.parts.total) :
    written.printedParts.lead = written.parts.lead := by
  have htail := tail_parts_of_isSum written h
  have hprinted := tail_printedParts_of_isSum written h
  simp only [Parts.total] at htotal
  omega

/-! ## Kept values -/

theorem opensWithSum_of_followsMinus {rest : Written α .sum} (h : rest.followsMinus = true)
    (hopen : regroups .minus rest = false) : rest.opensWithSum = false := by
  cases rest with
  | ofTerm term =>
    cases hsum : term.isSum with
    | false => exact hsum
    | true =>
      rw [regroups_of_isSum hsum] at hopen
      contradiction
  | sum sign first rest =>
    simp only [followsMinus, Bool.and_eq_true, Bool.not_eq_true'] at h
    exact h.2

/-- What a minus puts in brackets is one term. -/
theorem tail_parts_of_followsMinus {rest : Written Int .sum} (h : rest.followsMinus = true)
    (hregroups : regroups .minus rest = true) : rest.parts.tail = 0 := by
  cases rest with
  | ofTerm term => exact tail_parts term (by decide)
  | sum sign first rest =>
    simp only [followsMinus, Bool.and_eq_true, Bool.not_eq_true'] at h
    simp [regroups, endsClosed, h.1] at hregroups

/-- Behind a plus, or behind a minus that puts all in brackets, both values are the whole one with
the sign. -/
theorem printedBehind_of_whole {sign : Sign} {rest : Written Int .sum}
    (hsign : sign = .plus ∨ rest.followsMinus = true)
    (hwhole : sign = .plus ∨ regroups sign rest = true) :
    rest.printedParts.printedBehind sign (regroups sign rest) =
        sign.unit * rest.printedParts.total ∧
      rest.parts.behind sign = sign.unit * rest.parts.total := by
  cases sign with
  | plus =>
    have hopen : regroups .plus rest = false := rfl
    simp only [hopen, Parts.printedBehind, Parts.behind, Parts.total, Sign.unit, Bool.false_eq_true,
      if_false]
    omega
  | minus =>
    have hregroups : regroups .minus rest = true := by simpa using hwhole
    have htail := tail_parts_of_followsMinus (by simpa using hsign) hregroups
    refine ⟨by rw [hregroups]; rfl, ?_⟩
    simp only [Parts.behind, Parts.total, Sign.unit]
    omega

/-- What stands behind a sign keeps its value if the sum there does. -/
theorem printedBehind_eq {sign : Sign} {rest : Written Int .sum}
    (hsign : sign = .plus ∨ rest.followsMinus = true)
    (htotal : rest.printedParts.total = rest.parts.total)
    (hlead : rest.opensWithSum = false → rest.printedParts.lead = rest.parts.lead) :
    rest.printedParts.printedBehind sign (regroups sign rest) = rest.parts.behind sign := by
  by_cases hwhole : sign = .plus ∨ regroups sign rest = true
  · obtain ⟨hprinted, hbehind⟩ := printedBehind_of_whole hsign hwhole
    rw [hprinted, hbehind, htotal]
  · obtain ⟨hplus, hopen⟩ := not_or.1 hwhole
    obtain rfl : sign = .minus := by cases sign <;> trivial
    rw [Bool.not_eq_true] at hopen
    have hfirst := hlead (opensWithSum_of_followsMinus (hsign.resolve_left hplus) hopen)
    simp only [Parts.total] at htotal
    simp only [hopen, Parts.printedBehind, Parts.behind, Sign.unit, Bool.false_eq_true, if_false]
    omega

/-- If each minus keeps its meaning, so does the whole. The first parts agree as well, unless the
first term is a sum that loses its brackets. -/
theorem printedParts_of_isKept (written : Written Int tier) (h : written.isKept = true) :
    written.printedParts.total = written.parts.total ∧
      (written.opensWithSum = false → written.printedParts.lead = written.parts.lead) := by
  induction written with
  | leaf value => exact ⟨rfl, fun _ ↦ rfl⟩
  | group mark partner content ih =>
    have htotal : (group mark partner content).printedParts.total =
        (group mark partner content).parts.total := by
      have hcontent := (ih h).1
      simp only [Parts.total] at hcontent
      simp only [printedParts, parts, Parts.total]
      omega
    exact ⟨htotal, fun hopens ↦ lead_eq_of_total_eq hopens htotal⟩
  | ofFactor factor ih =>
    have htotal := (ih h).1
    exact ⟨htotal, fun hopens ↦ lead_eq_of_total_eq hopens htotal⟩
  | product explicit first rest ihfirst ihrest =>
    rw [isKept, Bool.and_eq_true] at h
    have hparts : (product explicit first rest).printedParts =
        (product explicit first rest).parts := by
      rw [printedParts, parts, (ihfirst h.1).1, (ihrest h.2).1]
    exact ⟨congrArg Parts.total hparts, fun _ ↦ congrArg Parts.lead hparts⟩
  | ofTerm term ih =>
    have htotal := (ih h).1
    exact ⟨htotal, fun hopens ↦ lead_eq_of_total_eq hopens htotal⟩
  | sum sign first rest ihfirst ihrest =>
    simp only [isKept, Bool.and_eq_true, Bool.or_eq_true, decide_eq_true_eq] at h
    obtain ⟨⟨hfirst, hrest⟩, hsign⟩ := h
    have htotal := (ihfirst hfirst).1
    have htail := tail_parts first (by decide)
    have hbehind := printedBehind_eq hsign (ihrest hrest).1 (ihrest hrest).2
    constructor
    · simp only [Parts.total] at htotal
      simp only [printedParts, parts, Parts.total, hbehind]
      omega
    · intro hopens
      have hlead := lead_eq_of_total_eq hopens htotal
      simp only [printedParts, parts, Parts.total, hlead]
      omega

/-! ## Lost values -/

def zeros (written : Written α tier) : Written Int tier := written.map fun _ ↦ 0

/-- One at each leaf of the first term, and of the first terms in its brackets, and zero at all
others. -/
def firstOne : {tier : Tier} → Written α tier → Written Int tier
  | _, leaf _ => leaf 1
  | _, group mark partner content => group mark partner content.firstOne
  | _, ofFactor factor => ofFactor factor.firstOne
  | _, product explicit first rest => product explicit first.firstOne rest.firstOne
  | _, ofTerm term => ofTerm term.firstOne
  | _, sum sign first rest => sum sign first.firstOne rest.zeros

theorem behind_zero (sign : Sign) (tail : Int) : (⟨0, tail⟩ : Parts).behind sign = tail := by
  simp only [Parts.behind, Int.mul_zero, Int.zero_add]

theorem printedBehind_zero (sign : Sign) (inBrackets : Bool) :
    (⟨0, 0⟩ : Parts).printedBehind sign inBrackets = 0 := by
  cases sign <;> cases inBrackets <;> rfl

theorem behind_one (sign : Sign) : (⟨1, 0⟩ : Parts).behind sign = sign.unit := by
  cases sign <;> rfl

theorem printedBehind_one (sign : Sign) (inBrackets : Bool) :
    (⟨1, 0⟩ : Parts).printedBehind sign inBrackets = sign.unit := by
  cases sign <;> cases inBrackets <;> rfl

theorem shape_zeros (written : Written α tier) : written.zeros.shape = written.shape :=
  shape_map _ _

theorem parts_zeros (written : Written α tier) : written.zeros.parts = ⟨0, 0⟩ := by
  unfold zeros
  induction written with
  | leaf => rfl
  | group mark partner content ih => rw [map, parts, ih]; rfl
  | ofFactor factor ih => exact ih
  | ofTerm term ih => exact ih
  | product explicit first rest ihfirst ihrest => rw [map, parts, ihfirst, ihrest]; rfl
  | sum sign first rest ihfirst ihrest => rw [map, parts, ihfirst, ihrest, behind_zero]; rfl

theorem printedParts_zeros (written : Written α tier) : written.zeros.printedParts = ⟨0, 0⟩ := by
  unfold zeros
  induction written with
  | leaf => rfl
  | group mark partner content ih => exact ih
  | ofFactor factor ih => exact ih
  | ofTerm term ih => exact ih
  | product explicit first rest ihfirst ihrest => rw [map, printedParts, ihfirst, ihrest]; rfl
  | sum sign first rest ihfirst ihrest =>
    rw [map, printedParts, ihfirst, ihrest, printedBehind_zero]
    rfl

theorem shape_firstOne (written : Written α tier) : written.firstOne.shape = written.shape := by
  unfold shape
  induction written with
  | leaf => rfl
  | group mark partner content ih => simp only [firstOne, map, ih]
  | ofFactor factor ih => simp only [firstOne, map, ih]
  | ofTerm term ih => simp only [firstOne, map, ih]
  | product explicit first rest ihfirst ihrest => simp only [firstOne, map, ihfirst, ihrest]
  | sum sign first rest ihfirst ihrest =>
    have hrest := shape_zeros rest
    unfold shape at hrest
    simp only [firstOne, map, ihfirst, hrest]

theorem parts_firstOne (written : Written α tier) : written.firstOne.parts = ⟨1, 0⟩ := by
  induction written with
  | leaf => rfl
  | group mark partner content ih => rw [firstOne, parts, ih]; rfl
  | ofFactor factor ih => exact ih
  | ofTerm term ih => exact ih
  | product explicit first rest ihfirst ihrest => rw [firstOne, parts, ihfirst, ihrest]; rfl
  | sum sign first rest ihfirst ihrest =>
    rw [firstOne, parts, ihfirst, parts_zeros, behind_zero]
    rfl

theorem printedParts_firstOne (written : Written α tier) :
    written.firstOne.printedParts = ⟨1, 0⟩ := by
  induction written with
  | leaf => rfl
  | group mark partner content ih => exact ih
  | ofFactor factor ih => exact ih
  | ofTerm term ih => exact ih
  | product explicit first rest ihfirst ihrest =>
    rw [firstOne, printedParts, ihfirst, ihrest]
    rfl
  | sum sign first rest ihfirst ihrest =>
    rw [firstOne, printedParts, ihfirst, printedParts_zeros, printedBehind_zero]
    rfl

/-- A sum can have all of its value in the second term. -/
theorem exists_tail_of_isSum (written : Written α tier) (h : written.isSum = true) :
    ∃ other : Written Int tier, other.shape = written.shape ∧ other.printedParts.lead = 0 ∧
      other.printedParts.tail = other.parts.total ∧ other.parts.total ≠ 0 := by
  induction written with
  | leaf | product => contradiction
  | group mark partner content ih =>
    obtain ⟨other, hshape, hlead, htail, hne⟩ := ih h
    refine ⟨group mark partner other, ?_, hlead, ?_, ?_⟩
    · exact congrArg (group mark partner) hshape
    · simpa [parts, printedParts, Parts.total] using htail
    · simpa [parts, Parts.total] using hne
  | ofFactor factor ih =>
    obtain ⟨other, hshape, hparts⟩ := ih h
    exact ⟨ofFactor other, congrArg ofFactor hshape, hparts⟩
  | ofTerm term ih =>
    obtain ⟨other, hshape, hparts⟩ := ih h
    exact ⟨ofTerm other, congrArg ofTerm hshape, hparts⟩
  | sum sign first rest ihfirst ihrest =>
    refine ⟨sum sign first.zeros rest.firstOne, ?_, ?_, ?_, ?_⟩
    · exact congr (congrArg (sum sign) (shape_zeros first)) (shape_firstOne rest)
    · rw [printedParts, printedParts_zeros]
    · rw [printedParts, printedParts_zeros, printedParts_firstOne, printedBehind_one, parts,
        parts_zeros, parts_firstOne, behind_one]
      rfl
    · rw [parts, parts_zeros, parts_firstOne, behind_one]
      cases sign <;> decide

/-- The two values differ, also behind a minus unless the first term is a sum in brackets. -/
def Differs (written : Written Int tier) : Prop :=
  written.printedParts.total ≠ written.parts.total ∧
    (written.opensWithSum = false →
      written.printedParts.behind .minus ≠ written.parts.behind .minus)

theorem behind_ne_of_total_ne {written : Written Int tier} (h : written.isSum = false)
    (htotal : written.printedParts.total ≠ written.parts.total) :
    written.printedParts.behind .minus ≠ written.parts.behind .minus := by
  have htail := tail_parts_of_isSum written h
  have hprinted := tail_printedParts_of_isSum written h
  simp only [Parts.total] at htotal
  simp only [Parts.behind, Sign.unit]
  omega

theorem regroups_of_shape {sign : Sign} {rest : Written α .sum} {other : Written Int .sum}
    (h : other.shape = rest.shape) : regroups sign other = regroups sign rest := by
  have hsame : regroups sign other.shape = regroups sign rest.shape := by rw [h]
  simpa only [regroups, shape, isOperation_map, endsClosed_map] using hsame

theorem followsMinus_of_shape {rest : Written α .sum} {other : Written Int .sum}
    (h : other.shape = rest.shape) : other.followsMinus = rest.followsMinus := by
  have hsame : other.shape.followsMinus = rest.shape.followsMinus := by rw [h]
  simpa only [shape, followsMinus_map] using hsame

/-- A first term that differs, and nothing behind it. -/
theorem differs_of_first {sign : Sign} {first : Written Int .term} (rest : Written α .sum)
    (h : first.Differs) : (sum sign first rest.zeros).Differs := by
  have htail := tail_parts first (by decide)
  have hfirst := h.1
  simp only [Parts.total] at hfirst
  constructor
  · simp only [printedParts, parts, printedParts_zeros, parts_zeros, printedBehind_zero,
      behind_zero, Parts.total]
    omega
  · intro hopens
    have hprinted := tail_printedParts_of_isSum first hopens
    simp only [printedParts, parts, printedParts_zeros, parts_zeros, printedBehind_zero,
      Parts.total, Parts.behind, Sign.unit]
    omega

/-- Nothing but what stands behind the first sign, where that differs. -/
theorem differs_of_behind {sign : Sign} (first : Written α .term) {rest : Written Int .sum}
    (h : rest.printedParts.printedBehind sign (regroups sign rest) ≠ rest.parts.behind sign) :
    (sum sign first.zeros rest).Differs := by
  constructor
  · simp only [printedParts, parts, printedParts_zeros, parts_zeros, Parts.total]
    omega
  · intro hopens
    simp only [printedParts, parts, printedParts_zeros, parts_zeros, Parts.total, Int.add_zero,
      Int.zero_add, behind_zero]
    exact h

/-- A difference behind a sign stays, if a minus there goes with the first term alone. -/
theorem printedBehind_ne {sign : Sign} {rest : Written Int .sum}
    (hsign : sign = .plus ∨ rest.followsMinus = true) (h : rest.Differs) :
    rest.printedParts.printedBehind sign (regroups sign rest) ≠ rest.parts.behind sign := by
  by_cases hwhole : sign = .plus ∨ regroups sign rest = true
  · obtain ⟨hprinted, hbehind⟩ := printedBehind_of_whole hsign hwhole
    have htotal := h.1
    rw [hprinted, hbehind]
    cases sign <;> simp only [Sign.unit] <;> omega
  · obtain ⟨hplus, hopen⟩ := not_or.1 hwhole
    obtain rfl : sign = .minus := by cases sign <;> trivial
    rw [Bool.not_eq_true] at hopen
    rw [hopen]
    exact h.2 (opensWithSum_of_followsMinus (hsign.resolve_left hplus) hopen)

/-- A minus that does not go with the first term alone changes the sign of another term. -/
theorem exists_printedBehind_ne {rest : Written α .sum} (h : rest.followsMinus = false) :
    ∃ other : Written Int .sum, other.shape = rest.shape ∧
      other.printedParts.printedBehind .minus (regroups .minus other) ≠
        other.parts.behind .minus := by
  cases rest with
  | ofTerm => contradiction
  | sum sign first rest =>
    cases hclosed : rest.endsClosed with
    | true =>
      -- The brackets take the second term in, so that the minus changes its sign.
      let other : Written Int .sum := sum sign first.zeros rest.firstOne
      have hshape : other.shape = (sum sign first rest).shape :=
        congr (congrArg (sum sign) (shape_zeros first)) (shape_firstOne rest)
      have hregroups : regroups .minus other = true := by
        rw [regroups_of_shape hshape]
        simp [regroups, isOperation, endsClosed, hclosed]
      refine ⟨other, hshape, ?_⟩
      simp only [hregroups, other, printedParts, parts, printedParts_zeros, printedParts_firstOne,
        parts_zeros, parts_firstOne, printedBehind_one, behind_one]
      cases sign <;> decide
    | false =>
      -- The first term loses its brackets, so that the minus misses its second part.
      have hsum : first.isSum = true := by simpa [followsMinus, hclosed] using h
      obtain ⟨otherFirst, hfirst, hlead, htail, hne⟩ := exists_tail_of_isSum first hsum
      let other : Written Int .sum := sum sign otherFirst rest.zeros
      have hshape : other.shape = (sum sign first rest).shape :=
        congr (congrArg (sum sign) hfirst) (shape_zeros rest)
      have hregroups : regroups .minus other = false := by
        rw [regroups_of_shape hshape]
        simp [regroups, endsClosed, hclosed]
      refine ⟨other, hshape, ?_⟩
      have hparts : other.parts = ⟨otherFirst.parts.total, 0⟩ := by
        rw [parts, parts_zeros, behind_zero]
      have hprinted : other.printedParts = ⟨0, otherFirst.parts.total⟩ := by
        rw [printedParts, printedParts_zeros, printedBehind_zero, hlead, htail, Int.add_zero]
      simp only [hregroups, hparts, hprinted, Parts.printedBehind, Parts.behind,
        Sign.unit, Bool.false_eq_true, if_false]
      omega

/-- If a minus loses its meaning, the two values differ for some leaves. -/
theorem exists_differs (written : Written α tier) (h : written.isKept = false) :
    ∃ other : Written Int tier, other.shape = written.shape ∧ other.Differs := by
  induction written with
  | leaf => contradiction
  | group mark partner content ih =>
    obtain ⟨other, hshape, hdiffers⟩ := ih h
    have htotal : (group mark partner other).printedParts.total ≠
        (group mark partner other).parts.total := by
      have hother := hdiffers.1
      simp only [Parts.total] at hother
      simp only [printedParts, parts, Parts.total]
      omega
    exact ⟨group mark partner other, congrArg (group mark partner) hshape, htotal,
      fun hopens ↦ behind_ne_of_total_ne hopens htotal⟩
  | ofFactor factor ih =>
    obtain ⟨other, hshape, hdiffers⟩ := ih h
    exact ⟨ofFactor other, congrArg ofFactor hshape, hdiffers.1,
      fun hopens ↦ behind_ne_of_total_ne hopens hdiffers.1⟩
  | ofTerm term ih =>
    obtain ⟨other, hshape, hdiffers⟩ := ih h
    exact ⟨ofTerm other, congrArg ofTerm hshape, hdiffers.1,
      fun hopens ↦ behind_ne_of_total_ne hopens hdiffers.1⟩
  | product explicit first rest ihfirst ihrest =>
    cases hfirst : first.isKept with
    | false =>
      obtain ⟨other, hshape, hdiffers⟩ := ihfirst hfirst
      have htotal : (product explicit other rest.firstOne).printedParts.total ≠
          (product explicit other rest.firstOne).parts.total := by
        have hone : (⟨1, 0⟩ : Parts).total = 1 := rfl
        simpa [printedParts, parts, printedParts_firstOne, parts_firstOne, hone, Parts.total]
          using hdiffers.1
      exact ⟨product explicit other rest.firstOne,
        congr (congrArg (product explicit) hshape) (shape_firstOne rest), htotal,
        fun hopens ↦ behind_ne_of_total_ne rfl htotal⟩
    | true =>
      have hrest : rest.isKept = false := by simpa [isKept, hfirst] using h
      obtain ⟨other, hshape, hdiffers⟩ := ihrest hrest
      have htotal : (product explicit first.firstOne other).printedParts.total ≠
          (product explicit first.firstOne other).parts.total := by
        simpa [printedParts, parts, printedParts_firstOne, parts_firstOne, Parts.total]
          using hdiffers.1
      exact ⟨product explicit first.firstOne other,
        congr (congrArg (product explicit) (shape_firstOne first)) hshape, htotal,
        fun hopens ↦ behind_ne_of_total_ne rfl htotal⟩
  | sum sign first rest ihfirst ihrest =>
    cases hfirst : first.isKept with
    | false =>
      obtain ⟨other, hshape, hdiffers⟩ := ihfirst hfirst
      exact ⟨sum sign other rest.zeros, congr (congrArg (sum sign) hshape) (shape_zeros rest),
        differs_of_first rest hdiffers⟩
    | true =>
      have hbehind : ∃ other : Written Int .sum, other.shape = rest.shape ∧
          other.printedParts.printedBehind sign (regroups sign other) ≠
            other.parts.behind sign := by
        cases hsign : (sign = .plus || rest.followsMinus) with
        | true =>
          have hrest : rest.isKept = false := by simpa [isKept, hfirst, hsign] using h
          obtain ⟨other, hshape, hdiffers⟩ := ihrest hrest
          rw [← followsMinus_of_shape hshape] at hsign
          exact ⟨other, hshape, printedBehind_ne (by simpa using hsign) hdiffers⟩
        | false =>
          cases sign with
          | plus => contradiction
          | minus => exact exists_printedBehind_ne (by simpa using hsign)
      obtain ⟨other, hshape, hne⟩ := hbehind
      exact ⟨sum sign first.zeros other, congr (congrArg (sum sign) (shape_zeros first)) hshape,
        differs_of_behind first hne⟩

end FormulaText.Arithmetic.Written
