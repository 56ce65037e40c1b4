import FormulaText.Proofs.Linear.Meaning
import Mathlib.Tactic.Choose

/-!
# Rows that differ in their brackets

A twin row is two rows at once: they have the same operands and links, and each pair of brackets is
in both of them or in one. A pair that only one of them has is idle if the links inside it are tight
enough for what stands around it in the other one. The two rows are read as equal formulas exactly
if all such pairs are idle: otherwise the loosest links of the two rows are different ones, at some
level of brackets. Which links are the same is told by the numbers and symbols before them.
-/

namespace FormulaText

open Grammar

namespace Linear

namespace Row

theorem append_assoc (left : Row) (link : Link) (middle : Row) (next : Link) (right : Row) :
    (left.append link middle).append next right = left.append link (middle.append next right) := by
  match left with
  | last operand => rfl
  | more operand first rest =>
    rw [append, append, append, append_assoc rest link middle next right]

theorem negated_append (left : Row) (link : Link) (right : Row) :
    (left.append link right).negated = left.negated.append link right := by
  cases left <;> rfl

@[simp] theorem links_negated (row : Row) : row.negated.links = row.links := by
  cases row <;> rfl

/-- Two ways to take a row apart are the same, or one of them goes on inside a part of the other. -/
theorem append_eq_append {left left' right right' : Row} {link link' : Link}
    (h : left.append link right = left'.append link' right') :
    (∃ middle, left = left'.append link' middle ∧ right' = middle.append link right) ∨
      (left = left' ∧ link = link' ∧ right = right') ∨
      ∃ middle, left' = left.append link middle ∧ right = middle.append link' right' := by
  match left, left' with
  | last operand, last operand' =>
    injection h with hoperand hlink hright
    exact .inr (.inl ⟨congrArg last hoperand, hlink, hright⟩)
  | last operand, more operand' first' rest' =>
    injection h with hoperand hlink hright
    exact .inr (.inr ⟨rest', by rw [append, hoperand, hlink], hright⟩)
  | more operand first rest, last operand' =>
    injection h with hoperand hlink hright
    exact .inl ⟨rest, by rw [append, hoperand, hlink], hright.symm⟩
  | more operand first rest, more operand' first' rest' =>
    injection h with hoperand hlink hrest
    rcases append_eq_append hrest with ⟨middle, rfl, hright⟩ | ⟨rfl, hsame, hright⟩ |
      ⟨middle, rfl, hright⟩
    · exact .inl ⟨middle, by rw [append, hoperand, hlink], hright⟩
    · exact .inr (.inl ⟨by rw [hoperand, hlink], hsame, hright⟩)
    · exact .inr (.inr ⟨middle, by rw [append, hoperand, hlink], hright⟩)

/-- Of two links of a row, the one with fewer numbers and symbols before it is inside the part before
the other one. -/
theorem exists_middle_of_leafCount_lt {left left' right right' : Row} {link link' : Link}
    (h : left.append link right = left'.append link' right')
    (hlt : left.leafCount < left'.leafCount) :
    ∃ middle, left' = left.append link middle ∧ right = middle.append link' right' := by
  rcases append_eq_append h with ⟨middle, rfl, -⟩ | ⟨rfl, -⟩ | hlater
  · rw [leafCount_append] at hlt
    omega
  · exact absurd hlt (Nat.lt_irrefl _)
  · exact hlater

/-- Links with as many numbers and symbols before them are the same one. -/
theorem append_inj_of_leafCount_eq {left left' right right' : Row} {link link' : Link}
    (h : left.append link right = left'.append link' right')
    (hcount : left.leafCount = left'.leafCount) :
    left = left' ∧ link = link' ∧ right = right' := by
  rcases append_eq_append h with ⟨middle, rfl, -⟩ | hsame | ⟨middle, rfl, -⟩
  · have hmiddle := middle.leafCount_pos
    rw [leafCount_append] at hcount
    omega
  · exact hsame
  · have hmiddle := middle.leafCount_pos
    rw [leafCount_append] at hcount
    omega

end Row

/-! ## Twin rows -/

inductive Side where
  | first
  | second
deriving DecidableEq

def Side.other : Side → Side
  | first => second
  | second => first

mutual

inductive TwinOperand where
  /-- An operand that is the same in both rows. -/
  | plain (operand : Operand)
  | call (name : String) (argument : TwinRow)
  | bracketed (content : TwinRow)
  /-- A part of the row that is in brackets in one of the two rows only. -/
  | bracketedOn (side : Side) (content : TwinRow)
  | negated (operand : TwinOperand)

/-- Two rows that differ in brackets only. -/
inductive TwinRow where
  | last (operand : TwinOperand)
  | more (operand : TwinOperand) (link : Link) (rest : TwinRow)

end

mutual

def TwinOperand.on (side : Side) : TwinOperand → Row
  | .plain operand => .last operand
  | .call name argument => .last (.call name (argument.on side))
  | .bracketed content => .last (.bracketed (content.on side))
  | .bracketedOn side' content => (content.on side).bracketedIf (side' = side)
  | .negated operand => (operand.on side).negated

def TwinRow.on (side : Side) : TwinRow → Row
  | .last operand => operand.on side
  | .more operand link rest => (operand.on side).append link (rest.on side)

end

/-- The loosest tiers of a phrase between what stands around it. -/
structure Edges where
  before : Category
  behind : Category

def Edges.wide : Edges := ⟨.sum, .sum⟩

theorem rank_le_wide (tier : Category) : tier.rank ≤ Category.sum.rank := by
  cases tier <;> decide

/-- Whether the links of a row are as tight as the edges of its place ask for. -/
def Row.fits (edges : Edges) (row : Row) : Bool :=
  row.links.all fun link ↦
    link.tier.rank ≤ edges.before.rank && link.tier.rank ≤ edges.behind.rank

theorem Row.fits_iff {edges : Edges} {row : Row} :
    row.fits edges = true ↔ ∀ link ∈ row.links,
      link.tier.rank ≤ edges.before.rank ∧ link.tier.rank ≤ edges.behind.rank := by
  simp [Row.fits]

/-- A row behind a minus sign is one operand, unless its first operand takes the sign. -/
theorem Row.exists_last_of_fits {row : Row} {edges : Edges} (hbefore : edges.before = .operand)
    (h : row.fits edges = true) : ∃ operand, row = last operand := by
  cases row with
  | last operand => exact ⟨operand, rfl⟩
  | more operand link rest =>
    have hlink := (Row.fits_iff.1 h link List.mem_cons_self).1
    rw [hbefore] at hlink
    exact absurd hlink (Nat.not_le_of_lt link.rank_operand_lt)

mutual

/-- Whether the brackets of an operand that only one row has are idle, between some edges on each
side: the links inside them are as tight as the edges in the other row. -/
def TwinOperand.IsIdle : TwinOperand → (Side → Edges) → Prop
  | .plain _, _ => True
  | .call _ argument, _ => argument.IsIdle fun _ ↦ .wide
  | .bracketed content, _ => content.IsIdle fun _ ↦ .wide
  | .bracketedOn side content, edges =>
    content.IsIdle (fun side' ↦ if side = side' then .wide else edges side') ∧
      (content.on side.other).fits (edges side.other) = true
  | .negated operand, edges => operand.IsIdle fun side ↦ { edges side with before := .operand }

def TwinRow.IsIdle : TwinRow → (Side → Edges) → Prop
  | .last operand, edges => operand.IsIdle edges
  | .more operand link rest, edges =>
    operand.IsIdle (fun side ↦ { edges side with behind := link.tierBefore }) ∧
      rest.IsIdle fun side ↦ { edges side with before := link.tierBehind }

end

namespace TwinRow

variable {row left right : TwinRow} {link : Link} {edges : Side → Edges}

/-- The links that are in no brackets of either row. -/
def links : TwinRow → List Link
  | last _ => []
  | more _ link rest => link :: rest.links

def append : TwinRow → Link → TwinRow → TwinRow
  | last operand, link, right => more operand link right
  | more operand first rest, link, right => more operand first (rest.append link right)

def negated : TwinRow → TwinRow
  | last operand => last (.negated operand)
  | more operand link rest => more (.negated operand) link rest

def bracketedIf : Bool → Bool → TwinRow → TwinRow
  | true, true, row => last (.bracketed row)
  | true, false, row => last (.bracketedOn .first row)
  | false, true, row => last (.bracketedOn .second row)
  | false, false, row => row

theorem on_append (side : Side) (left : TwinRow) (link : Link) (right : TwinRow) :
    (left.append link right).on side = (left.on side).append link (right.on side) := by
  match left with
  | last operand => rfl
  | more operand first rest =>
    rw [append, on, on, on_append side rest link right, Row.append_assoc]

theorem on_negated (side : Side) (row : TwinRow) :
    row.negated.on side = (row.on side).negated := by
  cases row with
  | last operand => rfl
  | more operand link rest => exact (Row.negated_append _ _ _).symm

theorem on_first_bracketedIf (first second : Bool) (row : TwinRow) :
    (row.bracketedIf first second).on .first = (row.on .first).bracketedIf first := by
  cases first <;> cases second <;> rfl

theorem on_second_bracketedIf (first second : Bool) (row : TwinRow) :
    (row.bracketedIf first second).on .second = (row.on .second).bracketedIf second := by
  cases first <;> cases second <;> rfl

theorem isIdle_append (left : TwinRow) (link : Link) (right : TwinRow) (edges : Side → Edges) :
    (left.append link right).IsIdle edges ↔
      left.IsIdle (fun side ↦ { edges side with behind := link.tierBefore }) ∧
        right.IsIdle fun side ↦ { edges side with before := link.tierBehind } := by
  match left with
  | last operand => rfl
  | more operand first rest =>
    exact (and_congr_right fun _ ↦ isIdle_append rest link right _).trans and_assoc.symm

theorem isIdle_negated (row : TwinRow) (edges : Side → Edges) :
    row.negated.IsIdle edges ↔
      row.IsIdle fun side ↦ { edges side with before := .operand } := by
  cases row <;> rfl

/-- A twin row with links falls apart at each of them. -/
theorem exists_append_of_links {row : TwinRow} {before behind : List Link} {link : Link}
    (h : row.links = before ++ link :: behind) :
    ∃ left right : TwinRow, row = left.append link right ∧ left.links = before ∧
      right.links = behind := by
  match row, before with
  | last operand, _ => simp [links] at h
  | more operand first rest, [] =>
    obtain ⟨rfl, hrest⟩ := List.cons.inj h
    exact ⟨last operand, rest, rfl, rfl, hrest⟩
  | more operand first rest, _ :: before =>
    obtain ⟨rfl, hrest⟩ := List.cons.inj h
    obtain ⟨left, right, rfl, hleft, hright⟩ := exists_append_of_links hrest
    exact ⟨more operand first left, right, rfl, by rw [links, hleft], hright⟩

end TwinRow

/-! ## Between other edges -/

/-- Whether each link of a row that is tight enough for some edges is so for others too. -/
def Row.StaysWithin (edges edges' : Edges) (row : Row) : Prop :=
  ∀ link ∈ row.links,
    (link.tier.rank ≤ edges.before.rank → link.tier.rank ≤ edges'.before.rank) ∧
      (link.tier.rank ≤ edges.behind.rank → link.tier.rank ≤ edges'.behind.rank)

mutual

theorem TwinOperand.IsIdle.change {operand : TwinOperand} {edges edges' : Side → Edges}
    (h : operand.IsIdle edges)
    (hstays : ∀ side, (operand.on side).StaysWithin (edges side) (edges' side)) :
    operand.IsIdle edges' := by
  match operand with
  | .plain operand => trivial
  | .call name argument => exact h
  | .bracketed content => exact h
  | .bracketedOn side content =>
    have hcontent (side' : Side) (hside : side ≠ side') :
        (content.on side').StaysWithin (edges side') (edges' side') := by
      have hstays := hstays side'
      rwa [TwinOperand.on, decide_eq_false hside] at hstays
    refine ⟨h.1.change fun side' ↦ ?_, ?_⟩
    · by_cases hside : side = side'
      · rw [if_pos hside, if_pos hside]
        exact fun link hlink ↦ ⟨id, id⟩
      · rw [if_neg hside, if_neg hside]
        exact hcontent side' hside
    · have hfits := Row.fits_iff.1 h.2
      have hother : side ≠ side.other := by cases side <;> decide
      refine Row.fits_iff.2 fun link hlink ↦ ?_
      obtain ⟨hbefore, hbehind⟩ := hcontent side.other hother link hlink
      exact ⟨hbefore (hfits link hlink).1, hbehind (hfits link hlink).2⟩
  | .negated operand =>
    have hoperand : operand.IsIdle fun side ↦ { edges side with before := .operand } := h
    refine hoperand.change fun side link hlink ↦ ⟨id, ?_⟩
    rw [← Row.links_negated] at hlink
    exact (hstays side link hlink).2

/-- Brackets stay idle between edges that keep the links of the two rows. -/
theorem TwinRow.IsIdle.change {row : TwinRow} {edges edges' : Side → Edges}
    (h : row.IsIdle edges)
    (hstays : ∀ side, (row.on side).StaysWithin (edges side) (edges' side)) :
    row.IsIdle edges' := by
  match row with
  | .last operand =>
    have hoperand : operand.IsIdle edges := h
    exact hoperand.change hstays
  | .more operand link rest =>
    refine ⟨h.1.change fun side inner hinner ↦ ⟨?_, id⟩,
      h.2.change fun side inner hinner ↦ ⟨id, ?_⟩⟩
    · refine (hstays side inner ?_).1
      rw [TwinRow.on, Row.links_append]
      exact List.mem_append_left _ hinner
    · refine (hstays side inner ?_).2
      rw [TwinRow.on, Row.links_append]
      exact List.mem_append_right _ (List.mem_cons_of_mem _ hinner)

end

/-- An operand with idle brackets only is as tight as its edges, in each of the two rows. -/
theorem TwinOperand.IsIdle.fits_on {operand : TwinOperand} {edges : Side → Edges}
    (h : operand.IsIdle edges) (side : Side) : (operand.on side).fits (edges side) = true := by
  match operand with
  | .plain operand => rfl
  | .call name argument => rfl
  | .bracketed content => rfl
  | .bracketedOn side' content =>
    by_cases hside : side' = side
    · rw [TwinOperand.on, decide_eq_true hside]
      rfl
    · obtain rfl : side'.other = side := by cases side <;> cases side' <;> simp_all [Side.other]
      rw [TwinOperand.on, decide_eq_false hside]
      exact h.2
  | .negated operand =>
    have hoperand : operand.IsIdle fun side ↦ { edges side with before := .operand } := h
    obtain ⟨single, hsingle⟩ := Row.exists_last_of_fits rfl (hoperand.fits_on side)
    rw [TwinOperand.on, hsingle]
    rfl

/-- Where brackets are idle, the links of the two rows are as tight as those that are in no brackets
of either row, and as the tighter edge. -/
theorem TwinRow.IsIdle.rank_le {row : TwinRow} {edges : Side → Edges} {side : Side}
    {bound : Nat} (h : row.IsIdle edges)
    (hedge : (edges side).before.rank ≤ bound ∨ (edges side).behind.rank ≤ bound)
    (hlinks : ∀ link ∈ row.links, link.tier.rank ≤ bound) :
    ∀ link ∈ (row.on side).links, link.tier.rank ≤ bound := by
  match row with
  | .last operand =>
    have hoperand : operand.IsIdle edges := h
    intro link hlink
    obtain ⟨hbefore, hbehind⟩ := Row.fits_iff.1 (hoperand.fits_on side) link hlink
    rcases hedge with hedge | hedge
    · exact Nat.le_trans hbefore hedge
    · exact Nat.le_trans hbehind hedge
  | .more operand link rest =>
    obtain ⟨hlink, hlinks⟩ := List.forall_mem_cons.1 hlinks
    rw [TwinRow.on, Row.links_append, List.forall_mem_append, List.forall_mem_cons]
    refine ⟨fun inner hinner ↦ ?_, hlink, h.2.rank_le (.inl ?_) hlinks⟩
    · have hbehind := (Row.fits_iff.1 (h.1.fits_on side) inner hinner).2
      exact Nat.le_trans hbehind (Nat.le_trans link.rank_tierBefore_le hlink)
    · exact Nat.le_trans link.rank_tierBehind_le hlink

/-! ## Reading both rows -/

theorem TwinRow.sizeOf_append (left : TwinRow) (link : Link) (right : TwinRow) :
    sizeOf left < sizeOf (left.append link right) ∧
      sizeOf right < sizeOf (left.append link right) := by
  match left with
  | last operand =>
    have hright : 0 < sizeOf right := by cases right <;> simp +arith
    simp only [append, last.sizeOf_spec, more.sizeOf_spec]
    omega
  | more operand first rest =>
    have hrest := sizeOf_append rest link right
    simp only [append, more.sizeOf_spec]
    omega

/-- A property of twin rows holds if it holds of one operand where it does of the row inside, and of
a row with links where it does of the two parts at each link. -/
@[elab_as_elim]
theorem TwinRow.induction {P : TwinRow → Prop} (plain : ∀ operand, P (last (.plain operand)))
    (call : ∀ name argument, P argument → P (last (.call name argument)))
    (bracketed : ∀ content, P content → P (last (.bracketed content)))
    (bracketedOn : ∀ side content, P content → P (last (.bracketedOn side content)))
    (negated : ∀ operand, P (last operand) → P (last (.negated operand)))
    (linked : ∀ row, row.links ≠ [] →
      (∀ left link right, row = left.append link right → P left ∧ P right) → P row)
    (row : TwinRow) : P row := by
  match row with
  | last (.plain operand) => exact plain operand
  | last (.call name argument) =>
    exact call name argument
      (TwinRow.induction plain call bracketed bracketedOn negated linked argument)
  | last (.bracketed content) =>
    exact bracketed content
      (TwinRow.induction plain call bracketed bracketedOn negated linked content)
  | last (.bracketedOn side content) =>
    exact bracketedOn side content
      (TwinRow.induction plain call bracketed bracketedOn negated linked content)
  | last (.negated operand) =>
    exact negated operand
      (TwinRow.induction plain call bracketed bracketedOn negated linked (last operand))
  | more operand first rest =>
    refine linked _ (List.cons_ne_nil _ _) fun left link right h ↦ ?_
    have hsize := sizeOf_append left link right
    rw [← h] at hsize
    exact ⟨TwinRow.induction plain call bracketed bracketedOn negated linked left,
      TwinRow.induction plain call bracketed bracketedOn negated linked right⟩
termination_by sizeOf row
decreasing_by all_goals simp_all <;> omega

namespace TwinRow

variable {row left right : TwinRow} {link : Link}

theorem IsIdle.of_append (h : (left.append link right).IsIdle fun _ ↦ .wide) :
    (left.IsIdle fun _ ↦ .wide) ∧ right.IsIdle fun _ ↦ .wide := by
  obtain ⟨hleft, hright⟩ := (isIdle_append left link right _).1 h
  exact ⟨hleft.change fun _ _ _ ↦ ⟨id, fun _ ↦ rank_le_wide _⟩,
    hright.change fun _ _ _ ↦ ⟨fun _ ↦ rank_le_wide _, id⟩⟩

/-- A link that is the loosest of those in no brackets of either row is the loosest in both rows, if
the brackets of one row are idle. -/
theorem IsIdle.isLoosest_on (h : (left.append link right).IsIdle fun _ ↦ .wide)
    (hloosest : link.IsLoosest left.links right.links) (side : Side) :
    link.IsLoosest (left.on side).links (right.on side).links := by
  obtain ⟨hleft, hright⟩ := (isIdle_append left link right _).1 h
  exact ⟨hleft.rank_le (.inr (Nat.le_refl _)) hloosest.before,
    hright.rank_le (.inl (Nat.le_refl _)) hloosest.behind⟩

/-- Brackets are idle if they are in the parts, at a link that is the loosest in both rows. -/
theorem isIdle_append_of_isLoosest (hleft : left.IsIdle fun _ ↦ .wide)
    (hright : right.IsIdle fun _ ↦ .wide)
    (hloosest : ∀ side, link.IsLoosest (left.on side).links (right.on side).links) :
    (left.append link right).IsIdle fun _ ↦ .wide :=
  (isIdle_append left link right _).2
    ⟨hleft.change fun side inner hinner ↦ ⟨id, fun _ ↦ (hloosest side).before inner hinner⟩,
      hright.change fun side inner hinner ↦ ⟨fun _ ↦ (hloosest side).behind inner hinner, id⟩⟩

/-- Two rows that differ in idle brackets mean the same formula. -/
theorem IsIdle.exists_means (h : row.IsIdle fun _ ↦ .wide)
    (hlegible : ∀ side, (row.on side).IsLegible) :
    ∃ value, ∀ side, (row.on side).Means value := by
  induction row using TwinRow.induction with
  | plain operand =>
    obtain ⟨value, hvalue⟩ := operand.exists_means (hlegible .first)
    exact ⟨value, fun _ ↦ hvalue⟩
  | call name argument ih =>
    obtain ⟨value, hvalue⟩ := ih h fun side ↦ (hlegible side).2
    exact ⟨_, fun side ↦ .call (hlegible side).1 (hvalue side)⟩
  | bracketed content ih =>
    obtain ⟨value, hvalue⟩ := ih h hlegible
    exact ⟨value, fun side ↦ .bracketed (hvalue side)⟩
  | bracketedOn side content ih =>
    have hcontent : content.IsIdle fun _ ↦ .wide := by simpa only [ite_self] using h.1
    obtain ⟨value, hvalue⟩ := ih hcontent fun side' ↦
      (Row.isLegible_bracketedIf (side = side')).1 (hlegible side')
    exact ⟨value, fun side' ↦ (hvalue side').bracketedIf _⟩
  | negated operand ih =>
    have hoperand : operand.IsIdle fun _ ↦ { Edges.wide with before := .operand } := h
    have hwide : (last operand).IsIdle fun _ ↦ .wide :=
      hoperand.change fun side link hlink ↦ ⟨fun _ ↦ rank_le_wide _, id⟩
    obtain ⟨value, hvalue⟩ := ih hwide fun side ↦ Row.isLegible_negated.1 (hlegible side)
    refine ⟨withSign .minus value false, fun side ↦ ?_⟩
    obtain ⟨single, hsingle⟩ := Row.exists_last_of_fits rfl (hoperand.fits_on side)
    have hmeans : (operand.on side).Means value := hvalue side
    change (operand.on side).negated.Means _
    rw [hsingle] at hmeans ⊢
    exact .negated hmeans
  | linked row hlinks ih =>
    obtain ⟨before, link, behind, hsplit, hloosest⟩ := Link.exists_isLoosest hlinks
    obtain ⟨left, right, rfl, rfl, rfl⟩ := exists_append_of_links hsplit
    obtain ⟨ihl, ihr⟩ := ih left link right rfl
    obtain ⟨hleft, hright⟩ := h.of_append
    have hparts (side : Side) : (left.on side).IsLegible ∧ (right.on side).IsLegible := by
      rw [← Row.isLegible_append _ link, ← on_append]
      exact hlegible side
    obtain ⟨lhs, hlhs⟩ := ihl hleft fun side ↦ (hparts side).1
    obtain ⟨rhs, hrhs⟩ := ihr hright fun side ↦ (hparts side).2
    refine ⟨link.node lhs rhs, fun side ↦ ?_⟩
    rw [on_append]
    exact .linked (hlhs side) (hrhs side) (h.isLoosest_on hloosest side)

end TwinRow

/-- In one of its two rows at least, an operand of a twin row is one operand. -/
theorem TwinOperand.exists_on_eq_last (operand : TwinOperand) :
    ∃ side single, operand.on side = .last single := by
  match operand with
  | .plain operand => exact ⟨.first, operand, rfl⟩
  | .call name argument => exact ⟨.first, _, rfl⟩
  | .bracketed content => exact ⟨.first, _, rfl⟩
  | .bracketedOn side content =>
    exact ⟨side, .bracketed (content.on side), by rw [TwinOperand.on, decide_eq_true rfl]; rfl⟩
  | .negated operand =>
    obtain ⟨side, single, hsingle⟩ := operand.exists_on_eq_last
    exact ⟨side, .negated single, by rw [TwinOperand.on, hsingle]; rfl⟩

theorem Side.equal_of_ne {value : Side → Expr}
    (h : (value .first).equal (value .second) = true) {side other : Side} (hne : side ≠ other) :
    (value side).equal (value other) = true := by
  cases side <;> cases other
  · contradiction
  · exact h
  · rwa [Expr.equal_comm]
  · contradiction

/-- Where both rows with a minus before them are read as equal formulas, the minus stands before one
operand in both: it would else be a part of an operation in one row, and not in the other. -/
theorem TwinOperand.exists_last_of_negated (operand : TwinOperand)
    {value : Side → Expr} (h : ∀ side, (operand.on side).negated.Means (value side))
    (hequal : (value .first).equal (value .second) = true) (side : Side) :
    ∃ single, operand.on side = .last single := by
  obtain ⟨known, single, hknown⟩ := operand.exists_on_eq_last
  by_cases hside : side = known
  · exact ⟨single, hside ▸ hknown⟩
  cases hon : operand.on side with
  | last other => exact ⟨other, rfl⟩
  | more first link rest =>
    have hsigned := h known
    have hlinked := h side
    rw [hknown] at hsigned
    rw [hon] at hlinked
    obtain ⟨inner, hinner, -⟩ := hsigned.of_negated
    obtain ⟨_, _, _, _, _, -, hnode, -⟩ := hlinked.of_links (List.cons_ne_nil _ _)
    have hsame := Side.equal_of_ne hequal hside
    rw [hinner, hnode, Expr.not_equal_node_withSign] at hsame
    contradiction

mutual

/-- Both rows have the same numbers and symbols. -/
theorem TwinOperand.leafCount_on (operand : TwinOperand) :
    (operand.on .first).leafCount = (operand.on .second).leafCount := by
  cases operand with
  | plain operand => rfl
  | call name argument =>
    simpa [TwinOperand.on, Row.leafCount, Row.kinds, Operand.kinds] using argument.leafCount_on
  | bracketed content =>
    simpa [TwinOperand.on, Row.leafCount, Row.kinds, Operand.kinds] using content.leafCount_on
  | bracketedOn side content => simpa [TwinOperand.on] using content.leafCount_on
  | negated operand => simpa [TwinOperand.on] using operand.leafCount_on

theorem TwinRow.leafCount_on (row : TwinRow) :
    (row.on .first).leafCount = (row.on .second).leafCount := by
  cases row with
  | last operand => exact operand.leafCount_on
  | more operand link rest => simp [TwinRow.on, operand.leafCount_on, rest.leafCount_on]

end

namespace TwinRow

variable {row : TwinRow}

/-- Where the two rows fall apart at links with as many numbers and symbols before them, they do so
at one link of both. -/
theorem exists_append_of_on {row : TwinRow} {left right : Side → Row} {link : Side → Link}
    (h : ∀ side, row.on side = (left side).append (link side) (right side))
    (hcount : (left .first).leafCount = (left .second).leafCount) :
    ∃ (before : TwinRow) (common : Link) (behind : TwinRow), row = before.append common behind ∧
      ∀ side, before.on side = left side ∧ common = link side ∧ behind.on side = right side := by
  match row with
  | last operand =>
    obtain ⟨side, single, hsingle⟩ := operand.exists_on_eq_last
    exact absurd ((h side).symm.trans hsingle) (Row.append_ne_last _ _ _ _)
  | more operand first rest =>
    have hoperand (side : Side) :
        (operand.on side).leafCount = (operand.on .first).leafCount := by
      cases side with
      | first => rfl
      | second => exact operand.leafCount_on.symm
    have hleft (side : Side) : (left side).leafCount = (left .first).leafCount := by
      cases side with
      | first => rfl
      | second => exact hcount.symm
    rcases Nat.lt_trichotomy (left .first).leafCount (operand.on .first).leafCount with
      hinside | hbetween | hlater
    · -- the first operand cannot fall apart in both rows
      obtain ⟨side, single, hsingle⟩ := operand.exists_on_eq_last
      obtain ⟨middle, hmiddle, -⟩ := Row.exists_middle_of_leafCount_lt (h side).symm
        (by rwa [hoperand side, hleft side])
      exact absurd (hmiddle.symm.trans hsingle) (Row.append_ne_last _ _ _ _)
    · exact ⟨last operand, first, rest, rfl, fun side ↦ Row.append_inj_of_leafCount_eq (h side)
        ((hoperand side).trans (hbetween.symm.trans (hleft side).symm))⟩
    · choose middle hmiddle hrest using fun side ↦ Row.exists_middle_of_leafCount_lt (h side)
        (by rwa [hoperand side, hleft side])
      rw [hmiddle, hmiddle, Row.leafCount_append, Row.leafCount_append,
        operand.leafCount_on] at hcount
      obtain ⟨before, common, behind, rfl, hon⟩ :=
        exists_append_of_on hrest (Nat.add_left_cancel hcount)
      refine ⟨more operand first before, common, behind, rfl, fun side ↦ ?_⟩
      rw [hmiddle, ← (hon side).1]
      exact ⟨rfl, (hon side).2⟩

theorem links_on_ne_nil (h : row.links ≠ []) (side : Side) : (row.on side).links ≠ [] := by
  cases row with
  | last operand => contradiction
  | more operand link rest => simp [TwinRow.on, Row.links_append]

/-- If the two rows are read as equal formulas, they differ in idle brackets. -/
theorem isIdle_of_means {value : Side → Expr} (h : ∀ side, (row.on side).Means (value side))
    (hequal : (value .first).equal (value .second) = true) : row.IsIdle fun _ ↦ .wide := by
  induction row using TwinRow.induction generalizing value with
  | plain operand => trivial
  | call name argument ih =>
    choose inner hvalue hinner using fun side ↦ (h side).of_call
    rw [hvalue, hvalue, Expr.equal, Bool.and_eq_true] at hequal
    exact ih hinner hequal.2
  | bracketed content ih => exact ih (fun side ↦ (h side).of_bracketed) hequal
  | bracketedOn side content ih =>
    have hcontent : content.IsIdle fun _ ↦ .wide :=
      ih (fun side' ↦ (h side').of_bracketedIf) hequal
    refine ⟨by simpa only [ite_self] using hcontent, Row.fits_iff.2 fun link _ ↦ ?_⟩
    exact ⟨rank_le_wide _, rank_le_wide _⟩
  | negated operand ih =>
    choose single hsingle using operand.exists_last_of_negated h hequal
    have hinner (side : Side) : ∃ inner, value side = withSign .minus inner false ∧
        (operand.on side).Means inner := by
      have hmeans : (operand.on side).negated.Means (value side) := h side
      rw [hsingle] at hmeans ⊢
      exact hmeans.of_negated
    choose inner hvalue hinner using hinner
    rw [hvalue, hvalue] at hequal
    have hoperand : operand.IsIdle fun _ ↦ .wide :=
      ih hinner (Expr.equal_of_equal_withSign hequal)
    have hstays (side : Side) :
        (operand.on side).StaysWithin .wide { Edges.wide with before := .operand } := by
      rw [hsingle]
      exact List.forall_mem_nil _
    exact hoperand.change hstays
  | linked row hlinks ih =>
    choose left link right lhs rhs hrow hvalue hlhs hrhs hloosest using
      fun side ↦ (h side).of_links (links_on_ne_nil hlinks side)
    rw [hvalue, hvalue, Expr.equal_node] at hequal
    obtain ⟨-, hleft, hright⟩ := hequal
    have hcount : (left .first).leafCount = (left .second).leafCount := by
      rw [← (hlhs .first).leafCount_eq, ← (hlhs .second).leafCount_eq]
      exact Expr.leafCount_eq_of_equal hleft
    obtain ⟨before, common, behind, rfl, hon⟩ := exists_append_of_on hrow hcount
    obtain ⟨ihl, ihr⟩ := ih before common behind rfl
    refine isIdle_append_of_isLoosest (ihl (fun side ↦ (hon side).1 ▸ hlhs side) hleft)
      (ihr (fun side ↦ (hon side).2.2 ▸ hrhs side) hright) fun side ↦ ?_
    rw [(hon side).1, (hon side).2.1, (hon side).2.2]
    exact hloosest side

/-- The two rows of a legible twin row are read as equal formulas exactly if they differ in idle
brackets. -/
theorem exists_means_iff (hlegible : ∀ side, (row.on side).IsLegible) :
    ∃ value : Side → Expr, (∀ side, (row.on side).Means (value side)) ∧
      ((value .first).equal (value .second) = true ↔ row.IsIdle fun _ ↦ .wide) := by
  by_cases hidle : row.IsIdle fun _ ↦ .wide
  · obtain ⟨value, hvalue⟩ := hidle.exists_means hlegible
    have hequal := (Expr.equal_self_iff value).2 (hvalue .first).hasNaN
    exact ⟨fun _ ↦ value, hvalue, iff_of_true hequal hidle⟩
  · choose value hvalue using fun side ↦ (row.on side).exists_means (hlegible side)
    exact ⟨value, hvalue, iff_of_false (fun hequal ↦ hidle (isIdle_of_means hvalue hequal))
      hidle⟩

end TwinRow

end Linear

end FormulaText
