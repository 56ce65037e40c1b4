import FormulaText.Proofs.Linear.Ambiguity

/-!
# What a row is read as

A row is read by the link that binds loosest in it: all links before that one may stand in its left
operand, and all links behind it in its right operand. The records of grouping are left out here.
Each row without unknown calls means something, and the tokens of the row are a phrase for it.
-/

namespace FormulaText

open Grammar

namespace Grammar.Link

def tierBefore : Link → Category
  | operator op => leftCategory op
  | index => .operand

/-- Two formulas with a link between them, and no record of grouping. -/
def node : Link → Expr → Expr → Expr
  | operator op, lhs, rhs => .binary op lhs rhs false
  | index, base, below => .subscript base below

theorem rank_operand_lt (link : Link) : Category.operand.rank < link.tier.rank := by
  cases link with
  | operator op => cases op <;> decide
  | index => decide

theorem rank_operand_le_tierBefore (link : Link) :
    Category.operand.rank ≤ link.tierBefore.rank := by
  cases link with
  | operator op => exact Nat.le_of_lt (rank_leftCategory op)
  | index => exact Nat.le_refl _

theorem rank_tierBefore_le (link : Link) : link.tierBefore.rank ≤ link.tier.rank := by
  cases link with
  | operator op => cases op <;> decide
  | index => decide

theorem rank_tierBehind_le (link : Link) : link.tierBehind.rank ≤ link.tier.rank := by
  cases link with
  | operator op => cases op <;> decide
  | index => decide

/-- Of two links, the first one goes into the left operand of the second one, or the second one into
the right operand of the first one. -/
theorem rank_tierBefore_or (link other : Link) :
    link.tier.rank ≤ other.tierBefore.rank ∨ other.tier.rank ≤ link.tierBehind.rank := by
  cases other with
  | operator op => exact link.rank_leftCategory_or op
  | index => exact .inr link.rank_tierBehind

/-- A link among others takes those before it into its left operand, and those behind it into its
right operand. -/
structure IsLoosest (before : List Link) (link : Link) (behind : List Link) : Prop where
  before : ∀ inner ∈ before, inner.tier.rank ≤ link.tierBefore.rank
  behind : ∀ inner ∈ behind, inner.tier.rank ≤ link.tierBehind.rank

/-- Links are as tight as the loosest of them. -/
theorem IsLoosest.rank_le {before behind : List Link} {link : Link} {bound : Nat}
    (h : IsLoosest before link behind) (hlink : link.tier.rank ≤ bound) :
    ∀ inner ∈ before ++ link :: behind, inner.tier.rank ≤ bound := by
  rw [List.forall_mem_append, List.forall_mem_cons]
  refine ⟨fun inner hinner ↦ ?_, hlink, fun inner hinner ↦ ?_⟩
  · exact Nat.le_trans (h.before inner hinner) (Nat.le_trans link.rank_tierBefore_le hlink)
  · exact Nat.le_trans (h.behind inner hinner) (Nat.le_trans link.rank_tierBehind_le hlink)

/-- One of some links is the loosest. -/
theorem exists_isLoosest {links : List Link} (h : links ≠ []) :
    ∃ before link behind, links = before ++ link :: behind ∧ IsLoosest before link behind := by
  induction links with
  | nil => contradiction
  | cons first rest ih =>
    by_cases hrest : rest = []
    · exact ⟨[], first, rest, rfl, List.forall_mem_nil _, by simp [hrest]⟩
    obtain ⟨before, link, behind, rfl, hloosest⟩ := ih hrest
    rcases first.rank_tierBefore_or link with hinto | htakes
    · exact ⟨first :: before, link, behind, rfl, List.forall_mem_cons.2 ⟨hinto, hloosest.before⟩,
        hloosest.behind⟩
    · exact ⟨[], first, before ++ link :: behind, rfl, List.forall_mem_nil _,
        hloosest.rank_le htakes⟩

end Grammar.Link

namespace Expr

def leafCount : Expr → Nat
  | number _ | symbol _ | control _ => 1
  | signed _ operand _ | apply _ operand => operand.leafCount
  | binary _ lhs rhs _ | subscript lhs rhs | equation lhs rhs => lhs.leafCount + rhs.leafCount

theorem leafCount_eq_of_equal {a b : Expr} (h : a.equal b = true) :
    a.leafCount = b.leafCount := by
  induction a generalizing b <;> cases b <;> simp_all [equal, leafCount] <;> grind

@[simp] theorem leafCount_node (link : Link) (lhs rhs : Expr) :
    (link.node lhs rhs).leafCount = lhs.leafCount + rhs.leafCount := by
  cases link <;> rfl

@[simp] theorem leafCount_withSign (sign : Sign) (value : Expr) (closed : Bool) :
    (withSign sign value closed).leafCount = value.leafCount := by
  cases sign <;> cases value <;> rfl

theorem clearGrouping_withSign (sign : Sign) (value : Expr) (closed : Bool) :
    (withSign sign value closed).clearGrouping = withSign sign value.clearGrouping false := by
  cases sign <;> cases value <;> simp [withSign, clearGrouping]

/-- Formulas with a link between them are equal if they have the same link and equal parts. -/
theorem equal_node {link link' : Link} {lhs rhs lhs' rhs' : Expr} :
    (link.node lhs rhs).equal (link'.node lhs' rhs') = true ↔
      link = link' ∧ lhs.equal lhs' = true ∧ rhs.equal rhs' = true := by
  cases link <;> cases link' <;> simp [Link.node, equal, and_assoc]

theorem not_equal_node_withSign (link : Link) (lhs rhs value : Expr) (sign : Sign) (closed : Bool) :
    (link.node lhs rhs).equal (withSign sign value closed) = false := by
  cases link <;> cases sign <;> cases value <;> rfl

theorem equal_of_equal_withSign {a b : Expr}
    (h : (withSign .minus a false).equal (withSign .minus b false) = true) :
    a.equal b = true := by
  cases a with
  | number value =>
    cases b with
    | number value' => exact (Binary64.equal_neg value value').symm.trans h
    | _ => contradiction
  | _ =>
    cases b with
    | number => contradiction
    | _ => simp_all [withSign, equal]

end Expr

namespace Linear

/-- Whether a name that is called takes its argument. -/
def IsCallable (name : String) : Prop := name = "sqrt" ∨ roleOf .common name = .function

/-- The formula that a row is read as, without records of grouping. -/
inductive Row.Means : Row → Expr → Prop
  | number {value : Binary64} (hfinite : value.isFinite = true) :
    Means (last (.number value)) (.number value)
  | symbol (name : String) : Means (last (.symbol name)) (.symbol name)
  | call {name argument value} (hname : IsCallable name) (h : Means argument value) :
    Means (last (.call name argument)) (.apply name value)
  | bracketed {content value} (h : Means content value) : Means (last (.bracketed content)) value
  | negated {operand value} (h : Means (last operand) value) :
    Means (last (.negated operand)) (withSign .minus value false)
  | linked {left link right lhs rhs} (hlhs : Means left lhs) (hrhs : Means right rhs)
    (hloosest : link.IsLoosest left.links right.links) :
    Means (left.append link right) (link.node lhs rhs)

variable {row : Row} {operand : Operand} {link : Link} {value first : Expr}

namespace Row

/-! ## Phrases for what a row means -/

theorem derives_call {name : String} {argument : Row} (hname : IsCallable name)
    (h : Derives .common .sum argument.kinds value) :
    Derives .common .operand (Operand.call name argument).kinds (.apply name value) := by
  rcases hname with rfl | hrole
  · have hopen : (enclosedIf true argument.kinds).head? ≠ some (.bracket (.opening '[')) := by
      rw [head?_enclosedIf_true]
      decide
    have hroot : roleOf .common "sqrt" = .root := by decide
    exact .operand_of_named (.root true hroot h.inParentheses hopen)
  · exact .operand_of_named (.application true hrole h.inParentheses.operand_of_group)

/-- The tokens of a row are a phrase of each tier that is as loose as all its links, for what the
row means. -/
theorem Means.exists_derives (h : row.Means value) {tier : Category}
    (htier : Category.operand.rank ≤ tier.rank)
    (hlinks : ∀ link ∈ row.links, link.tier.rank ≤ tier.rank) :
    ∃ found, Derives .common tier row.kinds found ∧ found.clearGrouping = value := by
  induction h generalizing tier with
  | @number value hfinite => exact ⟨_, (Derives.number value).loosen htier htier, rfl⟩
  | symbol name => exact ⟨_, (Derives.symbol name).loosen htier htier, rfl⟩
  | call hname h ih =>
    obtain ⟨found, hfound, rfl⟩ := @ih .sum (by decide) fun link _ ↦ by
      cases link.tier <;> decide
    exact ⟨_, (derives_call hname hfound).loosen htier htier, rfl⟩
  | bracketed h ih =>
    obtain ⟨found, hfound, rfl⟩ := @ih .sum (by decide) fun link _ ↦ by
      cases link.tier <;> decide
    exact ⟨found, hfound.inParentheses.loosen (Nat.zero_le _) htier, rfl⟩
  | negated h ih =>
    obtain ⟨found, hfound, rfl⟩ := @ih .operand (by decide) (List.forall_mem_nil _)
    exact ⟨_, (hfound.signed .minus).loosen htier htier, Expr.clearGrouping_withSign _ _ _⟩
  | @linked left link right lhs rhs hlhs hrhs hloosest ihl ihr =>
    obtain ⟨base, hbase, rfl⟩ := ihl link.rank_operand_le_tierBefore hloosest.before
    obtain ⟨rest, hrest, rfl⟩ := ihr (Nat.le_of_lt link.rank_tierBehind) hloosest.behind
    have hlink : link.tier.rank ≤ tier.rank := hlinks link (by simp [links_append])
    rw [kinds_append]
    cases link with
    | operator op => exact ⟨_, (hbase.operation op hrest).loosen hlink htier, rfl⟩
    | index => exact ⟨_, (hbase.indexed hrest).loosen hlink htier, rfl⟩

/-! ## Rows that mean something -/

/-- An operand and a link before a row. -/
theorem Means.exists_prepend (hfirst : (last operand).Means first) (h : row.Means value) :
    ∃ whole, (more operand link row).Means whole := by
  have htakes {row : Row} {value : Expr} (h : row.Means value)
      (hlinks : ∀ inner ∈ row.links, inner.tier.rank ≤ link.tierBehind.rank) :
      ∃ whole, (more operand link row).Means whole :=
    ⟨_, .linked hfirst h ⟨List.forall_mem_nil _, hlinks⟩⟩
  induction h with
  | number hfinite => exact htakes (.number hfinite) (List.forall_mem_nil _)
  | symbol name => exact htakes (.symbol name) (List.forall_mem_nil _)
  | call hname h => exact htakes (.call hname h) (List.forall_mem_nil _)
  | bracketed h => exact htakes (.bracketed h) (List.forall_mem_nil _)
  | negated h => exact htakes (.negated h) (List.forall_mem_nil _)
  | @linked left inner right lhs rhs hlhs hrhs hloosest ihl =>
    rcases link.rank_tierBefore_or inner with hinto | hrank
    · obtain ⟨whole, hwhole⟩ := ihl
      exact ⟨_, .linked hwhole hrhs ⟨List.forall_mem_cons.2 ⟨hinto, hloosest.before⟩,
        hloosest.behind⟩⟩
    · refine htakes (.linked hlhs hrhs hloosest) ?_
      rw [links_append]
      exact hloosest.rank_le hrank

end Row

mutual

def Operand.IsLegible : Operand → Prop
  | .number value => value.isFinite = true
  | .symbol _ => True
  | .call name argument => IsCallable name ∧ argument.IsLegible
  | .bracketed content => content.IsLegible
  | .negated operand => operand.IsLegible

/-- Whether the calls in a row take their arguments, and its numbers are finite. -/
def Row.IsLegible : Row → Prop
  | .last operand => operand.IsLegible
  | .more operand _ rest => operand.IsLegible ∧ rest.IsLegible

end

mutual

theorem Operand.exists_means (operand : Operand) (h : operand.IsLegible) :
    ∃ value, (Row.last operand).Means value := by
  cases operand with
  | number value => exact ⟨_, .number h⟩
  | symbol name => exact ⟨_, .symbol name⟩
  | call name argument =>
    obtain ⟨value, hvalue⟩ := argument.exists_means h.2
    exact ⟨_, .call h.1 hvalue⟩
  | bracketed content =>
    obtain ⟨value, hvalue⟩ := content.exists_means h
    exact ⟨_, .bracketed hvalue⟩
  | negated operand =>
    obtain ⟨value, hvalue⟩ := operand.exists_means h
    exact ⟨_, .negated hvalue⟩

/-- A legible row means something. -/
theorem Row.exists_means (row : Row) (h : row.IsLegible) : ∃ value, row.Means value := by
  cases row with
  | last operand => exact operand.exists_means h
  | more operand link rest =>
    obtain ⟨first, hfirst⟩ := operand.exists_means h.1
    obtain ⟨value, hvalue⟩ := rest.exists_means h.2
    exact hfirst.exists_prepend hvalue

end

namespace Row

@[simp] theorem isLegible_append (left : Row) (link : Link) (right : Row) :
    (left.append link right).IsLegible ↔ left.IsLegible ∧ right.IsLegible := by
  match left with
  | last operand => rfl
  | more operand first rest =>
    rw [append, IsLegible, IsLegible, isLegible_append rest link right, and_assoc]

@[simp] theorem isLegible_negated : row.negated.IsLegible ↔ row.IsLegible := by
  cases row <;> rfl

@[simp] theorem isLegible_bracketedIf (needed : Bool) :
    (row.bracketedIf needed).IsLegible ↔ row.IsLegible := by
  cases needed <;> rfl

/-! ## What the meaning of a row tells about it -/

theorem Means.of_call {name : String} {argument : Row}
    (h : (last (.call name argument)).Means value) :
    ∃ inner, value = .apply name inner ∧ argument.Means inner := by
  generalize hrow : last (.call name argument) = row at h
  cases h with
  | call hname h =>
    obtain ⟨rfl, rfl⟩ := Operand.call.inj (last.inj hrow)
    exact ⟨_, rfl, h⟩
  | number | symbol | bracketed | negated => exact Operand.noConfusion (last.inj hrow)
  | linked => exact absurd hrow.symm (append_ne_last _ _ _ _)

theorem Means.of_bracketed {content : Row} (h : (last (.bracketed content)).Means value) :
    content.Means value := by
  generalize hrow : last (.bracketed content) = row at h
  cases h with
  | bracketed h =>
    obtain rfl := Operand.bracketed.inj (last.inj hrow)
    exact h
  | number | symbol | call | negated => exact Operand.noConfusion (last.inj hrow)
  | linked => exact absurd hrow.symm (append_ne_last _ _ _ _)

theorem Means.of_negated (h : (last (.negated operand)).Means value) :
    ∃ inner, value = withSign .minus inner false ∧ (last operand).Means inner := by
  generalize hrow : last (.negated operand) = row at h
  cases h with
  | negated h =>
    obtain rfl := Operand.negated.inj (last.inj hrow)
    exact ⟨_, rfl, h⟩
  | number | symbol | call | bracketed => exact Operand.noConfusion (last.inj hrow)
  | linked => exact absurd hrow.symm (append_ne_last _ _ _ _)

/-- A row with links is read by its loosest one. -/
theorem Means.of_links (h : row.Means value) (hlinks : row.links ≠ []) :
    ∃ (left : Row) (link : Link) (right : Row) (lhs rhs : Expr),
      row = left.append link right ∧ value = link.node lhs rhs ∧
        left.Means lhs ∧ right.Means rhs ∧ link.IsLoosest left.links right.links := by
  cases h with
  | linked hlhs hrhs hloosest => exact ⟨_, _, _, _, _, rfl, rfl, hlhs, hrhs, hloosest⟩
  | number | symbol | call | bracketed | negated => exact absurd rfl hlinks

theorem Means.bracketedIf (h : row.Means value) (needed : Bool) :
    (row.bracketedIf needed).Means value := by
  cases needed with
  | true => exact .bracketed h
  | false => exact h

theorem Means.of_bracketedIf {needed : Bool} (h : (row.bracketedIf needed).Means value) :
    row.Means value := by
  cases needed with
  | true => exact h.of_bracketed
  | false => exact h

/-- What a row means has a value for each of its numbers. -/
theorem Means.hasNaN (h : row.Means value) : value.hasNaN = false := by
  induction h with
  | @number value hfinite => cases value <;> simp_all [Expr.hasNaN, Binary64.isFinite]
  | symbol => rfl
  | call hname h ih | bracketed h ih => exact ih
  | @negated operand value h ih =>
    cases value with
    | number value => cases value <;> simp_all [withSign, Expr.hasNaN, Binary64.neg]
    | _ => exact ih
  | @linked left link right lhs rhs hlhs hrhs hloosest ihl ihr =>
    cases link <;> simp [Link.node, Expr.hasNaN, ihl, ihr]

def leafCount (row : Row) : Nat :=
  row.kinds.countP fun kind ↦ match kind with
    | .number _ | .symbol _ => true
    | _ => false

@[simp] theorem leafCount_append (left : Row) (link : Link) (right : Row) :
    (left.append link right).leafCount = left.leafCount + right.leafCount := by
  cases link <;> simp [leafCount, kinds_append, Link.kind]

@[simp] theorem leafCount_negated : row.negated.leafCount = row.leafCount := by
  simp [leafCount, kinds_negated]

@[simp] theorem leafCount_bracketedIf (needed : Bool) :
    (row.bracketedIf needed).leafCount = row.leafCount := by
  cases needed <;> simp [leafCount, kinds_bracketedIf, enclosedIf]

/-- Reading a row keeps its numbers and symbols. -/
theorem Means.leafCount_eq (h : row.Means value) : value.leafCount = row.leafCount := by
  induction h with
  | number | symbol => rfl
  | call hname h ih => simpa [Expr.leafCount, leafCount, kinds, Operand.kinds] using ih
  | bracketed h ih => simpa [leafCount, kinds, Operand.kinds] using ih
  | negated h ih => simpa [leafCount, kinds, Operand.kinds] using ih
  | linked hlhs hrhs hloosest ihl ihr => simp [ihl, ihr]

end Row

mutual

theorem Operand.leafCount_pos (operand : Operand) : 0 < (Row.last operand).leafCount := by
  cases operand with
  | number | symbol => exact Nat.zero_lt_one
  | call name argument =>
    simpa [Row.leafCount, Row.kinds, Operand.kinds] using argument.leafCount_pos
  | bracketed content =>
    simpa [Row.leafCount, Row.kinds, Operand.kinds] using content.leafCount_pos
  | negated operand =>
    simpa [Row.leafCount, Row.kinds, Operand.kinds] using operand.leafCount_pos

theorem Row.leafCount_pos (row : Row) : 0 < row.leafCount := by
  cases row with
  | last operand => exact operand.leafCount_pos
  | more operand link rest =>
    have hfirst := operand.leafCount_pos
    change 0 < ((Row.last operand).append link rest).leafCount
    rw [Row.leafCount_append]
    omega

end

end Linear

end FormulaText
