import FormulaText.Proofs.Linear.Roundtrip
import FormulaText.Proofs.Linear.Row

/-!
# Formulas with the same linear text

The linear notation does not tell a power of a power from a power in an exponent, nor a remainder
on the left of another one from one on its right, nor an index below an operation from one below its
last operand. Two formulas have the same text exactly if they show the same row, and without these
shapes a row is that of one formula.
-/

namespace FormulaText

open Grammar

namespace Linear

/-- Two formulas have the same text exactly if they have the same row. -/
theorem toLinear_eq_iff {first second : Expr} (hfirst : IsPhraseTree .common first)
    (hsecond : IsPhraseTree .common second) :
    first.toLinear = second.toLinear ↔ first.row = second.row := by
  have hkinds {expr : Expr} (htree : IsPhraseTree .common expr) :
      expr.linearKinds = expr.row.kinds :=
    Expr.linearKinds_eq fun node hnode ↦ Expr.isEquation_of_isShaped (htree node hnode).1
  constructor
  · intro htext
    have hgives := gives_toLinear fun node hnode ↦ (hfirst node hnode).2
    rw [htext] at hgives
    have hsame := answers_unique hgives (gives_toLinear fun node hnode ↦ (hsecond node hnode).2)
    rw [hkinds hfirst, hkinds hsecond] at hsame
    exact (Row.kinds_injective hsame).symm
  · intro hrow
    rw [Expr.toLinear_eq, Expr.toLinear_eq, hkinds hfirst, hkinds hsecond, hrow]

/-! ## Where rows fall apart -/

namespace Row

def links : Row → List Link
  | last _ => []
  | more _ link rest => link :: rest.links

theorem links_append (left : Row) (link : Link) (right : Row) :
    (left.append link right).links = left.links ++ link :: right.links := by
  match left with
  | last operand => rfl
  | more operand first rest => rw [append, links, links, links_append rest link right]; rfl

/-- A row falls apart at the first place of a link. -/
theorem append_inj {left left' right right' : Row} {link : Link} (hleft : link ∉ left.links)
    (hleft' : link ∉ left'.links) (h : left.append link right = left'.append link right') :
    left = left' ∧ right = right' := by
  match left, left' with
  | last operand, last operand' =>
    injection h with hoperand _ hright
    exact ⟨congrArg last hoperand, hright⟩
  | last operand, more operand' first' rest' =>
    injection h with _ hlink _
    exact absurd (hlink ▸ List.mem_cons_self) hleft'
  | more operand first rest, last operand' =>
    injection h with _ hlink _
    exact absurd (hlink ▸ List.mem_cons_self) hleft
  | more operand first rest, more operand' first' rest' =>
    injection h with hoperand hlink hrest
    obtain ⟨rfl, hright⟩ := append_inj (fun hmem ↦ hleft (List.mem_cons_of_mem _ hmem))
      (fun hmem ↦ hleft' (List.mem_cons_of_mem _ hmem)) hrest
    exact ⟨by rw [hoperand, hlink], hright⟩

/-- A row falls apart at its last link. -/
theorem append_last_inj {left left' : Row} {link link' : Link} {operand operand' : Operand}
    (h : left.append link (last operand) = left'.append link' (last operand')) :
    left = left' ∧ operand = operand' := by
  match left, left' with
  | last first, last first' =>
    injection h with hfirst _ hlast
    injection hlast with hoperand
    exact ⟨congrArg last hfirst, hoperand⟩
  | last first, more first' inner' rest' =>
    injection h with _ _ hrest
    cases rest' <;> simp [append] at hrest
  | more first inner rest, last first' =>
    injection h with _ _ hrest
    cases rest <;> simp [append] at hrest
  | more first inner rest, more first' inner' rest' =>
    injection h with hfirst hinner hrest
    obtain ⟨rfl, hoperand⟩ := append_last_inj hrest
    exact ⟨by rw [hfirst, hinner], hoperand⟩

theorem links_bracketedIf (needed : Bool) (row : Row) :
    (row.bracketedIf needed).links = if needed then [] else row.links := by
  cases needed <;> rfl

/-- Whether a row is more than one operand in brackets. -/
def IsOpen (row : Row) : Prop := ∀ content, row ≠ last (.bracketed content)

/-- Open rows are known from what they are in brackets or without. -/
theorem bracketedIf_inj {row other : Row} {needed needed' : Bool} (hrow : row.IsOpen)
    (hother : other.IsOpen) (h : row.bracketedIf needed = other.bracketedIf needed') :
    row = other := by
  cases needed <;> cases needed'
  · exact h
  · exact absurd h (hrow other)
  · exact absurd h.symm (hother row)
  · injection h with h
    injection h

theorem append_ne_last (left : Row) (link : Link) (right : Row) (operand : Operand) :
    left.append link right ≠ last operand := by
  intro h
  cases left <;> simp [append] at h

theorem isOpen_append (left : Row) (link : Link) (right : Row) :
    (left.append link right).IsOpen :=
  fun _ ↦ append_ne_last _ _ _ _

end Row

end Linear

open Linear

namespace Expr

/-! ## Settled formulas -/

/-- Whether a node is one of the tight constructs: a finite number that is not negative, a symbol,
a call, an index, a power or a remainder. -/
def isTight : Expr → Bool
  | number value => value.isFinite && !value.isNegative
  | symbol _ | apply _ _ | subscript _ _ => true
  | binary op _ _ _ => op = .exponent || op = .modulus
  | control _ | signed _ _ _ | equation _ _ => false

/-- Whether a node has no operation of its own operator on its left, and no operation above its
index. -/
def keepsSides : Expr → Bool
  | binary op lhs _ _ => lhs.operator? ≠ some op
  | subscript base _ => !base.isBinary
  | _ => true

/-- A formula is settled if each of its nodes is a tight construct that keeps its sides and has no
record of grouping. -/
def IsSettled (expr : Expr) : Prop :=
  ∀ node ∈ expr.nodes, node.isTight = true ∧ node.keepsSides = true ∧ node.isShaped = true

variable {expr lhs rhs base index argument : Expr} {op : Operator} {grouped : Bool} {name : String}

theorem operator?_binary : (binary op lhs rhs grouped).operator? = some op := rfl

theorem operator?_subscript : (subscript base index).operator? = none := rfl

theorem isTight_binary (h : (binary op lhs rhs grouped).isTight = true) :
    op = .exponent ∨ op = .modulus := by
  simpa [isTight] using h

theorem grouped_eq_false (htight : (binary op lhs rhs grouped).isTight = true)
    (hshaped : (binary op lhs rhs grouped).isShaped = true) : grouped = false := by
  rcases isTight_binary htight with rfl | rfl <;> simpa [isShaped] using hshaped

/-- Of the tight constructs, a power has no operand in brackets, and a remainder has those that are
powers. -/
theorem needsBracketsLeft_of_isTight (hop : op = .exponent ∨ op = .modulus)
    (h : lhs.isTight = true) :
    needsBracketsLeft op lhs = (op = .modulus && lhs.operator? = some .exponent) := by
  cases lhs with
  | binary inner a b grouped =>
    rcases hop with rfl | rfl <;> rcases isTight_binary h with rfl | rfl <;> rfl
  | number value =>
    have hnegative : value.isNegative = false := by
      simp only [isTight, Bool.and_eq_true, Bool.not_eq_true'] at h
      exact h.2
    simp [needsBracketsLeft, isLooser, isNegativeNumber, operator?, hnegative]
  | _ => simp [needsBracketsLeft, isLooser, isNegativeNumber, operator?]

theorem needsBracketsRight_of_isTight (hop : op = .exponent ∨ op = .modulus)
    (h : rhs.isTight = true) :
    needsBracketsRight op rhs false = (op = .modulus && rhs.operator? = some .exponent) := by
  rw [← needsBracketsLeft_of_isTight hop h]
  cases rhs with
  | signed => contradiction
  | _ => rcases hop with rfl | rfl <;> simp [needsBracketsRight, needsBracketsLeft, isSigned]

theorem row_binary_of_isTight (hop : op = .exponent ∨ op = .modulus) (hlhs : lhs.isTight = true)
    (hrhs : rhs.isTight = true) :
    (binary op lhs rhs false).row =
      (lhs.row.bracketedIf (op = .modulus && lhs.operator? = some .exponent)).append (.operator op)
        (rhs.row.bracketedIf (op = .modulus && rhs.operator? = some .exponent)) := by
  rw [row, needsBracketsLeft_of_isTight hop hlhs, needsBracketsRight_of_isTight hop hrhs]

theorem numberRow_of_isTight {value : Binary64} (h : (number value).isTight = true) :
    ∃ negative magnitude, value = .finite negative magnitude ∧ (negative = true → magnitude = .zero) ∧
      numberRow value = .last (.number (.finite false magnitude)) := by
  obtain ⟨negative, magnitude⟩ | _ | _ := value
  · have hzero : negative = true → magnitude = .zero := by
      simp only [isTight, Binary64.isFinite, Binary64.isNegative] at h
      grind
    refine ⟨negative, magnitude, rfl, hzero, ?_⟩
    rw [numberRow, if_neg fun hnegative ↦ hnegative.2 (hzero hnegative.1)]
  · contradiction
  · contradiction

theorem isOpen_row (h : expr.isTight = true) : expr.row.IsOpen := by
  cases expr with
  | number value =>
    obtain ⟨negative, magnitude, -, -, hrow⟩ := numberRow_of_isTight h
    intro content
    rw [row, hrow]
    simp
  | symbol | apply =>
    intro content
    simp [row]
  | binary | subscript => exact Row.isOpen_append _ _ _
  | control | signed | equation => contradiction

theorem IsSettled.isTight (h : expr.IsSettled) : expr.isTight = true :=
  (h _ expr.self_mem_nodes).1

theorem IsSettled.of_binary (h : (binary op lhs rhs grouped).IsSettled) :
    (op = .exponent ∨ op = .modulus) ∧ grouped = false ∧ lhs.operator? ≠ some op ∧
      lhs.IsSettled ∧ rhs.IsSettled := by
  obtain ⟨⟨htight, hkeeps, hshaped⟩, hlhs, hrhs⟩ := forall_nodes_binary.1 h
  exact ⟨isTight_binary htight, grouped_eq_false htight hshaped, of_decide_eq_true hkeeps, hlhs, hrhs⟩

/-- A settled formula that is neither a power nor a remainder is no operation. -/
theorem IsSettled.operator?_eq_none (h : expr.IsSettled) (hexponent : expr.operator? ≠ some .exponent)
    (hmodulus : expr.operator? ≠ some .modulus) : expr.operator? = none := by
  cases expr with
  | binary op lhs rhs grouped => rcases h.of_binary.1 with rfl | rfl <;> contradiction
  | _ => rfl

theorem IsSettled.of_subscript (h : (subscript base index).IsSettled) :
    base.operator? = none ∧ base.IsSettled ∧ index.IsSettled := by
  obtain ⟨⟨-, hkeeps, -⟩, hbase, hindex⟩ := forall_nodes_subscript.1 h
  exact ⟨by simpa [keepsSides, isBinary] using hkeeps, hbase, hindex⟩

/-- An index is one operand of a row. -/
theorem exists_operand_of_index (h : index.isTight = true) :
    ∃ operand, index.row.bracketedIf (!index.isLetter) = .last operand := by
  cases hletter : index.isLetter with
  | false => exact ⟨_, rfl⟩
  | true =>
    cases index with
    | symbol name => exact ⟨_, rfl⟩
    | _ => contradiction

theorem not_mem_links_bracketedIf
    (h : .operator .exponent ∈ expr.row.links ↔ expr.operator? = some .exponent) :
    .operator .exponent ∉ (expr.row.bracketedIf (expr.operator? = some .exponent)).links := by
  rw [Row.links_bracketedIf]
  by_cases hpower : expr.operator? = some .exponent <;> simp [hpower, h]

/-- The row of a settled formula has the link of a power exactly if the formula is a power, and that
of a remainder only if it is an operation. -/
theorem links_row (h : expr.IsSettled) :
    (.operator .exponent ∈ expr.row.links ↔ expr.operator? = some .exponent) ∧
      (expr.operator? = none → .operator .modulus ∉ expr.row.links) := by
  induction expr with
  | number value =>
    obtain ⟨negative, magnitude, -, -, hrow⟩ := numberRow_of_isTight h.isTight
    rw [row, hrow]
    simp [Row.links, operator?]
  | symbol | apply => simp [row, Row.links, operator?]
  | control | signed | equation => exact absurd h.isTight (by simp [isTight])
  | binary op lhs rhs grouped ihl ihr =>
    obtain ⟨hop, rfl, -, hlhs, hrhs⟩ := h.of_binary
    refine ⟨?_, fun hnone ↦ absurd hnone (Option.some_ne_none op)⟩
    rw [row_binary_of_isTight hop hlhs.isTight hrhs.isTight, Row.links_append]
    rcases hop with rfl | rfl
    · simp [operator?_binary]
    · have hleft := not_mem_links_bracketedIf (ihl hlhs).1
      have hright := not_mem_links_bracketedIf (ihr hrhs).1
      simp [operator?_binary, hleft, hright]
  | subscript base index ihbase ihindex =>
    obtain ⟨hnone, hbase, hindex⟩ := h.of_subscript
    obtain ⟨hexponent, hmodulus⟩ := ihbase hbase
    obtain ⟨operand, hoperand⟩ := exists_operand_of_index hindex.isTight
    rw [row, Row.links_append, hoperand]
    simp [operator?_subscript, Row.links, hexponent, hmodulus hnone, hnone]

/-- The links of a row tell which operation a settled formula is. -/
theorem operator?_eq_of_links (h : expr.IsSettled) :
    expr.operator? =
      if .operator .exponent ∈ expr.row.links then some .exponent
      else if .operator .modulus ∈ expr.row.links then some .modulus
      else none := by
  obtain ⟨hexponent, hmodulus⟩ := links_row h
  by_cases hpower : expr.operator? = some .exponent
  · rw [if_pos (hexponent.2 hpower), hpower]
  · rw [if_neg fun hmem ↦ hpower (hexponent.1 hmem)]
    cases expr with
    | binary op lhs rhs grouped =>
      obtain ⟨hop, rfl, -, hlhs, hrhs⟩ := h.of_binary
      obtain rfl := hop.resolve_left fun hop ↦ hpower (congrArg some hop)
      rw [row_binary_of_isTight hop hlhs.isTight hrhs.isTight, Row.links_append]
      simp [operator?]
    | _ => rw [if_neg (hmodulus rfl)]; rfl

/-- The first link for the operator of a settled operation is the one between its operands. -/
theorem not_mem_links_left (h : (binary op lhs rhs grouped).IsSettled) :
    .operator op ∉
      (lhs.row.bracketedIf (op = .modulus && lhs.operator? = some .exponent)).links := by
  obtain ⟨hop, -, hside, hlhs, -⟩ := h.of_binary
  obtain ⟨hexponent, hmodulus⟩ := links_row hlhs
  rw [Row.links_bracketedIf]
  rcases hop with rfl | rfl
  · simpa [hexponent] using hside
  · by_cases hpower : lhs.operator? = some .exponent
    · simp [hpower]
    · simpa [hpower] using hmodulus (hlhs.operator?_eq_none hpower hside)

/-- A settled formula whose row is one operand is a number, a symbol or a call, as the operand. -/
theorem of_row_eq_last {operand : Operand} (h : expr.IsSettled) (hrow : expr.row = .last operand) :
    (∃ value magnitude, expr = number value ∧ operand = .number (.finite false magnitude)) ∨
      (∃ name, expr = symbol name ∧ operand = .symbol name) ∨
      ∃ name argument, expr = apply name argument ∧ operand = .call name argument.row := by
  cases expr with
  | number value =>
    obtain ⟨negative, magnitude, -, -, hvalue⟩ := numberRow_of_isTight h.isTight
    exact .inl ⟨value, magnitude, rfl, Row.last.inj (hrow.symm.trans hvalue)⟩
  | symbol name => exact .inr (.inl ⟨name, rfl, (Row.last.inj hrow).symm⟩)
  | apply name argument => exact .inr (.inr ⟨name, argument, rfl, (Row.last.inj hrow).symm⟩)
  | binary | subscript => exact absurd hrow (Row.append_ne_last _ _ _ _)
  | control | signed | equation => exact absurd h.isTight (by simp [Expr.isTight])

/-- Numbers that are settled and have the same row are equal: only their signs of zero may differ. -/
theorem equal_number_of_row_eq {value value' : Binary64} (h : (number value).isTight = true)
    (h' : (number value').isTight = true) (hrow : numberRow value = numberRow value') :
    value.equal value' = true := by
  obtain ⟨negative, magnitude, rfl, hzero, hvalue⟩ := numberRow_of_isTight h
  obtain ⟨negative', magnitude', rfl, hzero', hvalue'⟩ := numberRow_of_isTight h'
  rw [hvalue, hvalue'] at hrow
  obtain rfl : magnitude = magnitude' := by simpa using hrow
  simp only [Binary64.equal]
  grind

/-- The operands of settled operations with the same operator and the same row have the same rows. -/
theorem row_eq_of_binary {lhs' rhs' : Expr} {grouped' : Bool}
    (h : (binary op lhs rhs grouped).IsSettled) (h' : (binary op lhs' rhs' grouped').IsSettled)
    (hrow : (binary op lhs rhs grouped).row = (binary op lhs' rhs' grouped').row) :
    lhs.row = lhs'.row ∧ rhs.row = rhs'.row := by
  have hleft := not_mem_links_left h
  have hleft' := not_mem_links_left h'
  obtain ⟨hop, rfl, -, hlhs, hrhs⟩ := h.of_binary
  obtain ⟨-, rfl, -, hlhs', hrhs'⟩ := h'.of_binary
  rw [row_binary_of_isTight hop hlhs.isTight hrhs.isTight,
    row_binary_of_isTight hop hlhs'.isTight hrhs'.isTight] at hrow
  obtain ⟨hl, hr⟩ := Row.append_inj hleft hleft' hrow
  exact ⟨Row.bracketedIf_inj (isOpen_row hlhs.isTight) (isOpen_row hlhs'.isTight) hl,
    Row.bracketedIf_inj (isOpen_row hrhs.isTight) (isOpen_row hrhs'.isTight) hr⟩

/-- The parts of settled formulas with an index and with the same row have the same rows. -/
theorem row_eq_of_subscript {base' index' : Expr} (h : (subscript base index).IsSettled)
    (h' : (subscript base' index').IsSettled)
    (hrow : (subscript base index).row = (subscript base' index').row) :
    base.row = base'.row ∧ index.row = index'.row := by
  obtain ⟨-, -, hindex⟩ := h.of_subscript
  obtain ⟨-, -, hindex'⟩ := h'.of_subscript
  obtain ⟨operand, hoperand⟩ := exists_operand_of_index hindex.isTight
  obtain ⟨operand', hoperand'⟩ := exists_operand_of_index hindex'.isTight
  rw [row, row, hoperand, hoperand'] at hrow
  obtain ⟨hbase, rfl⟩ := Row.append_last_inj hrow
  exact ⟨hbase, Row.bracketedIf_inj (isOpen_row hindex.isTight) (isOpen_row hindex'.isTight)
    (hoperand.trans hoperand'.symm)⟩

/-- Settled formulas with the same row are equal. -/
theorem equal_of_row_eq {other : Expr} (h : expr.IsSettled) (hother : other.IsSettled)
    (hrow : expr.row = other.row) : expr.equal other = true := by
  induction expr generalizing other with
  | number value =>
    obtain ⟨negative, magnitude, -, -, hvalue⟩ := numberRow_of_isTight h.isTight
    rcases of_row_eq_last hother (hrow.symm.trans hvalue) with
      ⟨value', _, rfl, -⟩ | ⟨_, -, hoperand⟩ | ⟨_, _, -, hoperand⟩
    · exact equal_number_of_row_eq h.isTight hother.isTight hrow
    · contradiction
    · contradiction
  | symbol name =>
    rcases of_row_eq_last hother hrow.symm with
      ⟨_, _, -, hoperand⟩ | ⟨name', rfl, hoperand⟩ | ⟨_, _, -, hoperand⟩
    · contradiction
    · obtain rfl := Operand.symbol.inj hoperand
      simp [equal]
    · contradiction
  | apply name argument ih =>
    rcases of_row_eq_last hother hrow.symm with
      ⟨_, _, -, hoperand⟩ | ⟨_, -, hoperand⟩ | ⟨name', argument', rfl, hoperand⟩
    · contradiction
    · contradiction
    · obtain ⟨rfl, hargument⟩ := Operand.call.inj hoperand
      have hequal := ih (forall_nodes_apply.1 h).2 (forall_nodes_apply.1 hother).2 hargument
      simp [equal, hequal]
  | binary op lhs rhs grouped ihl ihr =>
    have hoperator : some op = other.operator? := by
      rw [operator?_eq_of_links hother, ← hrow, ← operator?_eq_of_links h]
      rfl
    cases other with
    | binary op' lhs' rhs' grouped' =>
      obtain rfl := Option.some.inj hoperator
      obtain ⟨hlrow, hrrow⟩ := row_eq_of_binary h hother hrow
      obtain ⟨-, rfl, -, hlhs, hrhs⟩ := h.of_binary
      obtain ⟨-, rfl, -, hlhs', hrhs'⟩ := hother.of_binary
      simp [equal, ihl hlhs hlhs' hlrow, ihr hrhs hrhs' hrrow]
    | _ => contradiction
  | subscript base index ihbase ihindex =>
    have hoperator : none = other.operator? := by
      rw [operator?_eq_of_links hother, ← hrow, ← operator?_eq_of_links h]
      rfl
    cases other with
    | subscript base' index' =>
      obtain ⟨hbrow, hirow⟩ := row_eq_of_subscript h hother hrow
      obtain ⟨-, hbase, hindex⟩ := h.of_subscript
      obtain ⟨-, hbase', hindex'⟩ := hother.of_subscript
      simp [equal, ihbase hbase hbase' hbrow, ihindex hindex hindex' hirow]
    | number value' =>
      obtain ⟨negative, magnitude, -, -, hvalue⟩ := numberRow_of_isTight hother.isTight
      exact absurd (hrow.trans hvalue) (Row.append_ne_last _ _ _ _)
    | symbol | apply => exact absurd hrow (Row.append_ne_last _ _ _ _)
    | binary => contradiction
    | control | signed | equation => exact absurd hother.isTight (by simp [Expr.isTight])
  | control | signed | equation => exact absurd h.isTight (by simp [Expr.isTight])

end Expr

namespace Linear

variable {op : Operator} {lhs middle rhs base index : Expr}

/-- A power of a power and a power in an exponent have one text, and so have two remainders. -/
theorem toLinear_rotate (hop : op = .exponent ∨ op = .modulus) (hmiddle : middle.isTight = true) :
    (Expr.binary op (.binary op lhs middle false) rhs false).toLinear =
      (Expr.binary op lhs (.binary op middle rhs false) false).toLinear := by
  have hleft : Expr.needsBracketsLeft op (.binary op lhs middle false) = false := by
    rcases hop with rfl | rfl <;> rfl
  have hright : Expr.needsBracketsRight op (.binary op middle rhs false) false = false := by
    rcases hop with rfl | rfl <;> rfl
  simp only [Expr.toLinear, hleft, hright, Expr.needsBracketsLeft_of_isTight hop hmiddle,
    Expr.needsBracketsRight_of_isTight hop hmiddle, bracketedIf_false, String.append_assoc]

/-- An index below a power and one below its exponent have one text. -/
theorem toLinear_index (hrhs : rhs.isTight = true) :
    (Expr.subscript (.binary .exponent lhs rhs false) index).toLinear =
      (Expr.binary .exponent lhs (.subscript rhs index) false).toLinear := by
  have hright : Expr.needsBracketsRight .exponent rhs false = false :=
    Expr.needsBracketsRight_of_isTight (.inl rfl) hrhs
  have hindexed : Expr.needsBracketsRight .exponent (.subscript rhs index) false = false := rfl
  simp only [Expr.toLinear, hright, hindexed, bracketedIf_false, String.append_assoc]

/-- Two formulas that were read and are made of tight constructs have the same linear text exactly
if they have the same row. If in addition no power stands on the left of a power, no remainder on
the left of a remainder, and no operation above an index, they are then equal. -/
theorem toLinear_eq_iff_row {first second : Expr} {text other : String}
    (hfirst : Latex.parse text = .ok (some first))
    (hsecond : Latex.parse other = .ok (some second))
    (htight : ∀ node ∈ first.nodes ++ second.nodes, node.isTight = true) :
    (first.toLinear = second.toLinear ↔ first.row = second.row) ∧
      ((∀ node ∈ first.nodes ++ second.nodes, node.keepsSides = true) →
        first.toLinear = second.toLinear → first.equal second = true) := by
  rw [List.forall_mem_append] at htight
  have htree {expr : Expr} {text : String} (hparse : Latex.parse text = .ok (some expr))
      (htight : ∀ node ∈ expr.nodes, node.isTight = true) : IsPhraseTree .common expr := by
    have hformula := Latex.isFormulaOf_of_parse hparse
    cases expr with
    | equation => exact absurd (htight _ (Expr.self_mem_nodes _)) (by simp [Expr.isTight])
    | _ => exact hformula
  have hfirsttree := htree hfirst htight.1
  have hsecondtree := htree hsecond htight.2
  have hiff := toLinear_eq_iff hfirsttree hsecondtree
  refine ⟨hiff, fun hkeeps htext ↦ ?_⟩
  rw [List.forall_mem_append] at hkeeps
  exact Expr.equal_of_row_eq
    (fun node hnode ↦ ⟨htight.1 node hnode, hkeeps.1 node hnode, (hfirsttree node hnode).1⟩)
    (fun node hnode ↦ ⟨htight.2 node hnode, hkeeps.2 node hnode, (hsecondtree node hnode).1⟩)
    (hiff.1 htext)

/-- An index of zero and one of negative zero are printed alike, and are equal. -/
theorem toLinear_eq_iff_row_zero :
    let first := Expr.binary .exponent (.subscript (.symbol "a") (.number (.finite false .zero)))
      (.binary .modulus (.symbol "b") (.binary .exponent (.symbol "c") (.number .one) false) false)
      false
    let second := Expr.binary .exponent (.subscript (.symbol "a") (.number (.finite true .zero)))
      (.binary .modulus (.symbol "b") (.binary .exponent (.symbol "c") (.number .one) false) false)
      false
    Latex.parse "a_0^(b\\bmod c^1)" = .ok (some first) ∧
      Latex.parse "a_(-0)^(b\\bmod c^1)" = .ok (some second) ∧
      first.toLinear = second.toLinear ∧ first.equal second = true := by
  intro first second
  have hfirst : Latex.parse "a_0^(b\\bmod c^1)" = .ok (some first) :=
    eq_ok_of_toOption (by decide +kernel)
  have hsecond : Latex.parse "a_(-0)^(b\\bmod c^1)" = .ok (some second) :=
    eq_ok_of_toOption (by decide +kernel)
  obtain ⟨hiff, hequal⟩ := toLinear_eq_iff_row hfirst hsecond (by decide)
  have htext := hiff.2 rfl
  exact ⟨hfirst, hsecond, htext, hequal (by decide) htext⟩

/-- Two texts of LaTeX are read as formulas made of tight constructs that have the same linear text
and are not equal. -/
def AreConfused (text other : String) : Prop :=
  ∃ first second, Latex.parse text = .ok (some first) ∧ Latex.parse other = .ok (some second) ∧
    (∀ node ∈ first.nodes ++ second.nodes, node.isTight = true) ∧
    first.toLinear = second.toLinear ∧ first.equal second = false

/-- A power of a power is confused with a power in an exponent, a remainder of a remainder with a
remainder by one, and an index below a power with one in its exponent. -/
theorem areConfused_powers :
    AreConfused "(a^b)^c" "a^b^c" ∧ AreConfused "(a\\bmod b)\\bmod c" "a\\bmod b\\bmod c" ∧
      AreConfused "(a^b)_c" "a^(b_c)" := by
  have hpowers : AreConfused "(a^b)^c" "a^b^c" :=
    ⟨.binary .exponent (.binary .exponent (.symbol "a") (.symbol "b") false) (.symbol "c") false,
      .binary .exponent (.symbol "a") (.binary .exponent (.symbol "b") (.symbol "c") false) false,
      eq_ok_of_toOption (by decide +kernel), eq_ok_of_toOption (by decide +kernel), by decide,
      toLinear_rotate (.inl rfl) rfl, by decide⟩
  have hremainders : AreConfused "(a\\bmod b)\\bmod c" "a\\bmod b\\bmod c" :=
    ⟨.binary .modulus (.binary .modulus (.symbol "a") (.symbol "b") false) (.symbol "c") false,
      .binary .modulus (.symbol "a") (.binary .modulus (.symbol "b") (.symbol "c") false) false,
      eq_ok_of_toOption (by decide +kernel), eq_ok_of_toOption (by decide +kernel), by decide,
      toLinear_rotate (.inr rfl) rfl, by decide⟩
  have hindices : AreConfused "(a^b)_c" "a^(b_c)" :=
    ⟨.subscript (.binary .exponent (.symbol "a") (.symbol "b") false) (.symbol "c"),
      .binary .exponent (.symbol "a") (.subscript (.symbol "b") (.symbol "c")) false,
      eq_ok_of_toOption (by decide +kernel), eq_ok_of_toOption (by decide +kernel), by decide,
      toLinear_index rfl, by decide⟩
  exact ⟨hpowers, hremainders, hindices⟩

end Linear

end FormulaText
