import FormulaText.Proofs.Grammar.Chain
import FormulaText.Proofs.Linear.Printing

/-!
# Rows of operands

What the linear notation shows of a formula is a row: operands with an operator or the mark of an
index between each two of them, and rows in brackets. It shows nothing of how the operands of a row
are grouped. A text determines its row, so two formulas have one text exactly if they have one row.
-/

namespace FormulaText.Linear

open Grammar

mutual

inductive Operand where
  | number (value : Binary64)
  | symbol (name : String)
  | call (name : String) (argument : Row)
  | bracketed (content : Row)
  | negated (operand : Operand)

/-- Operands with a link between each two of them. -/
inductive Row where
  | last (operand : Operand)
  | more (operand : Operand) (link : Link) (rest : Row)

end

mutual

def Operand.kinds : Operand → List Token.Kind
  | .number value => [.number value]
  | .symbol name => [.symbol name]
  | .call name argument =>
    .call name :: .bracket (.opening '(') :: (argument.kinds ++ [.bracket (.closing ')')])
  | .bracketed content => .bracket (.opening '(') :: (content.kinds ++ [.bracket (.closing ')')])
  | .negated operand => .operator .minus :: operand.kinds

def Row.kinds : Row → List Token.Kind
  | .last operand => operand.kinds
  | .more operand link rest => operand.kinds ++ link.kind :: rest.kinds

end

/-- Whether a row ends before some tokens, because these do not begin with a link. -/
def EndsRow (rest : List Token.Kind) : Prop := ∀ link : Link, rest.head? ≠ some link.kind

theorem endsRow_nil : EndsRow [] := by
  intro link
  exact Option.some_ne_none _ |>.symm

theorem endsRow_closing (rest : List Token.Kind) : EndsRow (.bracket (.closing ')') :: rest) := by
  intro link
  cases link <;> simp [Link.kind]

theorem not_endsRow (link : Link) (rest : List Token.Kind) : ¬EndsRow (link.kind :: rest) :=
  fun h ↦ h link rfl

theorem link_eq_of_kind_eq {link other : Link} (h : link.kind = other.kind) : link = other := by
  cases link <;> cases other <;> simp_all [Link.kind]

mutual

/-- No operand goes on as another one. -/
theorem Operand.eq_of_kinds_append (operand other : Operand) {rest rest' : List Token.Kind}
    (h : operand.kinds ++ rest = other.kinds ++ rest') : operand = other ∧ rest = rest' := by
  cases operand with
  | number value =>
    cases other <;> simp_all [Operand.kinds]
  | symbol name =>
    cases other <;> simp_all [Operand.kinds]
  | call name argument =>
    cases other with
    | call name' argument' =>
      simp only [Operand.kinds, List.cons_append, List.append_assoc, List.nil_append,
        List.cons.injEq, Token.Kind.call.injEq, true_and] at h
      obtain ⟨rfl, h⟩ := h
      obtain ⟨rfl, hrest⟩ := argument.eq_of_kinds_append argument' (endsRow_closing _)
        (endsRow_closing _) h
      exact ⟨rfl, (List.cons.inj hrest).2⟩
    | _ => simp [Operand.kinds] at h
  | bracketed content =>
    cases other with
    | bracketed content' =>
      simp only [Operand.kinds, List.cons_append, List.append_assoc, List.nil_append,
        List.cons.injEq, true_and] at h
      obtain ⟨rfl, hrest⟩ := content.eq_of_kinds_append content' (endsRow_closing _)
        (endsRow_closing _) h
      exact ⟨rfl, (List.cons.inj hrest).2⟩
    | _ => simp [Operand.kinds] at h
  | negated operand =>
    cases other with
    | negated operand' =>
      obtain ⟨-, h⟩ := List.cons.inj h
      obtain ⟨rfl, hrest⟩ := operand.eq_of_kinds_append operand' h
      exact ⟨rfl, hrest⟩
    | _ => simp [Operand.kinds] at h

/-- Where two rows end, the tokens of one are not the beginning of those of the other. -/
theorem Row.eq_of_kinds_append (row other : Row) {rest rest' : List Token.Kind}
    (hrest : EndsRow rest) (hrest' : EndsRow rest')
    (h : row.kinds ++ rest = other.kinds ++ rest') : row = other ∧ rest = rest' := by
  cases row with
  | last operand =>
    cases other with
    | last operand' =>
      obtain ⟨rfl, hsame⟩ := operand.eq_of_kinds_append operand' h
      exact ⟨rfl, hsame⟩
    | more operand' link' others' =>
      rw [Row.kinds, Row.kinds, List.append_assoc, List.cons_append] at h
      obtain ⟨-, rfl⟩ := operand.eq_of_kinds_append operand' h
      exact absurd hrest (not_endsRow _ _)
  | more operand link others =>
    cases other with
    | last operand' =>
      rw [Row.kinds, Row.kinds, List.append_assoc, List.cons_append] at h
      obtain ⟨-, rfl⟩ := operand.eq_of_kinds_append operand' h
      exact absurd hrest' (not_endsRow _ _)
    | more operand' link' others' =>
      rw [Row.kinds, Row.kinds, List.append_assoc, List.append_assoc, List.cons_append,
        List.cons_append] at h
      obtain ⟨rfl, hrow⟩ := operand.eq_of_kinds_append operand' h
      obtain ⟨hlink, hothers⟩ := List.cons.inj hrow
      obtain rfl := link_eq_of_kind_eq hlink
      obtain ⟨rfl, hsame⟩ := others.eq_of_kinds_append others' hrest hrest' hothers
      exact ⟨rfl, hsame⟩

end

/-- The tokens of a row determine it. -/
theorem Row.kinds_injective {row other : Row} (h : row.kinds = other.kinds) : row = other :=
  (row.eq_of_kinds_append other endsRow_nil endsRow_nil (congrArg (· ++ []) h)).1

namespace Row

def append : Row → Link → Row → Row
  | last operand, link, right => more operand link right
  | more operand first rest, link, right => more operand first (rest.append link right)

/-- A row whose first operand has a minus before it. -/
def negated : Row → Row
  | last operand => last (.negated operand)
  | more operand link rest => more (.negated operand) link rest

def bracketedIf (needed : Bool) (row : Row) : Row := if needed then last (.bracketed row) else row

theorem kinds_append (left : Row) (link : Link) (right : Row) :
    (left.append link right).kinds = left.kinds ++ link.kind :: right.kinds := by
  match left with
  | last operand => rfl
  | more operand first rest =>
    rw [append, kinds, kinds, kinds_append rest link right, List.append_assoc, List.cons_append]

theorem kinds_negated (row : Row) : row.negated.kinds = .operator .minus :: row.kinds := by
  cases row <;> rfl

theorem kinds_bracketedIf (needed : Bool) (row : Row) :
    (row.bracketedIf needed).kinds = enclosedIf needed row.kinds := by
  cases needed <;> rfl

end Row

/-! ## The row of a formula -/

def numberRow : Binary64 → Row
  | .finite negative magnitude =>
    if negative ∧ magnitude ≠ .zero then .last (.negated (.number (.finite false magnitude)))
    else .last (.number (.finite false magnitude))
  | .infinite negative =>
    if negative then .last (.negated (.symbol "inf")) else .last (.symbol "inf")
  | .nan => .last (.symbol "NaN")

theorem kinds_numberRow (value : Binary64) : (numberRow value).kinds = value.kinds := by
  cases value with
  | finite negative magnitude =>
    rw [numberRow, Binary64.kinds]
    split <;> rfl
  | infinite negative => cases negative <;> rfl
  | nan => rfl

end FormulaText.Linear

namespace FormulaText

open Grammar Linear

/-- The row that the linear notation shows of a formula. Of an equation, it is the left side. -/
def Expr.row : Expr → Row
  | .number value => numberRow value
  | .symbol name | .control name => .last (.symbol name)
  | .binary op lhs rhs grouped =>
    (lhs.row.bracketedIf (needsBracketsLeft op lhs)).append (.operator op)
      (rhs.row.bracketedIf (needsBracketsRight op rhs grouped))
  | .signed .minus operand grouped => (operand.row.bracketedIf grouped).negated
  | .signed .plus operand _ => operand.row
  | .apply name argument => .last (.call name argument.row)
  | .subscript base index => base.row.append .index (index.row.bracketedIf (!index.isLetter))
  | .equation lhs _ => lhs.row

/-- A formula is printed as the tokens of its row. -/
theorem Expr.linearKinds_eq {expr : Expr} (h : ∀ node ∈ expr.nodes, node.isEquation = false) :
    expr.linearKinds = expr.row.kinds := by
  induction expr with
  | number value => exact (kinds_numberRow value).symm
  | symbol name | control name => rfl
  | binary op lhs rhs grouped ihl ihr =>
    obtain ⟨-, hlhs, hrhs⟩ := forall_nodes_binary.1 h
    rw [linearKinds, row, Row.kinds_append, Row.kinds_bracketedIf, Row.kinds_bracketedIf, ihl hlhs,
      ihr hrhs]
    rfl
  | signed sign operand grouped ih =>
    obtain ⟨-, hoperand⟩ := forall_nodes_signed.1 h
    cases sign with
    | plus => exact ih hoperand
    | minus =>
      rw [linearKinds, row, Row.kinds_negated, Row.kinds_bracketedIf, ih hoperand]
  | apply name argument ih =>
    rw [linearKinds, ih (forall_nodes_apply.1 h).2]
    rfl
  | subscript base index ihbase ihindex =>
    obtain ⟨-, hbase, hindex⟩ := forall_nodes_subscript.1 h
    rw [linearKinds, row, Row.kinds_append, Row.kinds_bracketedIf, ihbase hbase, ihindex hindex]
    rfl
  | equation lhs rhs => exact absurd (h _ (self_mem_nodes _)) (by simp [isEquation])

/-! ## Texts and tokens -/

def Token.Kind.linearText : Token.Kind → String
  | .number value => value.positional
  | .operator op => String.singleton op.symbol
  | .symbol name | .control name | .call name => name
  | .bracket side => String.singleton side.mark
  | .underscore => "_"
  | .equal => "="
  | .endOfInput => ""

def linearText (kinds : List Token.Kind) : String := kinds.foldr (·.linearText ++ ·) ""

theorem linearText_append (left right : List Token.Kind) :
    linearText (left ++ right) = linearText left ++ linearText right := by
  induction left with
  | nil => exact String.empty_append.symm
  | cons kind left ih =>
    change kind.linearText ++ linearText (left ++ right) =
      kind.linearText ++ linearText left ++ linearText right
    rw [ih, String.append_assoc]

theorem linearText_cons (kind : Token.Kind) (kinds : List Token.Kind) :
    linearText (kind :: kinds) = kind.linearText ++ linearText kinds := rfl

theorem linearText_enclosedIf (needed : Bool) (kinds : List Token.Kind) :
    linearText (enclosedIf needed kinds) = bracketedIf needed (linearText kinds) := by
  cases needed with
  | false => rfl
  | true =>
    rw [enclosedIf, if_pos rfl, List.cons_append, linearText_cons, linearText_append]
    exact (String.append_assoc).symm

theorem positional_eq_linearText (value : Binary64) :
    value.withoutSignOfZero.positional = linearText value.kinds := by
  obtain ⟨negative, magnitude⟩ | negative | _ := value
  · rw [Binary64.positional_withoutSignOfZero, Binary64.kinds]
    split
    · exact congrArg ("-" ++ ·) String.append_empty.symm
    · exact String.append_empty.symm
  · cases negative <;> decide
  · decide

/-- A printed formula is the texts of its tokens. -/
theorem Expr.toLinear_eq (expr : Expr) : expr.toLinear = linearText expr.linearKinds := by
  induction expr with
  | number value => exact positional_eq_linearText value
  | symbol name | control name => exact String.append_empty.symm
  | binary op lhs rhs grouped ihl ihr =>
    rw [toLinear, linearKinds, linearText_append, linearText_cons, linearText_enclosedIf,
      linearText_enclosedIf, ← ihl, ← ihr, String.append_assoc]
    rfl
  | signed sign operand grouped ih =>
    cases sign with
    | plus => exact ih
    | minus =>
      rw [toLinear, linearKinds, linearText_cons, linearText_enclosedIf, ← ih]
      rfl
  | apply name argument ih =>
    rw [toLinear, linearKinds, linearText_cons, linearText_enclosedIf, ← ih, bracketedIf_true,
      String.append_assoc, String.append_assoc, String.append_assoc]
    rfl
  | subscript base index ihbase ihindex =>
    rw [toLinear, linearKinds, linearText_append, linearText_cons, linearText_enclosedIf, ← ihbase,
      ← ihindex, String.append_assoc]
    rfl
  | equation lhs rhs ihl ihr =>
    rw [toLinear, linearKinds, linearText_append, linearText_cons, ← ihl, ← ihr,
      String.append_assoc]
    rfl

end FormulaText
