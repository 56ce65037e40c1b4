import FormulaText.Proofs.Grammar.Phrase
import Mathlib.Data.List.Infix

/-!
# Balanced brackets

Tokens are balanced if each closing bracket has an opening one before it, and none stays open.
Characters of brackets play no role in this. Phrases are balanced, so that no phrase begins or ends
between a bracket and its partner unless it does so on both sides.
-/

namespace FormulaText

def Token.Kind.rise : Token.Kind → Int
  | .bracket ⟨_, true⟩ => 1
  | .bracket ⟨_, false⟩ => -1
  | _ => 0

namespace Grammar

variable {kinds left right front back before after : List Token.Kind} {kind : Token.Kind}

def height : List Token.Kind → Int
  | [] => 0
  | kind :: kinds => kind.rise + height kinds

@[simp] theorem height_nil : height [] = 0 := rfl

@[simp] theorem height_cons (kind : Token.Kind) (kinds : List Token.Kind) :
    height (kind :: kinds) = kind.rise + height kinds := rfl

@[simp] theorem height_append (left right : List Token.Kind) :
    height (left ++ right) = height left + height right := by
  induction left with
  | nil => exact (Int.zero_add _).symm
  | cons kind left ih => rw [List.cons_append, height_cons, height_cons, ih, Int.add_assoc]

/-- No bracket stays open, and none is closed that was not opened. -/
structure IsBalanced (kinds : List Token.Kind) : Prop where
  height_eq : height kinds = 0
  height_nonneg : ∀ front ∈ kinds.inits, 0 ≤ height front

instance (kinds : List Token.Kind) : Decidable (IsBalanced kinds) :=
  decidable_of_iff (height kinds = 0 ∧ ∀ front ∈ kinds.inits, 0 ≤ height front)
    ⟨fun h ↦ ⟨h.1, h.2⟩, fun h ↦ ⟨h.1, h.2⟩⟩

inductive IsBracketed : List Token.Kind → Prop
  | intro (mark partner : Char) {inside : List Token.Kind} (h : IsBalanced inside) :
    IsBracketed (.bracket (.opening mark) :: inside ++ [.bracket (.closing partner)])

/-! ## Balanced tokens -/

namespace IsBalanced

theorem of_append (h : IsBalanced (left ++ right)) : 0 ≤ height left :=
  h.height_nonneg left ((List.mem_inits _ _).2 (List.prefix_append left right))

theorem nil : IsBalanced [] := by decide

theorem cons (hkind : kind.rise = 0) (h : IsBalanced kinds) : IsBalanced (kind :: kinds) where
  height_eq := by simp [hkind, h.height_eq]
  height_nonneg front hfront := by
    rw [List.mem_inits, List.prefix_cons_iff] at hfront
    obtain rfl | ⟨tail, rfl, htail⟩ := hfront
    · exact Int.le_refl 0
    · rw [height_cons, hkind, Int.zero_add]
      exact h.height_nonneg tail ((List.mem_inits _ _).2 htail)

theorem append (hleft : IsBalanced left) (hright : IsBalanced right) :
    IsBalanced (left ++ right) where
  height_eq := by simp [hleft.height_eq, hright.height_eq]
  height_nonneg front hfront := by
    rw [List.mem_inits] at hfront
    obtain ⟨rest, hrest⟩ := hfront
    obtain ⟨middle, rfl, -⟩ | ⟨middle, rfl, hmiddle⟩ := List.append_eq_append_iff.1 hrest
    · exact hleft.of_append
    · rw [hmiddle] at hright
      rw [height_append, hleft.height_eq, Int.zero_add]
      exact hright.of_append

end IsBalanced

/-! ## Brackets and what is between them -/

namespace IsBracketed

theorem ne_nil (h : IsBracketed kinds) : kinds ≠ [] := by
  cases h with
  | intro mark partner h => exact List.cons_ne_nil _ _

/-- A bracket is open until its partner comes. -/
theorem height_pos (h : IsBracketed (front ++ back)) (hfront : front ≠ []) (hback : back ≠ []) :
    0 < height front := by
  generalize hwhole : front ++ back = whole at h
  cases h with
  | @intro mark partner inside h =>
    obtain ⟨first, front, rfl⟩ := List.exists_cons_of_ne_nil hfront
    obtain ⟨back, last, rfl⟩ := List.eq_nil_or_concat back |>.resolve_left hback
    rw [List.cons_append, List.cons_append, List.concat_eq_append, ← List.append_assoc] at hwhole
    obtain ⟨rfl, hinside⟩ := List.cons.inj hwhole
    obtain ⟨rfl, -⟩ := List.append_inj' hinside rfl
    have hnonneg : 0 ≤ height front := h.of_append
    have hrise : (Token.Kind.bracket (.opening mark)).rise = 1 := rfl
    rw [height_cons, hrise]
    omega

theorem isBalanced (h : IsBracketed kinds) : IsBalanced kinds := by
  have hpos := @height_pos
  cases h with
  | @intro mark partner inside h =>
    have hheight : height (.bracket (.opening mark) :: inside ++ [.bracket (.closing partner)]) =
        0 := by
      have hopen : (Token.Kind.bracket (.opening mark)).rise = 1 := rfl
      have hclose : (Token.Kind.bracket (.closing partner)).rise = -1 := rfl
      simp [hopen, hclose, h.height_eq]
    refine ⟨hheight, fun front hfront ↦ ?_⟩
    obtain ⟨back, hback⟩ := (List.mem_inits _ _).1 hfront
    rcases eq_or_ne front [] with rfl | hfront
    · exact Int.le_refl 0
    rcases eq_or_ne back [] with rfl | hne
    · rw [List.append_nil] at hback
      exact hback ▸ Int.le_of_eq hheight.symm
    · exact Int.le_of_lt (hpos (hback ▸ .intro mark partner h) hfront hne)

theorem endsClosed (h : IsBracketed kinds) : endsClosed kinds = true := by
  cases h with
  | intro mark partner h =>
    rw [endsClosed_append _ (List.cons_ne_nil _ _)]
    rfl

/-- Nothing that is balanced ends between a bracket and its partner. -/
theorem not_isBalanced_append (before : List Token.Kind) (h : IsBracketed (front ++ back))
    (hfront : front ≠ []) (hback : back ≠ []) : ¬IsBalanced (before ++ front) := by
  intro hbalanced
  have hbefore : 0 ≤ height before := hbalanced.of_append
  have hopen : 0 < height front := h.height_pos hfront hback
  have hwhole := hbalanced.height_eq
  rw [height_append] at hwhole
  omega

/-- Nothing that is balanced begins between a bracket and its partner. -/
theorem not_isBalanced_of_append (after : List Token.Kind) (h : IsBracketed (front ++ back))
    (hfront : front ≠ []) (hback : back ≠ []) : ¬IsBalanced (back ++ after) := by
  intro hbalanced
  have hrest : 0 ≤ height back := hbalanced.of_append
  have hopen : 0 < height front := h.height_pos hfront hback
  have hwhole := h.isBalanced.height_eq
  rw [height_append] at hwhole
  omega

/-- Brackets and what is between them are found from where they begin. -/
theorem append_inj (hleft : IsBracketed left) (hright : IsBracketed right)
    (h : left ++ before = right ++ after) : left = right ∧ before = after := by
  -- The shorter of the two would end between the brackets of the longer one.
  have hshorter {shorter middle : List Token.Kind} (hbalanced : IsBalanced shorter)
      (hne : shorter ≠ []) (hlonger : IsBracketed (shorter ++ middle)) : middle = [] := by
    by_contra hmiddle
    exact hlonger.not_isBalanced_append [] hne hmiddle hbalanced
  obtain ⟨middle, rfl, rfl⟩ | ⟨middle, rfl, rfl⟩ := List.append_eq_append_iff.1 h
  · obtain rfl := hshorter hleft.isBalanced hleft.ne_nil hright
    simp
  · obtain rfl := hshorter hright.isBalanced hright.ne_nil hleft
    simp

end IsBracketed

/-! ## Phrases -/

variable {vocabulary : Vocabulary} {category : Category} {value : Expr}

theorem rise_nameToken (isCall : Bool) (name : String) : (nameToken isCall name).rise = 0 := by
  cases isCall <;> rfl

/-- A phrase closes all brackets that it opens, and no others. -/
theorem Derives.isBalanced (h : Derives vocabulary category kinds value) : IsBalanced kinds := by
  induction h with
  | sum_of_product h ih | product_of_quotient h ih | quotient_of_remainder h ih
  | remainder_of_power h ih | power_of_subscript h ih | subscript_of_operand h ih
  | operand_of_named h ih | operand_of_group h ih => exact ih
  | plus hlhs hrhs ihl ihr | minus hlhs hrhs ihl ihr | times hlhs hrhs ihl ihr
  | divided hlhs hrhs ihl ihr | modulo hlhs hrhs ihl ihr | raised hlhs hrhs ihl ihr
  | indexed hlhs hrhs ihl ihr => exact ihl.append (ihr.cons rfl)
  | juxtaposed hlhs hrhs hfactor ihl ihr => exact ihl.append ihr
  | number value | symbol name => exact IsBalanced.nil.cons rfl
  | signed sign h ih => cases sign <;> exact ih.cons rfl
  | plain isCall hrole => exact IsBalanced.nil.cons (rise_nameToken _ _)
  | fraction isCall hrole habove hbelow iha ihb =>
    exact (iha.cons (rise_nameToken _ _)).append ihb
  | root isCall hrole h hopen ih | application isCall hrole h ih =>
    exact ih.cons (rise_nameToken _ _)
  | @indexedRoot isCall name _ _ _ _ hrole hindex h ihi ih =>
    have hindex := (IsBracketed.intro '[' ']' ihi).isBalanced
    simpa using (hindex.append ih).cons (rise_nameToken isCall name)
  | group hpartner h ih => exact (IsBracketed.intro _ _ ih).isBalanced

theorem Derives.isBracketed (h : Derives vocabulary .group kinds value) : IsBracketed kinds := by
  cases h with
  | group hpartner h => exact .intro _ _ h.isBalanced

end Grammar

end FormulaText
