import FormulaText.Proofs.Grammar.Brackets
import FormulaText.Proofs.Grammar.Exact
import FormulaText.Proofs.Grammar.Tiers

/-!
# Braces, fractions and roots written out

Braces are short for parentheses, a fraction is short for a quotient of its groups, and a root with
an index is short for a power. Wherever one of them stands in a formula, the longer form can stand
in its place, and the tree stays the same together with its flags. What has to be shown is that a
formula is never divided in the middle of such a piece, because then the piece is all that one rule
reads.
-/

namespace FormulaText.Grammar

/-- What may be written shorter, and the longer form of it. -/
inductive Abbreviates (vocabulary : Vocabulary) : List Token.Kind → List Token.Kind → Prop
  | braces {inside} (hinside : IsBalanced inside) :
    Abbreviates vocabulary (.bracket (.opening '{') :: inside ++ [.bracket (.closing '}')])
      (.bracket (.opening '(') :: inside ++ [.bracket (.closing ')')])
  | fraction (isCall : Bool) {name : String} {above below}
    (hrole : roleOf vocabulary name = .fraction) (habove : IsBracketed above)
    (hbelow : IsBracketed below) :
    Abbreviates vocabulary (nameToken isCall name :: above ++ below)
      (.bracket (.opening '(') :: (above ++ .operator .divide :: below) ++
        [.bracket (.closing ')')])
  | root (isCall : Bool) {name : String} {inner outer}
    (hrole : roleOf vocabulary name = .root) (hinner : IsBalanced inner)
    (houter : IsBracketed outer) :
    Abbreviates vocabulary
      (nameToken isCall name :: (.bracket (.opening '[') :: inner ++ [.bracket (.closing ']')]) ++
        outer)
      (.bracket (.opening '(') ::
        (outer ++ .operator .exponent ::
          (.bracket (.opening '(') :: (.number .one :: .operator .divide :: inner) ++
            [.bracket (.closing ')')])) ++
        [.bracket (.closing ')')])

/-- Some piece of the tokens is written in its longer form. -/
inductive Expands (vocabulary : Vocabulary) : List Token.Kind → List Token.Kind → Prop
  | intro (before after) {piece expansion} (h : Abbreviates vocabulary piece expansion) :
    Expands vocabulary (before ++ piece ++ after) (before ++ expansion ++ after)

/-- Whether a short form begins with the token, or a root without an index. -/
def opensAbbreviation (vocabulary : Vocabulary) : Token.Kind → Bool
  | .bracket ⟨mark, opens⟩ => opens && mark = '{'
  | .control name | .call name =>
    roleOf vocabulary name = .fraction || roleOf vocabulary name = .root
  | _ => false

/-- Whether a name needs another group behind a group. -/
def Awaits (vocabulary : Vocabulary) (name : String) (group : List Token.Kind) : Prop :=
  roleOf vocabulary name = .fraction ∨
    roleOf vocabulary name = .root ∧ group.head? = some (.bracket (.opening '['))

variable {vocabulary : Vocabulary} {category : Category} {value : Expr} {isCall : Bool}
  {name : String} {kind : Token.Kind}
  {kinds left right front back before after group above below : List Token.Kind}

/-! ## Names -/

theorem opensAbbreviation_nameToken : opensAbbreviation vocabulary (nameToken isCall name) =
    (roleOf vocabulary name = .fraction || roleOf vocabulary name = .root : Bool) := by
  cases isCall <;> rfl

theorem opensAbbreviation_signToken (sign : Sign) :
    opensAbbreviation vocabulary (signToken sign) = false := by
  cases sign <;> rfl

theorem nameToken_ne_bracket (bracket : Bracket) : nameToken isCall name ≠ .bracket bracket := by
  cases isCall <;> exact nofun

theorem nameToken_ne_operator (op : Operator) : nameToken isCall name ≠ .operator op := by
  cases isCall <;> exact nofun

theorem nameToken_ne_underscore : nameToken isCall name ≠ .underscore := by
  cases isCall <;> exact nofun

theorem Awaits.not_plain (h : Awaits vocabulary name group) : roleOf vocabulary name ≠ .plain := by
  obtain hrole | ⟨hrole, -⟩ := h <;> simp [hrole]

theorem Awaits.not_function (h : Awaits vocabulary name group) :
    roleOf vocabulary name ≠ .function := by
  obtain hrole | ⟨hrole, -⟩ := h <;> simp [hrole]

theorem eq_of_concat_eq (front : List Token.Kind) {kind' : Token.Kind}
    (h : front ++ [kind] = before ++ [kind']) :
    kind = kind' :=
  (List.cons.inj (List.append_inj' h rfl).2).1

theorem getLast?_append_cons (left : List Token.Kind) (h : right ≠ []) :
    (left ++ kind :: right).getLast? = right.getLast? := by
  rw [List.getLast?_append_of_ne_nil _ (List.cons_ne_nil _ _), ← List.singleton_append,
    List.getLast?_append_of_ne_nil _ h]

/-- A name at the end of a phrase stands for itself. -/
theorem Derives.plain_of_getLast? (h : Derives vocabulary category kinds value)
    (hlast : kinds.getLast? = some (nameToken isCall name)) :
    roleOf vocabulary name = .plain := by
  induction h with
  | sum_of_product h ih | product_of_quotient h ih | quotient_of_remainder h ih
  | remainder_of_power h ih | power_of_subscript h ih | subscript_of_operand h ih
  | operand_of_named h ih | operand_of_group h ih => exact ih hlast
  | plus hlhs hrhs ihl ihr | minus hlhs hrhs ihl ihr | times hlhs hrhs ihl ihr
  | divided hlhs hrhs ihl ihr | modulo hlhs hrhs ihl ihr | raised hlhs hrhs ihl ihr
  | indexed hlhs hrhs ihl ihr =>
    rw [getLast?_append_cons _ hrhs.ne_nil] at hlast
    exact ihr hlast
  | juxtaposed hlhs hrhs hfactor ihl ihr =>
    rw [List.getLast?_append_of_ne_nil _ hrhs.ne_nil] at hlast
    exact ihr hlast
  | number value | symbol name => cases isCall <;> simp [nameToken] at hlast
  | signed sign h ih | root isCall hrole h hopen ih | application isCall hrole h ih =>
    rw [← List.nil_append (_ :: _), getLast?_append_cons _ h.ne_nil] at hlast
    exact ih hlast
  | plain isCall hrole =>
    obtain ⟨-, rfl⟩ := nameToken_injective (Option.some.inj hlast)
    exact hrole
  | fraction isCall hrole habove hbelow iha ihb =>
    rw [List.getLast?_append_of_ne_nil _ hbelow.ne_nil] at hlast
    exact ihb hlast
  | indexedRoot isCall hrole hindex h ihi ih =>
    rw [getLast?_append_cons _ h.ne_nil] at hlast
    exact ih hlast
  | group hpartner h ih =>
    rw [List.getLast?_append_of_ne_nil _ (List.cons_ne_nil _ _)] at hlast
    exact absurd (Option.some.inj hlast).symm (nameToken_ne_bracket _)

/-! ## What names and groups are made of -/

theorem Derives.group_inv (h : Derives vocabulary category kinds value)
    (hcategory : category = .named ∨ category = .group)
    (hhead : kinds.head? = some (.bracket (.opening '{'))) :
    ∃ inside, kinds = .bracket (.opening '{') :: inside ++ [.bracket (.closing '}')] ∧
      Derives vocabulary .sum inside value := by
  rcases hcategory with rfl | rfl
  · cases h <;> exact absurd (Option.some.inj hhead) (nameToken_ne_bracket _)
  · cases h with
    | group hpartner h =>
      obtain rfl : _ = '{' := congrArg Bracket.mark (Token.Kind.bracket.inj (Option.some.inj hhead))
      obtain rfl := Option.some.inj hpartner
      exact ⟨_, rfl, h⟩

theorem Derives.not_group_of_name :
    ¬Derives vocabulary .group (nameToken isCall name :: kinds) value := by
  intro h
  generalize hwhole : nameToken isCall name :: kinds = whole at h
  cases h with
  | group hpartner h => exact nameToken_ne_bracket _ (List.cons.inj hwhole).1

theorem Derives.fraction_inv (h : Derives vocabulary .named (nameToken isCall name :: kinds) value)
    (hrole : roleOf vocabulary name = .fraction) :
    ∃ above below numerator denominator, kinds = above ++ below ∧
      Derives vocabulary .group above numerator ∧ Derives vocabulary .group below denominator ∧
        value = .binary .divide numerator denominator false := by
  generalize hwhole : nameToken isCall name :: kinds = whole at h
  cases h with
  | fraction isCall' hrole' habove hbelow =>
    exact ⟨_, _, _, _, (List.cons.inj hwhole).2, habove, hbelow, rfl⟩
  | plain isCall' hrole' | root isCall' hrole' | indexedRoot isCall' hrole'
  | application isCall' hrole' =>
    obtain ⟨-, rfl⟩ := nameToken_injective (List.cons.inj hwhole).1
    rw [hrole] at hrole'
    contradiction

theorem Derives.indexedRoot_inv
    (h : Derives vocabulary .named (nameToken isCall name :: kinds) value)
    (hrole : roleOf vocabulary name = .root)
    (hhead : kinds.head? = some (.bracket (.opening '['))) :
    ∃ inner outer index radicand,
      kinds = (.bracket (.opening '[') :: inner ++ [.bracket (.closing ']')]) ++ outer ∧
        Derives vocabulary .operand inner index ∧ Derives vocabulary .group outer radicand ∧
          value = .binary .exponent radicand (.binary .divide (.number .one) index false) false := by
  generalize hwhole : nameToken isCall name :: kinds = whole at h
  cases h with
  | indexedRoot isCall' hrole' hindex h =>
    exact ⟨_, _, _, _, by simpa using (List.cons.inj hwhole).2, hindex, h, rfl⟩
  | root isCall' hrole' h hopen =>
    obtain rfl := (List.cons.inj hwhole).2
    contradiction
  | plain isCall' hrole' | fraction isCall' hrole' | application isCall' hrole' =>
    obtain ⟨-, rfl⟩ := nameToken_injective (List.cons.inj hwhole).1
    rw [hrole] at hrole'
    contradiction

/-! ## Where phrases end -/

/-- A balanced end of the tokens has a group at their end in it, or is that group. -/
theorem eq_or_exists_of_append_eq (front : List Token.Kind) (hright : IsBalanced right)
    (hne : right ≠ []) (hgroup : IsBracketed group) (h : front ++ right = before ++ kind :: group) :
    front = before ++ [kind] ∧ right = group ∨
      ∃ before', right = before' ++ kind :: group := by
  rw [List.append_cons] at h
  obtain ⟨middle, hfront, rfl⟩ | ⟨middle, rfl, rfl⟩ := List.append_eq_append_iff.1 h
  · obtain rfl | ⟨middle, last, rfl⟩ := List.eq_nil_or_concat middle
    · rw [List.append_nil] at hfront
      exact .inl ⟨hfront.symm, rfl⟩
    · rw [List.concat_eq_append, ← List.append_assoc] at hfront
      obtain ⟨-, hlast⟩ := List.append_inj' hfront rfl
      exact .inr ⟨middle, by simp [List.cons.inj hlast]⟩
  · rcases eq_or_ne middle [] with rfl | hmiddle
    · exact .inl ⟨List.append_nil _, rfl⟩
    · rw [← List.append_nil right] at hright
      exact absurd hright (hgroup.not_isBalanced_of_append _ hmiddle hne)

/-- No phrase ends behind the first of the groups that a name needs. -/
theorem Derives.not_awaits (h : Derives vocabulary category kinds value)
    (hkinds : kinds = before ++ nameToken isCall name :: group) (hgroup : IsBracketed group) :
    ¬Awaits vocabulary name group := by
  intro hawaits
  induction h generalizing before with
  | sum_of_product h ih | product_of_quotient h ih | quotient_of_remainder h ih
  | remainder_of_power h ih | power_of_subscript h ih | subscript_of_operand h ih
  | operand_of_named h ih | operand_of_group h ih => exact ih hkinds
  | plus hlhs hrhs ihl ihr | minus hlhs hrhs ihl ihr | times hlhs hrhs ihl ihr
  | divided hlhs hrhs ihl ihr | modulo hlhs hrhs ihl ihr | raised hlhs hrhs ihl ihr =>
    rw [List.append_cons] at hkinds
    obtain ⟨hname, -⟩ | ⟨before', hright⟩ :=
      eq_or_exists_of_append_eq _ hrhs.isBalanced hrhs.ne_nil hgroup hkinds
    · exact nameToken_ne_operator _ (eq_of_concat_eq _ hname).symm
    · exact ihr hright
  | indexed hlhs hrhs ihl ihr =>
    rw [List.append_cons] at hkinds
    obtain ⟨hname, -⟩ | ⟨before', hright⟩ :=
      eq_or_exists_of_append_eq _ hrhs.isBalanced hrhs.ne_nil hgroup hkinds
    · exact nameToken_ne_underscore (eq_of_concat_eq _ hname).symm
    · exact ihr hright
  | juxtaposed hlhs hrhs hfactor ihl ihr =>
    obtain ⟨rfl, -⟩ | ⟨before', hright⟩ :=
      eq_or_exists_of_append_eq _ hrhs.isBalanced hrhs.ne_nil hgroup hkinds
    · exact hawaits.not_plain (hlhs.plain_of_getLast? List.getLast?_concat)
    · exact ihr hright
  | number value | symbol name' | plain isCall' hrole =>
    have hlength := congrArg List.length hkinds
    have hpos := List.length_pos_iff.2 hgroup.ne_nil
    simp at hlength
    omega
  | signed sign h ih =>
    obtain ⟨hname, -⟩ | ⟨before', hright⟩ :=
      eq_or_exists_of_append_eq [signToken sign] h.isBalanced h.ne_nil hgroup hkinds
    · have hsign := eq_of_concat_eq [] hname
      cases sign <;> exact nameToken_ne_operator _ hsign.symm
    · exact ih hright
  | fraction isCall' hrole habove hbelow iha ihb =>
    obtain ⟨hname, -⟩ | ⟨before', hright⟩ :=
      eq_or_exists_of_append_eq _ hbelow.isBalanced hbelow.ne_nil hgroup hkinds
    · apply hawaits.not_plain
      apply habove.plain_of_getLast?
      rw [← getLast?_append_cons [] habove.ne_nil, List.nil_append, hname,
        List.getLast?_concat]
    · exact ihb hright
  | root isCall' hrole h hopen ih =>
    obtain ⟨hname, rfl⟩ | ⟨before', hright⟩ :=
      eq_or_exists_of_append_eq [nameToken _ _] h.isBalanced h.ne_nil hgroup hkinds
    · obtain ⟨-, rfl⟩ := nameToken_injective (eq_of_concat_eq [] hname)
      obtain hfraction | ⟨-, hindex⟩ := hawaits
      · rw [hrole] at hfraction
        contradiction
      · exact hopen hindex
    · exact ih hright
  | indexedRoot isCall' hrole hindex h ihi ih =>
    rw [List.append_cons] at hkinds
    obtain ⟨hname, -⟩ | ⟨before', hright⟩ :=
      eq_or_exists_of_append_eq _ h.isBalanced h.ne_nil hgroup hkinds
    · exact nameToken_ne_bracket _ (eq_of_concat_eq _ hname).symm
    · exact ih hright
  | application isCall' hrole h ih =>
    obtain ⟨hname, -⟩ | ⟨before', hright⟩ :=
      eq_or_exists_of_append_eq [nameToken _ _] h.isBalanced h.ne_nil hgroup hkinds
    · obtain ⟨-, rfl⟩ := nameToken_injective (eq_of_concat_eq [] hname)
      exact hawaits.not_function hrole
    · exact ih hright
  | group hpartner h ih =>
    have hwhole := (Derives.group hpartner h).isBracketed
    rw [hkinds, List.append_cons] at hwhole
    apply hwhole.not_isBalanced_of_append [] (by simp) hgroup.ne_nil
    simpa using hgroup.isBalanced

/-- No phrase ends in the middle of a name and the two groups that it needs. -/
theorem Derives.not_ends_in_named (hawaits : Awaits vocabulary name above)
    (habove : IsBracketed above) (hbelow : IsBracketed below)
    (hpiece : nameToken isCall name :: above ++ below = front ++ back) (hfront : front ≠ [])
    (hback : back ≠ []) : ¬Derives vocabulary category (before ++ front) value := by
  intro h
  obtain ⟨first, front, rfl⟩ := List.exists_cons_of_ne_nil hfront
  obtain ⟨rfl, hgroups⟩ := List.cons.inj hpiece
  have hnot_name : front ≠ [] := by
    rintro rfl
    exact hawaits.not_plain (h.plain_of_getLast? List.getLast?_concat)
  have hnot_above : front ≠ above := by
    rintro rfl
    exact h.not_awaits rfl habove hawaits
  have hbalanced := h.isBalanced
  rw [List.append_cons] at hbalanced
  obtain ⟨middle, rfl, rfl⟩ | ⟨rest, rfl, -⟩ := List.append_eq_append_iff.1 hgroups
  · have hmiddle : middle ≠ [] := by
      rintro rfl
      exact hnot_above (List.append_nil above)
    rw [← List.append_assoc] at hbalanced
    exact hbelow.not_isBalanced_append _ hmiddle hback hbalanced
  · have hrest : rest ≠ [] := by
      rintro rfl
      exact hnot_above (List.append_nil front).symm
    exact habove.not_isBalanced_append _ hnot_name hrest hbalanced

namespace Abbreviates

variable {piece expansion : List Token.Kind}

/-- No phrase ends in the middle of what may be written longer. -/
theorem not_ends_in (hpiece : Abbreviates vocabulary (front ++ back) expansion)
    (hfront : front ≠ []) (hback : back ≠ []) :
    ¬Derives vocabulary category (before ++ front) value := by
  generalize hwhole : front ++ back = piece at hpiece
  cases hpiece with
  | braces hinside =>
    intro h
    have hbracketed := IsBracketed.intro '{' '}' hinside
    rw [← hwhole] at hbracketed
    exact hbracketed.not_isBalanced_append _ hfront hback h.isBalanced
  | fraction isCall hrole habove hbelow =>
    exact Derives.not_ends_in_named (.inl hrole) habove hbelow hwhole.symm hfront hback
  | root isCall hrole hinner houter =>
    exact Derives.not_ends_in_named (.inr ⟨hrole, rfl⟩) (.intro '[' ']' hinner) houter
      hwhole.symm hfront hback

theorem exists_cons (hpiece : Abbreviates vocabulary piece expansion) :
    ∃ first rest, piece = first :: rest ∧ opensAbbreviation vocabulary first = true := by
  cases hpiece with
  | braces hinside => exact ⟨_, _, rfl, rfl⟩
  | fraction isCall hrole habove hbelow =>
    exact ⟨_, _, rfl, by rw [opensAbbreviation_nameToken, hrole]; rfl⟩
  | root isCall hrole hinner houter =>
    exact ⟨_, _, rfl, by rw [opensAbbreviation_nameToken, hrole]; rfl⟩

theorem append_ne_nil (hpiece : Abbreviates vocabulary piece expansion) :
    before ++ piece ++ after ≠ [] := by
  obtain ⟨first, rest, rfl, -⟩ := hpiece.exists_cons
  simp

/-- The longer form is a group in parentheses. -/
theorem exists_eq_group (hpiece : Abbreviates vocabulary piece expansion) :
    ∃ inside, expansion = .bracket (.opening '(') :: inside ++ [.bracket (.closing ')')] := by
  cases hpiece <;> exact ⟨_, rfl⟩

theorem endsClosed_piece (hpiece : Abbreviates vocabulary piece expansion) :
    endsClosed piece = true := by
  cases hpiece with
  | braces hinside => exact (IsBracketed.intro '{' '}' hinside).endsClosed
  | fraction isCall hrole habove hbelow =>
    rw [endsClosed_append _ hbelow.ne_nil, hbelow.endsClosed]
  | root isCall hrole hinner houter => rw [endsClosed_append _ houter.ne_nil, houter.endsClosed]

/-- No end of the input is written into the longer form. -/
theorem endOfInput_notMem (hpiece : Abbreviates vocabulary piece expansion)
    (h : .endOfInput ∉ piece) : .endOfInput ∉ expansion := by
  cases hpiece <;> simp_all

/-- The last token decides about brackets as before. -/
theorem endsClosed_eq (hpiece : Abbreviates vocabulary piece expansion)
    (before after : List Token.Kind) :
    endsClosed (before ++ expansion ++ after) = endsClosed (before ++ piece ++ after) := by
  rcases eq_or_ne after [] with rfl | hafter
  · obtain ⟨first, rest, hfirst, -⟩ := hpiece.exists_cons
    obtain ⟨inside, rfl⟩ := hpiece.exists_eq_group
    have hne : piece ≠ [] := hfirst ▸ List.cons_ne_nil _ _
    rw [List.append_nil, List.append_nil, endsClosed_append _ hne, hpiece.endsClosed_piece,
      ← List.append_assoc, endsClosed_append _ (List.cons_ne_nil _ _)]
    rfl
  · rw [endsClosed_append _ hafter, endsClosed_append _ hafter]

/-- A token with which no piece begins stands before the piece. -/
theorem exists_of_cons_eq (hpiece : Abbreviates vocabulary piece expansion)
    (hkind : opensAbbreviation vocabulary kind = false)
    (h : kind :: kinds = before ++ piece ++ after) :
    ∃ before', before = kind :: before' ∧ kinds = before' ++ piece ++ after := by
  cases before with
  | nil =>
    obtain ⟨first, rest, rfl, hfirst⟩ := hpiece.exists_cons
    obtain ⟨rfl, -⟩ := List.cons.inj h
    rw [hkind] at hfirst
    contradiction
  | cons first before' =>
    obtain ⟨rfl, rfl⟩ := List.cons.inj h
    exact ⟨before', rfl, rfl⟩

/-- A token with which no piece begins is not a list with a piece in it. -/
theorem singleton_ne (hpiece : Abbreviates vocabulary piece expansion)
    (hkind : opensAbbreviation vocabulary kind = false) : [kind] ≠ before ++ piece ++ after := by
  intro h
  obtain ⟨before', rfl, hnil⟩ := hpiece.exists_of_cons_eq hkind h
  exact hpiece.append_ne_nil hnil.symm

/-- A piece stands in the phrase on the left of a token, or on the right of it. -/
theorem split (hpiece : Abbreviates vocabulary piece expansion)
    (hleft : Derives vocabulary category left value) (sep : List Token.Kind)
    (hsep : ∀ kind ∈ sep, opensAbbreviation vocabulary kind = false)
    (h : left ++ sep ++ right = before ++ piece ++ after) :
    (∃ after', left = before ++ piece ++ after' ∧ after = after' ++ sep ++ right) ∨
      ∃ before', right = before' ++ piece ++ after ∧ before = left ++ sep ++ before' := by
  -- The piece cannot begin in `sep`.
  have hbehind {front : List Token.Kind} (h : sep ++ right = front ++ (piece ++ after)) :
      ∃ before', right = before' ++ piece ++ after ∧ front = sep ++ before' := by
    obtain ⟨before', rfl, rfl⟩ | ⟨middle, rfl, hmiddle⟩ := List.append_eq_append_iff.1 h
    · exact ⟨before', by simp, rfl⟩
    · obtain ⟨first, rest, rfl, hfirst⟩ := hpiece.exists_cons
      cases middle with
      | nil => exact ⟨[], by simpa using hmiddle.symm, by simp⟩
      | cons kind middle =>
        obtain ⟨rfl, -⟩ := List.cons.inj hmiddle
        rw [hsep _ (by simp)] at hfirst
        contradiction
  rw [List.append_assoc, List.append_assoc] at h
  obtain ⟨front, rfl, hright⟩ | ⟨front, rfl, hrest⟩ := List.append_eq_append_iff.1 h
  · obtain ⟨before', rfl, rfl⟩ := hbehind hright
    exact .inr ⟨before', rfl, by simp⟩
  obtain ⟨back, rfl, hback⟩ | ⟨after', rfl, rfl⟩ := List.append_eq_append_iff.1 hrest.symm
  · rcases eq_or_ne front [] with rfl | hfront
    · have hstart : sep ++ right = [] ++ ([] ++ back ++ after) := by simpa using hback
      obtain ⟨before', hright, hnil⟩ := hbehind hstart
      exact .inr ⟨before', hright, by simp [← hnil]⟩
    rcases eq_or_ne back [] with rfl | hne
    · exact .inl ⟨[], by simp, by simpa using hback.symm⟩
    · exact absurd hleft (hpiece.not_ends_in hfront hne)
  · exact .inl ⟨after', by simp, by simp⟩

/-- A name or a group that begins with a piece is the piece, and the longer form is a group of the
same value. -/
theorem group_of_append (hpiece : Abbreviates vocabulary piece expansion)
    (h : Derives vocabulary category (piece ++ after) value)
    (hcategory : category = .named ∨ category = .group) :
    after = [] ∧ Derives vocabulary .group expansion value := by
  cases hpiece with
  | @braces inside hinside =>
    obtain ⟨content, hkinds, hcontent⟩ := h.group_inv hcategory rfl
    have hbracketed := IsBracketed.intro '{' '}' hcontent.isBalanced
    obtain ⟨hinside, hafter⟩ := (IsBracketed.intro '{' '}' hinside).append_inj hbracketed
      (hkinds.trans (List.append_nil _).symm)
    obtain ⟨rfl, -⟩ := List.append_inj' (List.cons.inj hinside).2 rfl
    exact ⟨hafter, .group rfl hcontent⟩
  | @fraction isCall name above below hrole habove hbelow =>
    rcases hcategory with rfl | rfl
    · obtain ⟨above', below', _, _, hkinds, habove', hbelow', rfl⟩ := h.fraction_inv hrole
      have hgroups : above ++ (below ++ after) = above' ++ below' := by simpa using hkinds
      obtain ⟨rfl, hrest⟩ := habove.append_inj habove'.isBracketed hgroups
      obtain ⟨rfl, rfl⟩ := hbelow.append_inj hbelow'.isBracketed
        (hrest.trans (List.append_nil _).symm)
      have hquotient := Derives.divided (habove'.to_quotient (by decide))
        (hbelow'.to_remainder (by decide))
      exact ⟨rfl, .group rfl hquotient.to_sum⟩
    · exact absurd h Derives.not_group_of_name
  | @root isCall name inner outer hrole hinner houter =>
    rcases hcategory with rfl | rfl
    · obtain ⟨inner', outer', _, _, hkinds, hinner', houter', rfl⟩ := h.indexedRoot_inv hrole rfl
      have hgroups :
          (.bracket (.opening '[') :: inner ++ [.bracket (.closing ']')]) ++ (outer ++ after) =
            (.bracket (.opening '[') :: inner' ++ [.bracket (.closing ']')]) ++ outer' := by
        simpa using hkinds
      obtain ⟨hindex, hrest⟩ := (IsBracketed.intro '[' ']' hinner).append_inj
        (.intro '[' ']' hinner'.isBalanced) hgroups
      obtain ⟨rfl, -⟩ := List.append_inj' (List.cons.inj hindex).2 rfl
      obtain ⟨rfl, rfl⟩ := houter.append_inj houter'.isBracketed
        (hrest.trans (List.append_nil _).symm)
      have hinverse := Derives.divided ((Derives.number .one).to_quotient (by decide))
        (hinner'.to_remainder (by decide))
      have hexponent : Derives vocabulary .group
          (.bracket (.opening '(') :: ([.number .one] ++ .operator .divide :: inner) ++
            [.bracket (.closing ')')]) _ := .group rfl hinverse.to_sum
      have hpower := Derives.raised (houter'.to_subscript (by decide))
        (hexponent.to_power (by decide))
      exact ⟨rfl, .group rfl hpower.to_sum⟩
    · exact absurd h Derives.not_group_of_name

theorem split_cons (hpiece : Abbreviates vocabulary piece expansion)
    (hleft : Derives vocabulary category left value)
    (hkind : opensAbbreviation vocabulary kind = false)
    (h : left ++ kind :: right = before ++ piece ++ after) :
    (∃ after', left = before ++ piece ++ after' ∧ after = after' ++ kind :: right) ∨
      ∃ before', right = before' ++ piece ++ after ∧ before = left ++ kind :: before' := by
  have hwhole : left ++ [kind] ++ right = before ++ piece ++ after := by simpa using h
  simpa using hpiece.split hleft [kind] (by simpa using hkind) hwhole

/-- Two parts with a token between them still are a phrase with the longer form of a piece, if they
are with the longer form in the part that has the piece. -/
theorem derives_between {tier : Category} {whole : Expr}
    (hpiece : Abbreviates vocabulary piece expansion)
    (hleft : Derives vocabulary category left value)
    (hkind : opensAbbreviation vocabulary kind = false)
    (hkinds : left ++ kind :: right = before ++ piece ++ after)
    (hbefore : ∀ after', left = before ++ piece ++ after' →
      Derives vocabulary tier (before ++ expansion ++ after' ++ kind :: right) whole)
    (hbehind : ∀ before', right = before' ++ piece ++ after →
      Derives vocabulary tier (left ++ kind :: (before' ++ expansion ++ after)) whole) :
    Derives vocabulary tier (before ++ expansion ++ after) whole := by
  obtain ⟨after', hpart, rfl⟩ | ⟨before', hpart, rfl⟩ := hpiece.split_cons hleft hkind hkinds
  · simpa using hbefore after' hpart
  · simpa using hbehind before' hpart

end Abbreviates

/-! ## Phrases and formulas -/

/-- What a phrase is when a name in it may become a group: a named phrase is an operand then. -/
@[simp] def Category.unnamed : Category → Category
  | .named => .operand
  | category => category

variable {piece expansion : List Token.Kind}

theorem Derives.expand_of_append (hpiece : Abbreviates vocabulary piece expansion)
    (h : Derives vocabulary category kinds value)
    (hcategory : category = .named ∨ category = .group) (hkinds : kinds = piece ++ after) :
    Derives vocabulary category.unnamed (expansion ++ after) value := by
  subst hkinds
  obtain ⟨rfl, hgroup⟩ := hpiece.group_of_append h hcategory
  rw [List.append_nil]
  rcases hcategory with rfl | rfl
  · exact hgroup.to_operand (by decide)
  · exact hgroup

/-- In the place of a piece the longer form of it gives the same tree. -/
theorem Derives.expand (hpiece : Abbreviates vocabulary piece expansion)
    (h : Derives vocabulary category kinds value) (hkinds : kinds = before ++ piece ++ after) :
    Derives vocabulary category.unnamed (before ++ expansion ++ after) value := by
  induction h generalizing before after with
  | sum_of_product h ih => exact .sum_of_product (ih hkinds)
  | product_of_quotient h ih => exact .product_of_quotient (ih hkinds)
  | quotient_of_remainder h ih => exact .quotient_of_remainder (ih hkinds)
  | remainder_of_power h ih => exact .remainder_of_power (ih hkinds)
  | power_of_subscript h ih => exact .power_of_subscript (ih hkinds)
  | subscript_of_operand h ih => exact .subscript_of_operand (ih hkinds)
  | operand_of_named h ih => exact ih hkinds
  | operand_of_group h ih => exact .operand_of_group (ih hkinds)
  | plus hlhs hrhs ihl ihr =>
    exact hpiece.derives_between hlhs rfl hkinds (fun _ hleft ↦ .plus (ihl hleft) hrhs)
      fun _ hright ↦ .plus hlhs (ihr hright)
  | minus hlhs hrhs ihl ihr =>
    refine hpiece.derives_between hlhs rfl hkinds (fun _ hleft ↦ .minus (ihl hleft) hrhs)
      fun before' hright ↦ ?_
    have hminus := Derives.minus hlhs (ihr hright)
    rwa [hpiece.endsClosed_eq, ← hright] at hminus
  | times hlhs hrhs ihl ihr =>
    exact hpiece.derives_between hlhs rfl hkinds (fun _ hleft ↦ .times (ihl hleft) hrhs)
      fun _ hright ↦ .times hlhs (ihr hright)
  | juxtaposed hlhs hrhs hfactor ihl ihr =>
    obtain ⟨after', hleft, rfl⟩ | ⟨before', hright, rfl⟩ :=
      hpiece.split hlhs [] (by simp) (by simpa using hkinds)
    · simpa using Derives.juxtaposed (ihl hleft) hrhs hfactor
    · -- The expansion begins with a parenthesis, which begins a factor.
      have hhead : (before' ++ expansion ++ after).head?.any Token.Kind.beginsFactor = true := by
        cases before' with
        | nil =>
          obtain ⟨inside, rfl⟩ := hpiece.exists_eq_group
          rfl
        | cons first before' =>
          rw [hright] at hfactor
          exact hfactor
      simpa using Derives.juxtaposed hlhs (ihr hright) hhead
  | divided hlhs hrhs ihl ihr =>
    exact hpiece.derives_between hlhs rfl hkinds (fun _ hleft ↦ .divided (ihl hleft) hrhs)
      fun _ hright ↦ .divided hlhs (ihr hright)
  | modulo hlhs hrhs ihl ihr =>
    exact hpiece.derives_between hlhs rfl hkinds (fun _ hleft ↦ .modulo (ihl hleft) hrhs)
      fun _ hright ↦ .modulo hlhs (ihr hright)
  | raised hlhs hrhs ihl ihr =>
    exact hpiece.derives_between hlhs rfl hkinds (fun _ hleft ↦ .raised (ihl hleft) hrhs)
      fun _ hright ↦ .raised hlhs (ihr hright)
  | indexed hlhs hrhs ihl ihr =>
    exact hpiece.derives_between hlhs rfl hkinds (fun _ hleft ↦ .indexed (ihl hleft) hrhs)
      fun _ hright ↦ .indexed hlhs (ihr hright)
  | number value => exact absurd hkinds (hpiece.singleton_ne rfl)
  | symbol name => exact absurd hkinds (hpiece.singleton_ne rfl)
  | signed sign h ih =>
    obtain ⟨before', rfl, hrest⟩ :=
      hpiece.exists_of_cons_eq (opensAbbreviation_signToken sign) hkinds
    have hsigned := Derives.signed sign (ih hrest)
    rw [hpiece.endsClosed_eq, ← hrest] at hsigned
    exact hsigned
  | plain isCall hrole =>
    exact absurd hkinds (hpiece.singleton_ne (by rw [opensAbbreviation_nameToken, hrole]; rfl))
  | fraction isCall hrole habove hbelow iha ihb =>
    cases before with
    | nil =>
      have hfraction := Derives.fraction isCall hrole habove hbelow
      exact hfraction.expand_of_append hpiece (.inl rfl) hkinds
    | cons first before =>
      obtain ⟨rfl, hgroups⟩ := List.cons.inj hkinds
      obtain ⟨after', hleft, rfl⟩ | ⟨before', hright, rfl⟩ :=
        hpiece.split habove [] (by simp) (by simpa using hgroups)
      · simpa using Derives.operand_of_named (.fraction isCall hrole (iha hleft) hbelow)
      · simpa using Derives.operand_of_named (.fraction isCall hrole habove (ihb hright))
  | root isCall hrole h hopen ih =>
    cases before with
    | nil => exact (Derives.root isCall hrole h hopen).expand_of_append hpiece (.inl rfl) hkinds
    | cons first before =>
      obtain ⟨rfl, hrest⟩ := List.cons.inj hkinds
      have hhead : (before ++ expansion ++ after).head? ≠ some (.bracket (.opening '[')) := by
        cases before with
        | nil =>
          obtain ⟨inside, rfl⟩ := hpiece.exists_eq_group
          exact fun h ↦ absurd (Option.some.inj h) (by decide)
        | cons first before =>
          rw [hrest] at hopen
          exact hopen
      exact .operand_of_named (.root isCall hrole (ih hrest) hhead)
  | indexedRoot isCall hrole hindex h ihi ih =>
    cases before with
    | nil =>
      have hroot := Derives.indexedRoot isCall hrole hindex h
      exact hroot.expand_of_append hpiece (.inl rfl) hkinds
    | cons first before =>
      obtain ⟨rfl, hrest⟩ := List.cons.inj hkinds
      obtain ⟨before, rfl, hgroup⟩ := hpiece.exists_of_cons_eq rfl hrest
      obtain ⟨after', hleft, rfl⟩ | ⟨before', hright, rfl⟩ := hpiece.split_cons hindex rfl hgroup
      · simpa using Derives.operand_of_named (.indexedRoot isCall hrole (ihi hleft) h)
      · simpa using Derives.operand_of_named (.indexedRoot isCall hrole hindex (ih hright))
  | application isCall hrole h ih =>
    obtain ⟨before', rfl, hrest⟩ := hpiece.exists_of_cons_eq
      (by rw [opensAbbreviation_nameToken, hrole]; rfl) hkinds
    exact .operand_of_named (.application isCall hrole (ih hrest))
  | @group mark partner _ _ hpartner h ih =>
    cases before with
    | nil => exact (Derives.group hpartner h).expand_of_append hpiece (.inr rfl) hkinds
    | cons first before =>
      obtain ⟨rfl, hrest⟩ := List.cons.inj hkinds
      obtain ⟨after', hleft, rfl⟩ | ⟨before', hright, rfl⟩ := hpiece.split_cons h rfl hrest
      · simpa using Derives.group hpartner (ih hleft)
      · exact absurd hright.symm hpiece.append_ne_nil

/-- Notation may be written longer anywhere in a formula. -/
theorem IsFormula.expand {value? : Option Expr} (h : IsFormula vocabulary kinds value?)
    {kinds' : List Token.Kind} (hexpands : Expands vocabulary kinds kinds') :
    IsFormula vocabulary kinds' value? := by
  obtain ⟨before, after, hpiece⟩ := hexpands
  generalize hwhole : before ++ _ ++ after = whole at h
  cases h with
  | nothing => exact absurd hwhole hpiece.append_ne_nil
  | sum h => exact .sum (h.expand hpiece hwhole.symm)
  | equation hlhs hrhs =>
    obtain ⟨after', hleft, rfl⟩ | ⟨before', hright, rfl⟩ := hpiece.split_cons hlhs rfl hwhole.symm
    · simpa using IsFormula.equation (hlhs.expand hpiece hleft) hrhs
    · simpa using IsFormula.equation hlhs (hrhs.expand hpiece hright)

/-- No formula ends in the middle of a piece. -/
theorem IsFormula.not_ends_in {value? : Option Expr}
    (hpiece : Abbreviates vocabulary (front ++ back) expansion) (hfront : front ≠ [])
    (hback : back ≠ []) : ¬IsFormula vocabulary (before ++ front) value? := by
  intro h
  generalize hwhole : before ++ front = whole at h
  cases h with
  | nothing => exact hfront (List.append_eq_nil_iff.1 hwhole).2
  | sum h => exact hpiece.not_ends_in hfront hback (hwhole ▸ h)
  | @equation left right _ _ hlhs hrhs =>
    have hequation : left ++ .equal :: (right ++ back) = before ++ (front ++ back) ++ [] := by
      rw [List.append_nil, ← List.append_assoc, hwhole, List.append_assoc, List.cons_append]
    obtain ⟨after', -, hnil⟩ | ⟨before', hright, -⟩ := hpiece.split_cons hlhs rfl hequation
    · simp at hnil
    · rw [List.append_nil, ← List.append_assoc] at hright
      exact hpiece.not_ends_in hfront hback (List.append_cancel_right hright ▸ hrhs)

/-! ## Lists of tokens -/

theorem takeWhile_append_of_notMem (h : .endOfInput ∉ front) (back : List Token.Kind) :
    (front ++ back).takeWhile (· ≠ .endOfInput) =
      front ++ back.takeWhile (· ≠ .endOfInput) := by
  apply List.takeWhile_append_of_pos
  intro kind hkind
  simpa using ne_of_mem_of_not_mem hkind h

theorem takeWhile_append_endOfInput (h : .endOfInput ∉ front) (back : List Token.Kind) :
    (front ++ .endOfInput :: back).takeWhile (· ≠ .endOfInput) = front := by
  rw [takeWhile_append_of_notMem h, List.takeWhile_cons_of_neg (by simp), List.append_nil]

/-- What comes behind the end of the input plays no role, and a piece in front of it is whole. -/
theorem IsFormula.expand_takeWhile {value? : Option Expr} {kinds' : List Token.Kind}
    (h : IsFormula vocabulary (kinds.takeWhile (· ≠ .endOfInput)) value?)
    (hexpands : Expands vocabulary kinds kinds') :
    IsFormula vocabulary (kinds'.takeWhile (· ≠ .endOfInput)) value? := by
  obtain @⟨before, after, piece, expansion, hpiece⟩ := hexpands
  by_cases hbefore : .endOfInput ∈ before
  · obtain ⟨front, back, rfl, hfront⟩ := List.eq_append_cons_of_mem hbefore
    simp only [List.append_assoc, List.cons_append, takeWhile_append_endOfInput hfront] at h ⊢
    exact h
  by_cases hinside : .endOfInput ∈ piece
  · obtain ⟨front, back, rfl, hfront⟩ := List.eq_append_cons_of_mem hinside
    have hne : front ≠ [] := by
      rintro rfl
      obtain ⟨first, rest, hfirst, hopens⟩ := hpiece.exists_cons
      obtain ⟨rfl, -⟩ := List.cons.inj hfirst
      contradiction
    have hnotMem : .endOfInput ∉ before ++ front := by simp [hbefore, hfront]
    have hread : before ++ (front ++ .endOfInput :: back) ++ after =
        (before ++ front) ++ .endOfInput :: (back ++ after) := by simp
    rw [hread, takeWhile_append_endOfInput hnotMem] at h
    exact absurd h (IsFormula.not_ends_in hpiece hne (List.cons_ne_nil _ _))
  · have hnotMem : .endOfInput ∉ before ++ piece := by simp [hbefore, hinside]
    have hnotMem' : .endOfInput ∉ before ++ expansion := by
      simp [hbefore, hpiece.endOfInput_notMem hinside]
    rw [takeWhile_append_of_notMem hnotMem] at h
    rw [takeWhile_append_of_notMem hnotMem']
    exact h.expand (.intro before _ hpiece)

/-- A list of tokens that is accepted is accepted with the same tree where a fraction, a root with
an index, or a pair of braces is written out. -/
theorem parse_expand (vocabulary : Vocabulary) (text text' : String) (tokens tokens' : List Token)
    (value? : Option Expr)
    (hparse : parse vocabulary (Playback.ofList text (tokens.map .ok)) = .ok value?)
    (hexpands : Expands vocabulary (tokens.map Token.kind) (tokens'.map Token.kind)) :
    parse vocabulary (Playback.ofList text' (tokens'.map .ok)) = .ok value? := by
  have hgives := gives_playback (Playback.ofList text (tokens.map .ok)) tokens rfl
  have hgives' := gives_playback (Playback.ofList text' (tokens'.map .ok)) tokens' rfl
  have hformula := (parse_eq_ok_iff_of_gives hgives).1 hparse
  exact (parse_eq_ok_iff_of_gives hgives').2 (hformula.expand_takeWhile hexpands)

/-- The minus stays one before a group, and the other root is not concerned. -/
theorem parse_expand_root :
    let before : List Token.Kind :=
      [.control "sqrt", .bracket (.opening '('), .symbol "x", .bracket (.closing ')'),
        .operator .minus, .symbol "a"]
    let piece : List Token.Kind :=
      [.control "sqrt", .bracket (.opening '['), .operator .minus, .number .one,
        .bracket (.closing ']'), .bracket (.opening '{'), .symbol "b", .bracket (.closing '}')]
    let expansion : List Token.Kind :=
      [.bracket (.opening '('), .bracket (.opening '{'), .symbol "b", .bracket (.closing '}'),
        .operator .exponent, .bracket (.opening '('), .number .one, .operator .divide,
        .operator .minus, .number .one, .bracket (.closing ')'), .bracket (.closing ')')]
    let after : List Token.Kind := [.equal, .number .one, .endOfInput]
    let token : Token.Kind → Token := fun kind ↦ ⟨kind, 0, 0, 0⟩
    let value := Expr.equation
      (.binary .minus (.apply "sqrt" (.symbol "x"))
        (.binary .multiply (.symbol "a")
          (.binary .exponent (.symbol "b")
            (.binary .divide (.number .one) (.number (.neg .one)) false) false) false) true)
      (.number .one)
    let tokens := (before ++ piece ++ after).map token
    let tokens' := (before ++ expansion ++ after).map token
    Expands .common (tokens.map Token.kind) (tokens'.map Token.kind) ∧
      parse .common (Playback.ofList "" (tokens.map .ok)) = .ok (some value) ∧
      parse .common (Playback.ofList "" (tokens'.map .ok)) = .ok (some value) := by
  intro before piece expansion after token value tokens tokens'
  have hpiece : Abbreviates .common piece expansion :=
    @Abbreviates.root .common false "sqrt" [.operator .minus, .number .one]
      (.bracket (.opening '{') :: [.symbol "b"] ++ [.bracket (.closing '}')])
      (by decide +kernel) (by decide) (.intro '{' '}' (by decide))
  have hexpands : Expands .common (tokens.map Token.kind) (tokens'.map Token.kind) :=
    .intro before after hpiece
  have hparse : parse .common (Playback.ofList "" (tokens.map .ok)) = .ok (some value) :=
    eq_ok_of_toOption (by decide +kernel)
  exact ⟨hexpands, hparse, parse_expand .common "" "" tokens tokens' _ hparse hexpands⟩

end FormulaText.Grammar
