import FormulaText.Proofs.Grammar.Refusal

/-!
# Where a formula is refused

A reading of a formula is stuck only where its tokens so far could go on as a formula. For each rule
that waits for more there are tokens that complete it. The rules are looked at together, by
induction on their depth.
-/

namespace FormulaText.Grammar

open Reader State

variable {σ : Type} [TokenSource σ] {vocabulary : Vocabulary} {depth : Nat} {origin : σ}

/-- A reader of a category is stuck only where its phrase could go on. -/
def SettlesAs (vocabulary : Vocabulary) (origin : σ) (category : Category)
    (reader : Reader σ Expr) : Prop :=
  ∀ ⦃state : State σ⦄, state.Underway origin →
    Settles reader origin state (Stuck origin (IsPhrase vocabulary category) state)

def SettlesNamed (vocabulary : Vocabulary) (origin : σ) (name : String)
    (reader : Reader σ Expr) : Prop :=
  ∀ ⦃state : State σ⦄ ⦃isCall : Bool⦄, state.Underway origin →
    state.Next (nameToken isCall name) →
      Settles reader origin state (Stuck origin (IsPhrase vocabulary .named) state)

structure Settling (vocabulary : Vocabulary) (origin : σ) (depth : Nat) : Prop where
  expr {state : State σ} (hstate : state.Underway origin) :
    Settles (expr vocabulary depth) origin state (Stuck origin (IsPhrase vocabulary .sum) state)
  sum : SettlesAs vocabulary origin .sum (sum vocabulary depth)
  product : SettlesAs vocabulary origin .product (product vocabulary depth)
  quotient : SettlesAs vocabulary origin .quotient (quotient vocabulary depth)
  quotientFrom {lhs : Expr} {left : List Token.Kind} {state mid : State σ}
    (hmid : mid.Underway origin) (hpath : state.Path left mid)
    (hlhs : Derives vocabulary .quotient left lhs) :
    Settles (quotientFrom vocabulary depth lhs) origin mid
      (Stuck origin (IsPhrase vocabulary .quotient) state)
  remainder : SettlesAs vocabulary origin .remainder (remainder vocabulary depth)
  power : SettlesAs vocabulary origin .power (power vocabulary depth)
  subscript : SettlesAs vocabulary origin .subscript (subscript vocabulary depth)
  operand : SettlesAs vocabulary origin .operand (operand vocabulary depth)
  signed : SettlesAs vocabulary origin .operand (signed vocabulary depth)
  named {name : String} {isCall : Bool} {state : State σ} (hstate : state.Underway origin)
    (hnext : state.Next (nameToken isCall name)) :
    Settles (named vocabulary depth name isCall) origin state
      (Stuck origin (IsPhrase vocabulary .named) state)
  fraction {name : String} (hrole : roleOf vocabulary name = .fraction) :
    SettlesNamed vocabulary origin name (fraction vocabulary depth)
  root {name : String} (hrole : roleOf vocabulary name = .root) :
    SettlesNamed vocabulary origin name (root vocabulary depth)
  application {name : String} (hrole : roleOf vocabulary name = .function) :
    SettlesNamed vocabulary origin name (application vocabulary depth name)
  group : SettlesAs vocabulary origin .group (group vocabulary depth)

/-- A rule that begins with a phrase and then looks ahead. -/
theorem SettlesAs.first {category tier : Category} {rule : Rule} {reader : Reader σ Expr}
    {next : Expr → Token → Reader σ Expr} {state : State σ} (hstate : state.Underway origin)
    (hreader : SettlesAs vocabulary origin category reader)
    (hrecognizes : Recognizes vocabulary category reader)
    (hloosen : ∀ {kinds value}, Derives vocabulary category kinds value →
      Derives vocabulary tier kinds value)
    (hnext : ∀ (entered peeked : State σ) (lhs : Expr) (left : List Token.Kind) (ahead : Token),
      entered.Path left peeked → Derives vocabulary category left lhs →
        peeked.Next ahead.kind → peeked.Underway origin → category.goesOn ahead.kind = false →
          Settles (next lhs ahead) origin peeked
            (Stuck origin (IsPhrase vocabulary tier) entered)) :
    Settles (do enter rule; let lhs ← reader; let ahead ← peek; next lhs ahead) origin state
      (Stuck origin (IsPhrase vocabulary tier) state) := by
  refine settles_enter hstate fun entered hentered _ ↦ ?_
  have hfirst : Settles reader origin entered (Stuck origin (IsPhrase vocabulary tier) entered) :=
    (hreader hentered).mono fun error after hstuck ↦
      hstuck.mono fun kinds hkinds ↦ hkinds.imp fun _ ↦ hloosen
  refine hfirst.bind fun lhs read hlhs hread ↦ ?_
  obtain ⟨left, hleft, hderives, hstops⟩ := hrecognizes hlhs
  refine .afterPeek hread (continues_of_phrase hleft (hloosen hderives))
    fun ahead peeked hpath hahead hpeeked ↦ ?_
  have hwhole := hleft.trans hpath
  rw [List.append_nil] at hwhole
  have hgoesOn := hstops _ ((next_of_path_nil hpath).1 hahead)
  exact hnext entered peeked lhs left ahead hwhole hderives hahead hpeeked hgoesOn

/-- A rule that goes on with a known token and a phrase. -/
theorem SettlesAs.rest {category tier : Category} {kind : Token.Kind} {reader : Reader σ Expr}
    {next : Expr → Reader σ Expr} {state mid : State σ} {left : List Token.Kind} {lhs : Expr}
    (hreader : SettlesAs vocabulary origin category reader)
    (hmid : mid.Underway origin) (hpath : state.Path left mid) (hahead : mid.Next kind)
    (hkind : kind ≠ .endOfInput) (hlhs : Derives vocabulary tier left lhs)
    (hwhole : ∀ {right rhs}, Derives vocabulary category right rhs →
      IsPhrase vocabulary tier (left ++ kind :: right))
    (hnext : ∀ passed last rhs, mid.Path [kind] passed → Accepts reader passed rhs last →
      last.Underway origin → Settles (next rhs) origin last
        (Stuck origin (IsPhrase vocabulary tier) state)) :
    Settles (do let _ ← advance; let rhs ← reader; next rhs) origin mid
      (Stuck origin (IsPhrase vocabulary tier) state) := by
  refine .afterAdvance hmid (continues_of_phrase hpath hlhs) fun found passed hfound ↦ ?_
  have hpass := path_of_advance hahead hkind hfound
  have hpassed := hmid.of_advance_of_next hfound hahead hkind
  have hright : Settles reader origin passed (Stuck origin (IsPhrase vocabulary tier) state) := by
    refine (hreader hpassed).mono fun error after hstuck ↦
      hstuck.within [] (hpath.trans hpass) fun right hright ↦ ?_
    obtain ⟨rhs, hrhs⟩ := hright
    simpa using hwhole hrhs
  exact hright.bind fun rhs last hrhs hlast ↦ hnext passed last rhs hpass hrhs hlast

/-- A rule for a name begins by consuming it. -/
theorem settlesNamed_enter {name : String} {rule : Rule} {next : Reader σ Expr}
    (hwhole : ∀ isCall, ∃ kinds, IsPhrase vocabulary .named (nameToken isCall name :: kinds))
    (hnext : ∀ {entered passed : State σ} {isCall : Bool},
      entered.Path [nameToken isCall name] passed → passed.Underway origin →
        Settles next origin passed (Stuck origin (IsPhrase vocabulary .named) entered)) :
    SettlesNamed vocabulary origin name (do enter rule; let _ ← advance; next) := by
  intro state isCall hstate hname
  refine settles_enter hstate fun entered hentered hkinds ↦ ?_
  have hentry := hkinds _ hname
  have hne := nameToken_ne_endOfInput isCall name
  obtain ⟨kinds, hphrase⟩ := hwhole isCall
  refine .afterAdvance hentered (continues_of_isPhrase entered hphrase) fun found passed hfound ↦ ?_
  exact hnext (path_of_advance hentry hne hfound) (hentered.of_advance_of_next hfound hentry hne)

namespace Settling

variable {state mid : State σ} {left : List Token.Kind} {lhs : Expr} {name : String}

theorem zero : Settling vocabulary origin 0 where
  expr hstate := hstate
  sum _ hstate := hstate
  product _ hstate := hstate
  quotient _ hstate := hstate
  quotientFrom hmid _ _ := hmid
  remainder _ hstate := hstate
  power _ hstate := hstate
  subscript _ hstate := hstate
  operand _ hstate := hstate
  signed _ hstate := hstate
  named hstate _ := hstate
  fraction _ _ _ hstate _ := hstate
  root _ _ _ hstate _ := hstate
  application _ _ _ hstate _ := hstate
  group _ hstate := hstate

theorem expr_succ (ih : Settling vocabulary origin depth) (hstate : state.Underway origin) :
    Settles (Grammar.expr vocabulary (depth + 1)) origin state
      (Stuck origin (IsPhrase vocabulary .sum) state) := by
  rw [Grammar.expr]
  refine settles_enter hstate fun entered hentered _ ↦ ?_
  have hgoing := continues_of_isPhrase entered (isPhrase_symbol vocabulary).to_sum
  refine .afterPeek hentered hgoing fun ahead peeked hpath hahead hpeeked ↦ ?_
  split
  · exact settles_pure hpeeked
  iterate 2
    refine .afterAdvance hpeeked (hgoing.peeked hpath) fun found passed hfound ↦ ?_
    exact settles_reject hpeeked (hgoing.peeked hpath) hfound
  · refine settles_map ((ih.sum hpeeked).mono fun error after hstuck ↦ ?_)
    exact hstuck.within [] hpath fun kinds hkinds ↦ by simpa using hkinds

theorem sum_succ (ih : Settling vocabulary origin depth) :
    SettlesAs vocabulary origin .sum (Grammar.sum vocabulary (depth + 1)) := by
  intro state hstate
  rw [Grammar.sum]
  refine ih.product.first hstate (sound vocabulary depth).product .sum_of_product
    fun entered peeked lhs left ahead hleft hlhs hahead hpeeked _ ↦ ?_
  have hsum := Derives.sum_of_product hlhs
  split
  · next hkind =>
    exact ih.sum.rest hpeeked hleft (hkind ▸ hahead) (by simp) hsum
      (fun hrhs ↦ ⟨_, .plus hlhs hrhs⟩) fun _ _ _ _ _ hlast ↦ settles_pure hlast
  · next hkind =>
    exact ih.sum.rest hpeeked hleft (hkind ▸ hahead) (by simp) hsum
      (fun hrhs ↦ ⟨_, .minus hlhs hrhs⟩) fun _ _ _ _ _ hlast ↦ hlast
  · exact settles_pure hpeeked

theorem product_succ (ih : Settling vocabulary origin depth) :
    SettlesAs vocabulary origin .product (Grammar.product vocabulary (depth + 1)) := by
  intro state hstate
  rw [Grammar.product]
  refine ih.quotient.first hstate (sound vocabulary depth).quotient .product_of_quotient
    fun entered peeked lhs left ahead hleft hlhs hahead hpeeked hstops ↦ ?_
  have hproduct := Derives.product_of_quotient hlhs
  split
  · next hkind =>
    exact ih.product.rest hpeeked hleft (hkind ▸ hahead) (by simp) hproduct
      (fun hrhs ↦ ⟨_, .times hlhs hrhs⟩) fun _ _ _ _ _ hlast ↦ settles_pure hlast
  · next hkind =>
    -- a quotient has taken every division sign
    exact absurd hkind (Category.goesOn_quotient.1 hstops).1
  · split
    · next hfactor =>
      have hright : Settles (Grammar.product vocabulary depth) origin peeked
          (Stuck origin (IsPhrase vocabulary .product) entered) := by
        refine (ih.product hpeeked).mono fun error after hstuck ↦
          hstuck.behind hleft hahead (continues_of_phrase hleft hproduct) fun right hrhs hhead ↦ ?_
        obtain ⟨rhs, hrhs⟩ := hrhs
        exact ⟨_, .juxtaposed hlhs hrhs (by rw [hhead]; exact hfactor)⟩
      exact hright.bind fun _ _ _ hlast ↦ settles_pure hlast
    · exact settles_pure hpeeked

theorem quotient_succ (ih : Settling vocabulary origin depth) :
    SettlesAs vocabulary origin .quotient (Grammar.quotient vocabulary (depth + 1)) := by
  intro state hstate
  rw [Grammar.quotient]
  refine settles_enter hstate fun entered hentered _ ↦ ?_
  have hfirst : Settles (Grammar.remainder vocabulary depth) origin entered
      (Stuck origin (IsPhrase vocabulary .quotient) entered) :=
    (ih.remainder hentered).mono fun error after hstuck ↦
      hstuck.mono fun kinds hkinds ↦ hkinds.imp fun _ ↦ .quotient_of_remainder
  refine hfirst.bind fun lhs read hlhs hread ↦ ?_
  obtain ⟨left, hleft, hderives, hstops⟩ := (sound vocabulary depth).remainder hlhs
  exact ih.quotientFrom hread hleft (.quotient_of_remainder hderives)

theorem quotientFrom_succ (ih : Settling vocabulary origin depth) (hmid : mid.Underway origin)
    (hpath : state.Path left mid) (hlhs : Derives vocabulary .quotient left lhs) :
    Settles (Grammar.quotientFrom vocabulary (depth + 1) lhs) origin mid
      (Stuck origin (IsPhrase vocabulary .quotient) state) := by
  rw [Grammar.quotientFrom]
  refine .afterPeek hmid (continues_of_phrase hpath hlhs) fun ahead peeked hpeek hahead hpeeked ↦ ?_
  have hleft := hpath.trans hpeek
  rw [List.append_nil] at hleft
  split
  · next hkind =>
    refine ih.remainder.rest hpeeked hleft (hkind ▸ hahead) (by simp) hlhs
      (fun hrhs ↦ ⟨_, .divided hlhs hrhs⟩) fun passed last rhs hpass hrhs hlast ↦ ?_
    obtain ⟨right, hright, hderives, -⟩ := (sound vocabulary depth).remainder hrhs
    exact ih.quotientFrom hlast (hleft.trans (hpass.trans hright)) (.divided hlhs hderives)
  · exact settles_pure hpeeked

theorem remainder_succ (ih : Settling vocabulary origin depth) :
    SettlesAs vocabulary origin .remainder (Grammar.remainder vocabulary (depth + 1)) := by
  intro state hstate
  rw [Grammar.remainder]
  refine ih.power.first hstate (sound vocabulary depth).power .remainder_of_power
    fun entered peeked lhs left ahead hleft hlhs hahead hpeeked _ ↦ ?_
  split
  · next hkind =>
    exact ih.remainder.rest hpeeked hleft (hkind ▸ hahead) (by simp) (.remainder_of_power hlhs)
      (fun hrhs ↦ ⟨_, .modulo hlhs hrhs⟩) fun _ _ _ _ _ hlast ↦ settles_pure hlast
  · exact settles_pure hpeeked

theorem power_succ (ih : Settling vocabulary origin depth) :
    SettlesAs vocabulary origin .power (Grammar.power vocabulary (depth + 1)) := by
  intro state hstate
  rw [Grammar.power]
  refine ih.subscript.first hstate (sound vocabulary depth).subscript .power_of_subscript
    fun entered peeked lhs left ahead hleft hlhs hahead hpeeked _ ↦ ?_
  split
  · next hkind =>
    exact ih.power.rest hpeeked hleft (hkind ▸ hahead) (by simp) (.power_of_subscript hlhs)
      (fun hrhs ↦ ⟨_, .raised hlhs hrhs⟩) fun _ _ _ _ _ hlast ↦ settles_pure hlast
  · exact settles_pure hpeeked

theorem subscript_succ (ih : Settling vocabulary origin depth) :
    SettlesAs vocabulary origin .subscript (Grammar.subscript vocabulary (depth + 1)) := by
  intro state hstate
  rw [Grammar.subscript]
  refine ih.operand.first hstate (sound vocabulary depth).operand .subscript_of_operand
    fun entered peeked base left ahead hleft hbase hahead hpeeked _ ↦ ?_
  split
  · next hkind =>
    exact ih.subscript.rest hpeeked hleft (hkind ▸ hahead) (by simp) (.subscript_of_operand hbase)
      (fun hindex ↦ ⟨_, .indexed hbase hindex⟩) fun _ _ _ _ _ hlast ↦ settles_pure hlast
  · exact settles_pure hpeeked

theorem operand_succ (ih : Settling vocabulary origin depth) :
    SettlesAs vocabulary origin .operand (Grammar.operand vocabulary (depth + 1)) := by
  intro state hstate
  rw [Grammar.operand]
  refine settles_enter hstate fun entered hentered _ ↦ ?_
  have hentry := continues_of_isPhrase entered (isPhrase_symbol vocabulary)
  refine .afterPeek hentered hentry fun ahead peeked hpath hahead hpeeked ↦ ?_
  have hgoing := hentry.peeked hpath
  split
  · next hkind =>
    refine .afterAdvance hpeeked hgoing fun _ passed hfound ↦ ?_
    exact settles_pure (hpeeked.of_advance_of_next hfound hahead (by simp [hkind]))
  · exact (ih.signed hpeeked).mono fun error after hstuck ↦ hstuck.from_peek hpath fun _ ↦ id
  · next hkind =>
    refine .afterAdvance hpeeked hgoing fun _ passed hfound ↦ ?_
    exact settles_pure (hpeeked.of_advance_of_next hfound hahead (by simp [hkind]))
  iterate 2
    exact (ih.named hpeeked (by simpa [nameToken, *] using hahead)).mono fun error after hstuck ↦
      hstuck.from_peek hpath fun _ hkinds ↦ hkinds.imp fun _ ↦ .operand_of_named
  · exact (ih.group hpeeked).mono fun error after hstuck ↦
      hstuck.from_peek hpath fun _ hkinds ↦ hkinds.imp fun _ ↦ .operand_of_group
  iterate 3
    refine .afterAdvance hpeeked hgoing fun _ passed hfound ↦ ?_
    exact settles_reject hpeeked hgoing hfound

theorem signed_succ (ih : Settling vocabulary origin depth) :
    SettlesAs vocabulary origin .operand (Grammar.signed vocabulary (depth + 1)) := by
  intro state hstate
  rw [Grammar.signed]
  refine settles_enter hstate fun entered hentered _ ↦ ?_
  have hgoing := continues_of_isPhrase entered (isPhrase_symbol vocabulary)
  refine .afterAdvance hentered hgoing fun found passed hfound ↦ ?_
  have hnext := next_of_advance hfound
  have hoperand (sign : Sign) (hkind : found.kind = signToken sign) :
      passed.Underway origin ∧ Settles (Grammar.operand vocabulary depth) origin passed
        (Stuck origin (IsPhrase vocabulary .operand) entered) := by
    have hne : found.kind ≠ .endOfInput := by cases sign <;> simp [hkind, signToken]
    have hpassed := hentered.of_advance_of_ne hfound hne
    refine ⟨hpassed, (ih.operand hpassed).mono fun error after hstuck ↦ ?_⟩
    refine hstuck.within [] (path_of_advance hnext hne hfound) fun kinds hkinds ↦ ?_
    obtain ⟨value, hvalue⟩ := hkinds
    rw [List.append_nil, hkind]
    exact ⟨_, .signed sign hvalue⟩
  split
  · next hkind =>
    refine (hoperand .plus hkind).2.bind fun value last _ hlast ↦ ?_
    split <;> exact hlast
  · next hkind =>
    refine (hoperand .minus hkind).2.bind fun value last _ hlast ↦ ?_
    split <;> exact hlast
  · exact settles_reject hentered hgoing hfound

theorem named_succ (ih : Settling vocabulary origin depth) {isCall : Bool}
    (hstate : state.Underway origin) (hnext : state.Next (nameToken isCall name)) :
    Settles (Grammar.named vocabulary (depth + 1) name isCall) origin state
      (Stuck origin (IsPhrase vocabulary .named) state) := by
  rw [Grammar.named]
  refine settles_enter hstate fun entered hentered hkinds ↦ ?_
  have hentry := hkinds _ hnext
  split
  · next hfraction => exact ih.fraction (by simp [roleOf, hfraction]) hentered hentry
  · next hfraction =>
    split
    · next hroot => exact ih.root (by simp [roleOf, hfraction, hroot]) hentered hentry
    · next hroot =>
      split
      · next hfunction =>
        exact ih.application (by simp [roleOf, hfraction, hroot, hfunction]) hentered hentry
      · next hfunction =>
        have hplain : IsPhrase vocabulary .named [nameToken isCall name] :=
          ⟨_, .plain isCall (by simp [roleOf, hfraction, hroot, hfunction])⟩
        refine .afterAdvance hentered (continues_of_isPhrase entered hplain) fun _ _ hfound ↦ ?_
        have hpassed :=
          hentered.of_advance_of_next hfound hentry (nameToken_ne_endOfInput isCall name)
        split <;> exact hpassed

theorem fraction_succ (ih : Settling vocabulary origin depth)
    (hrole : roleOf vocabulary name = .fraction) :
    SettlesNamed vocabulary origin name (Grammar.fraction vocabulary (depth + 1)) := by
  have hwhole (isCall : Bool) {above below : List Token.Kind}
      (habove : IsPhrase vocabulary .group above) (hbelow : IsPhrase vocabulary .group below) :
      IsPhrase vocabulary .named (nameToken isCall name :: above ++ below) := by
    obtain ⟨numerator, habove⟩ := habove
    obtain ⟨denominator, hbelow⟩ := hbelow
    exact ⟨_, .fraction isCall hrole habove hbelow⟩
  have hsome := isPhrase_someGroup vocabulary
  rw [Grammar.fraction]
  refine settlesNamed_enter (fun isCall ↦ ⟨_, hwhole isCall hsome hsome⟩)
    fun {entered passed isCall} hpass hpassed ↦ ?_
  have habove : Settles (Grammar.group vocabulary depth) origin passed
      (Stuck origin (IsPhrase vocabulary .named) entered) :=
    (ih.group hpassed).mono fun error after hstuck ↦
      hstuck.within someGroup hpass fun above habove ↦ hwhole isCall habove hsome
  refine habove.bind fun numerator mid hnumerator hmid ↦ ?_
  obtain ⟨above, hpath, hderives, -⟩ := (sound vocabulary depth).group hnumerator
  have hbelow : Settles (Grammar.group vocabulary depth) origin mid
      (Stuck origin (IsPhrase vocabulary .named) entered) := by
    refine (ih.group hmid).mono fun error after hstuck ↦
      hstuck.within [] (hpass.trans hpath) fun below hbelow ↦ ?_
    rw [List.append_nil]
    exact hwhole isCall ⟨numerator, hderives⟩ hbelow
  exact hbelow.bind fun _ _ _ hlast ↦ settles_pure hlast

/-- The rest of a root with an index, behind the opening square bracket. -/
theorem indexedRoot_isPhrase (isCall : Bool) (hrole : roleOf vocabulary name = .root)
    {inner outer : List Token.Kind} (hinner : IsPhrase vocabulary .operand inner)
    (houter : IsPhrase vocabulary .group outer) :
    IsPhrase vocabulary .named
      (nameToken isCall name :: .bracket (.opening '[') :: inner ++
        .bracket (.closing ']') :: outer) := by
  obtain ⟨index, hinner⟩ := hinner
  obtain ⟨radicand, houter⟩ := houter
  exact ⟨_, .indexedRoot isCall hrole hinner houter⟩

theorem root_succ (ih : Settling vocabulary origin depth)
    (hrole : roleOf vocabulary name = .root) :
    SettlesNamed vocabulary origin name (Grammar.root vocabulary (depth + 1)) := by
  have hsymbol := isPhrase_symbol vocabulary
  have hsome := isPhrase_someGroup vocabulary
  have hindexed (isCall : Bool) {inner outer : List Token.Kind}
      (hinner : IsPhrase vocabulary .operand inner) (houter : IsPhrase vocabulary .group outer) :=
    indexedRoot_isPhrase isCall hrole hinner houter
  rw [Grammar.root]
  refine settlesNamed_enter (fun isCall ↦ ⟨_, hindexed isCall hsymbol hsome⟩)
    fun {entered passed isCall} hpass hpassed ↦ ?_
  have hgoing : entered.Continues (IsPhrase vocabulary .named) passed :=
    ⟨_, _, hpass, hindexed isCall hsymbol hsome⟩
  refine .afterPeek hpassed hgoing fun ahead peeked hpath hahead hpeeked ↦ ?_
  have hleft := hpass.trans hpath
  rw [List.append_nil] at hleft
  split
  · next hopen =>
    refine .afterAdvance hpeeked (hgoing.peeked hpath) fun _ opened hfound ↦ ?_
    have hbegun := hleft.trans (path_of_advance (hopen ▸ hahead) (by simp) hfound)
    have hopened := hpeeked.of_advance_of_next hfound (hopen ▸ hahead) (by simp)
    have hindex : Settles (Grammar.operand vocabulary depth) origin opened
        (Stuck origin (IsPhrase vocabulary .named) entered) :=
      (ih.operand hopened).mono fun error after hstuck ↦
        hstuck.within (.bracket (.closing ']') :: someGroup) hbegun fun inner hinner ↦
          hindexed isCall hinner hsome
    refine hindex.bind fun index read hread hreading ↦ ?_
    obtain ⟨inner, hinner, hderives, -⟩ := (sound vocabulary depth).operand hread
    have hindexRead := hbegun.trans hinner
    have hclosing : entered.Continues (IsPhrase vocabulary .named) read :=
      ⟨_, _, hindexRead, hindexed isCall ⟨index, hderives⟩ hsome⟩
    refine .afterAdvance hreading hclosing fun found closed hfound ↦ ?_
    split
    · next hclose =>
      have hnext := hclose ▸ next_of_advance hfound
      have hclosed := hindexRead.trans (path_of_advance hnext (by simp) hfound)
      have houter : Settles (Grammar.group vocabulary depth) origin closed
          (Stuck origin (IsPhrase vocabulary .named) entered) := by
        refine (ih.group (hreading.of_advance_of_next hfound hnext (by simp))).mono
          fun error after hstuck ↦ hstuck.within [] hclosed fun outer houter ↦ ?_
        have hwhole := hindexed isCall ⟨index, hderives⟩ houter
        simpa using hwhole
      exact houter.bind fun _ _ _ hlast ↦ settles_pure hlast
    · exact settles_reject hreading hclosing hfound
  · next hopen =>
    have hgroup : Settles (Grammar.group vocabulary depth) origin peeked
        (Stuck origin (IsPhrase vocabulary .named) entered) := by
      refine (ih.group hpeeked).mono fun error after hstuck ↦
        hstuck.behind hleft hahead (hgoing.peeked hpath) fun kinds hkinds hhead ↦ ?_
      obtain ⟨radicand, hkinds⟩ := hkinds
      exact ⟨_, .root isCall hrole hkinds (by simpa [hhead] using hopen)⟩
    exact hgroup.bind fun _ _ _ hlast ↦ settles_pure hlast

theorem application_succ (ih : Settling vocabulary origin depth)
    (hrole : roleOf vocabulary name = .function) :
    SettlesNamed vocabulary origin name (Grammar.application vocabulary (depth + 1) name) := by
  have hwhole (isCall : Bool) {kinds : List Token.Kind} (h : IsPhrase vocabulary .operand kinds) :
      IsPhrase vocabulary .named (nameToken isCall name :: kinds) := by
    obtain ⟨argument, h⟩ := h
    exact ⟨_, .application isCall hrole h⟩
  have hsymbol := isPhrase_symbol vocabulary
  rw [Grammar.application]
  refine settlesNamed_enter (fun isCall ↦ ⟨_, hwhole isCall hsymbol⟩)
    fun {entered passed isCall} hpass hpassed ↦ ?_
  refine .afterPeek hpassed ⟨_, _, hpass, hwhole isCall hsymbol⟩
    fun ahead peeked hpath hahead hpeeked ↦ ?_
  have hleft := hpass.trans hpath
  rw [List.append_nil] at hleft
  have hargument {category : Category} {reader : Reader σ Expr}
      (hreader : SettlesAs vocabulary origin category reader)
      (htight : category.rank ≤ Category.operand.rank) :
      Settles (do let argument ← reader; return Expr.apply name argument) origin peeked
        (Stuck origin (IsPhrase vocabulary .named) entered) := by
    have hstuck : Settles reader origin peeked
        (Stuck origin (IsPhrase vocabulary .named) entered) := by
      refine (hreader hpeeked).mono fun error after hstuck ↦
        hstuck.within [] hleft fun kinds hkinds ↦ ?_
      obtain ⟨argument, hkinds⟩ := hkinds
      rw [List.append_nil]
      exact hwhole isCall ⟨argument, hkinds.to_operand htight⟩
    exact hstuck.bind fun _ _ _ hlast ↦ settles_pure hlast
  split
  · exact hargument ih.group (by decide)
  · exact hargument ih.operand (by decide)

theorem group_succ (ih : Settling vocabulary origin depth) :
    SettlesAs vocabulary origin .group (Grammar.group vocabulary (depth + 1)) := by
  intro state hstate
  rw [Grammar.group]
  refine settles_enter hstate fun entered hentered _ ↦ ?_
  have hgoing := continues_of_isPhrase entered (isPhrase_someGroup vocabulary)
  refine .afterAdvance hentered hgoing fun found opened hfound ↦ ?_
  cases hkind : found.kind with
  | bracket bracket =>
    obtain ⟨mark, opens⟩ := bracket
    cases opens with
    | false => exact settles_reject hentered hgoing hfound
    | true =>
      simp only [if_true]
      split
      · exact settles_reject hentered hgoing hfound
      · next partner hpartner =>
        have hwhole {kinds : List Token.Kind} (h : IsPhrase vocabulary .sum kinds) :
            IsPhrase vocabulary .group
              (.bracket (.opening mark) :: kinds ++ [.bracket (.closing partner)]) := by
          obtain ⟨content, h⟩ := h
          exact ⟨_, .group hpartner h⟩
        have hnext : entered.Next (.bracket (.opening mark)) := hkind ▸ next_of_advance hfound
        have hbegun := path_of_advance hnext (by simp) hfound
        have hopened := hentered.of_advance_of_next hfound hnext (by simp)
        have hcontent : Settles (Grammar.expr vocabulary depth) origin opened
            (Stuck origin (IsPhrase vocabulary .group) entered) :=
          (ih.expr hopened).mono fun error after hstuck ↦
            hstuck.within [.bracket (.closing partner)] hbegun fun _ hkinds ↦ hwhole hkinds
        refine hcontent.bind fun content? read hread hreading ↦ ?_
        have hsound := (sound vocabulary depth).expr hread
        have hclosing : entered.Continues (IsPhrase vocabulary .group) read := by
          cases content? with
          | some content =>
            obtain ⟨kinds, hkinds, hderives, -⟩ := hsound
            exact ⟨_, _, hbegun.trans hkinds, hwhole ⟨content, hderives⟩⟩
          | none =>
            have hempty := hbegun.trans hsound.1
            rw [List.append_nil] at hempty
            exact ⟨_, [.symbol "x", .bracket (.closing partner)], hempty,
              hwhole (isPhrase_symbol vocabulary).to_sum⟩
        refine .afterAdvance hreading hclosing fun last closed hlast ↦ ?_
        split
        · next hclose =>
          have hnext := hclose ▸ next_of_advance hlast
          have hclosed := hreading.of_advance_of_next hlast hnext (by simp)
          split
          · exact settles_pure hclosed
          · -- an empty group lies before the end of the input, where no bracket follows
            exact absurd (hnext.unique hsound.2) (by simp)
        · exact settles_reject hreading hclosing hlast
  | _ => exact settles_reject hentered hgoing hfound

theorem succ (ih : Settling vocabulary origin depth) : Settling vocabulary origin (depth + 1) where
  expr := ih.expr_succ
  sum := ih.sum_succ
  product := ih.product_succ
  quotient := ih.quotient_succ
  quotientFrom := ih.quotientFrom_succ
  remainder := ih.remainder_succ
  power := ih.power_succ
  subscript := ih.subscript_succ
  operand := ih.operand_succ
  signed := ih.signed_succ
  named := ih.named_succ
  fraction := ih.fraction_succ
  root := ih.root_succ
  application := ih.application_succ
  group := ih.group_succ

end Settling

theorem settling (vocabulary : Vocabulary) (origin : σ) (depth : Nat) :
    Settling vocabulary origin depth := by
  induction depth with
  | zero => exact .zero
  | succ depth ih => exact ih.succ

def IsText (vocabulary : Vocabulary) (kinds : List Token.Kind) : Prop :=
  ∃ value?, IsFormula vocabulary kinds value?

theorem IsPhrase.isText {category : Category} {kinds : List Token.Kind}
    (h : IsPhrase vocabulary category kinds) : IsText vocabulary kinds := by
  obtain ⟨value, h⟩ := h
  exact ⟨_, .sum h.to_sum⟩

theorem IsPhrase.equation {left right : List Token.Kind} (hleft : IsPhrase vocabulary .sum left)
    (hright : IsPhrase vocabulary .sum right) : IsText vocabulary (left ++ .equal :: right) := by
  obtain ⟨lhs, hleft⟩ := hleft
  obtain ⟨rhs, hright⟩ := hright
  exact ⟨_, .equation hleft hright⟩

/-- An equation is stuck only where a formula could go on. -/
theorem settles_equation {state : State σ} (hstate : state.Underway origin) :
    Settles (equation vocabulary depth) origin state
      (Stuck origin (IsText vocabulary) state) := by
  have hsymbol : IsPhrase vocabulary .sum [.symbol "x"] := (isPhrase_symbol vocabulary).to_sum
  have hexpr : Settles (expr vocabulary depth) origin state
      (Stuck origin (IsText vocabulary) state) :=
    ((settling vocabulary origin depth).expr hstate).mono fun error after hstuck ↦
      hstuck.mono fun _ ↦ IsPhrase.isText
  rw [equation]
  refine hexpr.bind fun lhs? read hlhs hread ↦ ?_
  have hleft := (sound vocabulary depth).expr hlhs
  split
  · exact settles_pure hread
  · next lhs =>
    obtain ⟨left, hleft, hderives, -⟩ := hleft
    have hlhs : IsPhrase vocabulary .sum left := ⟨lhs, hderives⟩
    have hgoing : state.Continues (IsText vocabulary) read := by
      refine ⟨left, [], hleft, ?_⟩
      rw [List.append_nil]
      exact hlhs.isText
    refine .afterPeek hread hgoing fun ahead peeked hpath hahead hpeeked ↦ ?_
    have hwhole := hleft.trans hpath
    rw [List.append_nil] at hwhole
    split
    · next hkind =>
      refine .afterAdvance hpeeked (hgoing.peeked hpath) fun _ passed hfound ↦ ?_
      have hbegun := hwhole.trans (path_of_advance (hkind ▸ hahead) (by simp) hfound)
      have hpassed := hpeeked.of_advance_of_next hfound (hkind ▸ hahead) (by simp)
      have hright : Settles (expr vocabulary depth) origin passed
          (Stuck origin (IsText vocabulary) state) := by
        refine ((settling vocabulary origin depth).expr hpassed).mono fun error after hstuck ↦
          hstuck.within [] hbegun fun kinds hkinds ↦ ?_
        simpa using hlhs.equation hkinds
      refine hright.bind fun rhs? last hrhs hlast ↦ ?_
      split
      · exact settles_pure hlast
      · have hnothing := (sound vocabulary depth).expr hrhs
        have hmissing : state.Continues (IsText vocabulary) last := by
          refine ⟨_, [.symbol "x"], hbegun.trans hnothing.1, ?_⟩
          simpa using hlhs.equation hsymbol
        refine .afterAdvance hlast hmissing fun found ended hfound ↦ ?_
        exact settles_reject hlast hmissing hfound
    · exact settles_pure hpeeked

/-- A reading of a formula ends with the end of the input, or where the formula could go on but is
refused. -/
def Ends (vocabulary : Vocabulary) (origin : σ) (outcome : Outcome σ (Option Expr)) : Prop :=
  match outcome with
  | .accepted _ after => ∃ mid token, Underway origin mid ∧ Accepts advance mid token after ∧
      token.kind = .endOfInput
  | .rejected error after => Stuck origin (IsText vocabulary) (start origin) error after
  | .tooDeep after => after.Underway origin

theorem formula_ends (vocabulary : Vocabulary) (depth : Nat) (origin : σ) :
    Ends vocabulary origin (formula vocabulary depth (.start origin)) := by
  have hequation : Settles (equation vocabulary depth) origin (start origin)
      (Stuck origin (IsText vocabulary) (start origin)) :=
    settles_equation (underway_start origin)
  rw [formula, bind_apply]
  unfold Settles at hequation
  cases houtcome : equation vocabulary depth (.start origin) with
  | rejected error after =>
    rw [houtcome] at hequation
    exact hequation
  | tooDeep after =>
    rw [houtcome] at hequation
    exact hequation
  | accepted value? read =>
    rw [houtcome] at hequation
    obtain ⟨kinds, hkinds, hformula⟩ := isFormula_of_accepts_equation houtcome
    have hgoing : (start origin).Continues (IsText vocabulary) read := by
      refine ⟨kinds, [], hkinds, value?, ?_⟩
      rwa [List.append_nil]
    simp only [bind_apply]
    rcases peek_or_refuses read with ⟨token, peeked, hpeek⟩ | ⟨error, after, hpeek, hrefuses⟩
    · have hadvance := advance_of_peek hpeek
      rw [hadvance]
      simp only
      split
      · next hend => exact ⟨read, token, hequation, hadvance, hend⟩
      · exact ⟨read, hequation, hgoing, .token (.trailingToken token.kind) hadvance⟩
    · rw [advance_of_failure hpeek]
      exact ⟨read, hequation, hgoing, hrefuses⟩

end FormulaText.Grammar
