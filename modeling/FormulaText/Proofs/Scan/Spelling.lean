import FormulaText.Proofs.Grammar.Upcoming
import FormulaText.Proofs.Latex.Words
import FormulaText.Linear.Scanner

/-!
# Names as the scanners spell them

The names in tokens are words, and a control word is none that the table of LaTeX holds. Both
notations give such tokens only.
-/

namespace FormulaText

open Scan Grammar

def Token.Kind.IsSpelled : Token.Kind → Prop
  | .symbol name | .call name => isWord name.toList = true
  | .control name => Latex.isControlName name.toList = true
  | _ => True

/-- A property of all tokens that a source may answer, in the states it may reach, is one of all
tokens that it gives. -/
theorem Grammar.Gives.forall {σ : Type} [TokenSource σ] {I : σ → Prop} {P : Token.Kind → Prop}
    {source : σ} {kinds : List Token.Kind} (hsource : I source)
    (hnext : ∀ source, I source → I (TokenSource.next source).2)
    (hanswer : ∀ source token, I source → (TokenSource.next source).1 = .ok token → P token.kind)
    (h : Gives source kinds) : ∀ kind ∈ kinds, P kind := by
  induction kinds generalizing source with
  | nil => simp
  | cons first kinds ih =>
    obtain ⟨token, htoken, rfl, -, hrest⟩ := h
    intro kind hkind
    rcases List.mem_cons.1 hkind with rfl | hkind
    · exact hanswer source token hsource htoken
    · exact ih (hnext source hsource) hrest kind hkind

theorem isSpelled_readNumeral {place : Cursor} {numeral : List Char} {token : Token}
    (h : (readNumeral place numeral).1 = .ok token) : token.kind.IsSpelled := by
  unfold readNumeral at h
  split at h
  · cases h
    trivial
  · contradiction

namespace Latex

theorem isSpelled_readFree {place : Cursor} {token : Token}
    (hlexeme : lexemeAt? table place.remaining = none)
    (h : (readFree place).1 = .ok token) : token.kind.IsSpelled := by
  unfold readFree at h
  split at h
  · exact isSpelled_readNumeral h
  · split at h
    · next first letters hword =>
      cases h
      change isWord (String.ofList (first :: letters)).toList = true
      rw [String.toList_ofList, ← hword]
      exact isWord_wordAt (by simp [hword])
    · next rest _ hremaining =>
      split at h
      · next first letters hword =>
        cases h
        change isControlName (String.ofList (first :: letters)).toList = true
        obtain ⟨behind, htext, hisWord, hend⟩ := exists_append_of_wordAt hword
        rw [hremaining, htext] at hlexeme
        rw [String.toList_ofList]
        exact isControlName_of_lexemeAt? hisWord hend hlexeme
      · contradiction
    · contradiction

theorem isSpelled_readToken {cursor : Cursor} {token : Token}
    (h : (readToken table cursor).1 = .ok token) : token.kind.IsSpelled := by
  fun_induction readToken table cursor with
  | case1 | case4 | case5 | case6 | case7 =>
    cases h
    trivial
  | case2 cursor hne length hlexeme ih => exact ih h
  | case3 cursor hne length opens hlexeme =>
    simp only [readDelimited] at h
    split at h
    · split at h
      · cases h
        trivial
      · contradiction
    · contradiction
  | case8 cursor hne hlexeme => exact isSpelled_readFree hlexeme h

theorem isSpelled_of_gives {text : String} {kinds : List Token.Kind}
    (h : Gives (scanner text) kinds) : ∀ kind ∈ kinds, kind.IsSpelled := by
  refine Gives.forall (I := fun source ↦ source.table = table) rfl (fun _ hsource ↦ hsource) ?_ h
  rintro ⟨entries, cursor⟩ token rfl htoken
  exact isSpelled_readToken htoken

end Latex

namespace Linear

theorem isSpelled_readFree {place : Cursor} {token : Token}
    (h : (readFree place).1 = .ok token) : token.kind.IsSpelled := by
  unfold readFree at h
  split at h
  · exact isSpelled_readNumeral h
  · split at h
    · contradiction
    · next word _ _ hword =>
      have hisWord : isWord (wordAt place.remaining) = true := isWord_wordAt (by simp [hword])
      simp only at h
      split at h <;> cases h <;>
      · change isWord (String.ofList _).toList = true
        rw [String.toList_ofList, ← hword]
        exact hisWord

theorem isSpelled_readToken {M : Type} [PrefixMap M Lexeme] {entries : M} {cursor : Cursor}
    {token : Token} (h : (readToken entries cursor).1 = .ok token) : token.kind.IsSpelled := by
  simp only [readToken] at h
  split at h
  · cases h
    trivial
  · split at h
    case h_5 | h_6 => contradiction
    case h_7 => exact isSpelled_readFree h
    all_goals
      cases h
      trivial

theorem isSpelled_of_gives {text : String} {kinds : List Token.Kind}
    (h : Gives (scanner text) kinds) : ∀ kind ∈ kinds, kind.IsSpelled :=
  Gives.forall (I := fun _ ↦ True) trivial (fun _ _ ↦ trivial)
    (fun _ _ _ htoken ↦ isSpelled_readToken htoken) h

end Linear

end FormulaText
