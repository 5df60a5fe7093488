import Triword.Assembly.Encode
import Triword.Proofs.Language.Operands

/-!
Operands in the bundled language as tokens. What a variant captures for an operand is read as a token of
the operand's kind or not at all, so the operand that it becomes is one that the machine can use.
-/

namespace Triword

namespace Assembly

open Regex (Node CharSet)
open Language.Bundled (operandNode optional)

namespace Token

def kind : Token → OperandKind
  | immediate _ => .immediate
  | address _ => .memory
  | register _ | indirect _ => .register
  | label _ => .label

theorem begins_with_sigil {c : Char} {as : List Node} {cs : List Char}
    (h : (Node.cat (optional '*' :: .literal [c] :: as)).Matches cs)
    : ∃ ds, cs = c :: ds ∨ cs = '*' :: c :: ds := by
  obtain ⟨star, cs, rfl, hstar, h⟩ := Node.exists_of_matches_cat_cons h
  obtain ⟨sigil, ds, rfl, hsigil, -⟩ := Node.exists_of_matches_cat_cons h
  rw [Node.eq_of_matches_literal hsigil]
  cases Node.eq_nil_or_matches_of_optional hstar with
  | inl hnil =>
    rw [hnil]
    exact ⟨ds, .inl rfl⟩
  | inr hliteral =>
    rw [Node.eq_of_matches_literal hliteral]
    exact ⟨ds, .inr rfl⟩

theorem exists_readLongest_of_read {text : String} {t : Token} (h : read text = .ok t)
    : ∃ size, readLongest (text.toList.dropWhile isGap) = .ok (t, size) := by
  obtain ⟨⟨token, size⟩, hlongest, h⟩ := Outcome.bind_eq_ok_iff.mp h
  dsimp only at h
  split at h
  . cases h
    exact ⟨size, hlongest⟩
  . obtain ⟨u, -, h⟩ := Outcome.bind_eq_ok_iff.mp h
    cases h

theorem kind_of_dollar {cs : List Char} {t : Token} {size : Nat} (h : readLongest ('$' :: cs) = .ok (t, size))
    : t.kind = .immediate := by
  obtain ⟨token, himmediate, h⟩ := Outcome.bind_eq_ok_iff.mp h
  cases h
  obtain ⟨v, -, h⟩ := Outcome.bind_eq_ok_iff.mp himmediate
  split at h
  . cases h
    rfl
  . cases h

theorem kind_of_at {cs : List Char} {t : Token} {size : Nat} (h : readLongest ('@' :: cs) = .ok (t, size))
    : t.kind = .memory := by
  obtain ⟨token, haddress, h⟩ := Outcome.bind_eq_ok_iff.mp h
  cases h
  obtain ⟨v, -, h⟩ := Outcome.bind_eq_ok_iff.mp haddress
  split at h
  . cases h
    rfl
  . cases h

theorem kind_of_readRegister {make : Register → Token} (hmake : ∀ r, (make r).kind = .register)
    {name : List Char} {t : Token} (h : readRegister make name = .ok t) : t.kind = .register := by
  unfold readRegister at h
  split at h
  . cases h
    exact hmake _
  . cases h

theorem kind_of_percent {cs : List Char} {t : Token} {size : Nat}
    (h : readLongest ('%' :: cs) = .ok (t, size)) : t.kind = .register := by
  obtain ⟨token, hregister, h⟩ := Outcome.bind_eq_ok_iff.mp h
  cases h
  exact kind_of_readRegister (fun r => rfl) hregister

theorem kind_of_star_percent {cs : List Char} {t : Token} {size : Nat}
    (h : readLongest ('*' :: '%' :: cs) = .ok (t, size)) : t.kind = .register := by
  obtain ⟨token, hregister, h⟩ := Outcome.bind_eq_ok_iff.mp h
  cases h
  exact kind_of_readRegister (fun r => rfl) hregister

def isSigil (c : Char) : Bool :=
  c == '*' || c == '$' || c == '@' || c == '%'

theorem kind_of_label {c : Char} {cs : List Char} {t : Token} {size : Nat} (hc : isSigil c = false)
    (h : readLongest (c :: cs) = .ok (t, size)) : t.kind = .label := by
  unfold isSigil at hc
  unfold readLongest at h
  split at h
  case h_7 =>
    split at h
    . cases h
      rfl
    . cases h
  case h_8 => cases h
  -- In all other cases a sigil comes first.
  all_goals simp_all

/-- A text that is written as operands of a kind are is read as a token of that kind. -/
theorem kind_of_read {kind : OperandKind} {text : String} {t : Token}
    (hmatches : (operandNode kind).Matches text.toList) (h : read text = .ok t) : t.kind = kind := by
  obtain ⟨size, h⟩ := exists_readLongest_of_read h
  cases kind with
  | absent =>
    obtain ⟨p, q, ms, ⟨hq, -⟩, hreads⟩ := hmatches
    have hempty : text.toList = [] := hreads.unique hq
    rw [hempty] at h
    cases h
  | immediate =>
    obtain ⟨ds, hds | hds⟩ := begins_with_sigil hmatches
    . rw [hds] at h
      exact kind_of_dollar h
    . rw [hds] at h
      cases h
  | register =>
    obtain ⟨ds, hds | hds⟩ := begins_with_sigil hmatches
    . rw [hds] at h
      exact kind_of_percent h
    . rw [hds] at h
      exact kind_of_star_percent h
  | memory =>
    obtain ⟨ds, hds | hds⟩ := begins_with_sigil hmatches
    . rw [hds] at h
      exact kind_of_at h
    . rw [hds] at h
      cases h
  | label =>
    obtain ⟨cs, ds, hcs, hset, -⟩ := Node.exists_of_matches_cat_cons hmatches
    obtain ⟨c, hc, rfl⟩ := Node.exists_of_matches_set hset
    -- What a label begins with, in either case, is no sigil and no blank.
    have hfree : ['*', '$', '@', '%', ' ', '\t'].all fun d =>
        !(CharSet.ofRanges [(0x5F, 0x5F), (0x61, 0x7A)]).foldCase.contains d := by
      decide +kernel
    have hne : ∀ d ∈ ['*', '$', '@', '%', ' ', '\t'], c ≠ d := by
      rintro d hd rfl
      have hnone := List.all_eq_true.mp hfree c hd
      rw [hc] at hnone
      cases hnone
    have hsigil : isSigil c = false := by
      simp [isSigil, hne]
    have hgap : isGap c = false := by
      simp [isGap, hne]
    rw [hcs, List.cons_append, List.dropWhile_cons, hgap] at h
    exact kind_of_label hsigil h

end Token

end Assembly

end Triword
