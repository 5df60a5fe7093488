import Triword.Proofs.Alu
import Triword.Proofs.Alu.Result

/-!
Quotients. After `k` steps of a restoring division, the quotient and the remainder are those of the first `k` bits of
the dividend. The signs of the operands are put aside before and taken up after the division, which rounds towards
zero in this way.
-/

namespace Triword

namespace Alu

namespace Restoring

variable {n : Word} {d : BitVec 33} {k : Nat} {r : Restoring}

/-- The quotient and the remainder of the first `k` bits of a dividend. -/
structure Divides (n : Word) (d : BitVec 33) (k : Nat) (r : Restoring) : Prop where
  dividend : n.toNat / 2 ^ (32 - k) = r.quotient.toNat * d.toNat + r.remainder.toNat
  remainder_lt : r.remainder.toNat < d.toNat

theorem divides_start (n : Word) (hd : 0 < d.toNat) : Divides n d 0 ⟨0, 0⟩ := by
  constructor
  case dividend => simpa using n.isLt
  case remainder_lt => exact hd

theorem toNat_div_succ (n : Word) (hk : k < 32)
    : n.toNat / 2 ^ (32 - (k + 1)) = n.toNat / 2 ^ (32 - k) * 2 + (n.getMsbD k).toNat := by
  have hplace : 32 - k = 32 - (k + 1) + 1 := by omega
  have hplace' : 32 - 1 - k = 32 - (k + 1) := by omega
  have hbit : (n.getMsbD k).toNat = n.toNat / 2 ^ (32 - (k + 1)) % 2 := by
    rw [BitVec.getMsbD_eq_getLsbD, decide_eq_true hk, Bool.true_and, hplace']
    exact (Nat.toNat_testBit _ _)
  rw [hbit, hplace, Nat.pow_succ, ← Nat.div_div_eq_div_mul]
  omega

/-- The carry out of the sum with the two's complement tells whether the divisor fits. -/
theorem carry_negate (r d : BitVec 33) (hd : 0 < d.toNat)
    : (Adder.carries r (Adder.negate d) false).msb = decide (d.toNat ≤ r.toNat) := by
  have hr := r.isLt
  have hd' := d.isLt
  rw [BitVec.msb_eq_getLsbD_last, Adder.getLsbD_carries _ _ _ (Nat.le_refl 33)]
  unfold BitVec.carry
  rw [Adder.negate_eq_neg, BitVec.toNat_neg, Bool.toNat_false, decide_eq_decide]
  omega

theorem quotient_lt (hk : k < 32) (h : Divides n d k r) : r.quotient.toNat < 2 ^ 31 := by
  have hn := n.isLt
  have hpos : 0 < d.toNat := Nat.zero_lt_of_lt h.remainder_lt
  have hpow : 2 ^ 1 ≤ 2 ^ (32 - k) := Nat.pow_le_pow_right (by decide) (by omega)
  calc
    r.quotient.toNat ≤ r.quotient.toNat * d.toNat := Nat.le_mul_of_pos_right _ hpos
    _ ≤ n.toNat / 2 ^ (32 - k) := by rw [h.dividend]; exact Nat.le_add_right _ _
    _ ≤ n.toNat / 2 ^ 1 := Nat.div_le_div_left hpow (by decide)
    _ < 2 ^ 31 := by omega

theorem divides_step (hd : d.toNat ≤ 2 ^ 31) (hk : k < 32) (h : Divides n d k r)
    : Divides n d (k + 1) (r.step d (n.getMsbD k)) := by
  have hlt := h.remainder_lt
  have hpos : 0 < d.toNat := Nat.zero_lt_of_lt hlt
  have hbit := (n.getMsbD k).toNat_le
  -- Twice a remainder that is less than the divisor takes the guard bit, but no more.
  have hremainder : (Bits.shiftLeft r.remainder (n.getMsbD k)).toNat
      = r.remainder.toNat * 2 + (n.getMsbD k).toNat := by
    apply BitVec.toNat_shiftConcat_eq_of_lt (show 32 < 33 by decide)
    omega
  have hquotient (fits : Bool) : (Bits.shiftLeft r.quotient fits).toNat = r.quotient.toNat * 2 + fits.toNat := by
    apply BitVec.toNat_shiftConcat_eq_of_lt (show 31 < 32 by decide)
    exact quotient_lt hk h
  have hdividend : n.toNat / 2 ^ (32 - (k + 1))
      = r.quotient.toNat * 2 * d.toNat + (Bits.shiftLeft r.remainder (n.getMsbD k)).toNat := by
    rw [toNat_div_succ n hk, h.dividend, hremainder, Nat.mul_right_comm]
    omega
  unfold step
  dsimp only
  rw [carry_negate _ _ hpos]
  by_cases hfits : d.toNat ≤ (Bits.shiftLeft r.remainder (n.getMsbD k)).toNat
  . have hrest : (Adder.sum (Bits.shiftLeft r.remainder (n.getMsbD k)) (Adder.negate d) false).toNat
        = (Bits.shiftLeft r.remainder (n.getMsbD k)).toNat - d.toNat := by
      rw [Adder.sum_false, Adder.negate_eq_neg, BitVec.add_neg_eq_sub, BitVec.toNat_sub_of_le hfits]
    rw [decide_eq_true hfits, if_pos rfl]
    constructor
    case dividend =>
      rw [hdividend, hquotient, hrest, Bool.toNat_true, Nat.add_mul, Nat.one_mul]
      omega
    case remainder_lt =>
      rw [hrest, hremainder]
      omega
  . rw [decide_eq_false hfits, if_neg Bool.false_ne_true]
    constructor
    case dividend => rw [hdividend, hquotient, Bool.toNat_false, Nat.add_zero]
    case remainder_lt => exact Nat.lt_of_not_le hfits

theorem divides_steps (n : Word) (hpos : 0 < d.toNat) (hd : d.toNat ≤ 2 ^ 31) (hk : k ≤ 32)
    : Divides n d k (steps n d k) := by
  induction k with
  | zero => exact divides_start n hpos
  | succ k ih => exact divides_step hd hk (ih (by omega))

theorem steps_eq (n : Word) {d : Word} (hpos : 0 < d) (hd : d.toNat ≤ 2 ^ 31)
    : (steps n (d.setWidth 33) 32).quotient = n / d
        ∧ (steps n (d.setWidth 33) 32).remainder.setWidth 32 = n % d := by
  have hwidth : (d.setWidth 33).toNat = d.toNat := BitVec.toNat_setWidth_of_le (by decide)
  rw [← hwidth] at hd
  have h : Divides n (d.setWidth 33) 32 (steps n (d.setWidth 33) 32) := by
    apply divides_steps n ?_ hd (Nat.le_refl 32)
    rw [hwidth]
    exact hpos
  have hdividend := h.dividend
  have hlt := h.remainder_lt
  rw [hwidth, Nat.sub_self, Nat.pow_zero, Nat.div_one, Nat.mul_comm] at hdividend
  rw [hwidth] at hd hlt
  have hremainder : ((steps n (d.setWidth 33) 32).remainder.setWidth 32).toNat
      = (steps n (d.setWidth 33) 32).remainder.toNat := by
    rw [BitVec.toNat_setWidth]
    omega
  rw [← hremainder] at hdividend hlt
  exact ⟨(BitVec.udiv_eq_of_mul_add_toNat hpos hlt hdividend.symm).symm,
    (BitVec.umod_eq_of_mul_add_toNat hlt hdividend.symm).symm⟩

end Restoring

theorem magnitude_pos {w : Word} (hw : w ≠ 0#32) : 0 < magnitude w := by
  unfold magnitude
  rw [Adder.negate_eq_neg]
  split <;> bv_omega

theorem toNat_magnitude_le (w : Word) : (magnitude w).toNat ≤ 2 ^ 31 := by
  have hw := w.isLt
  unfold magnitude
  rw [Adder.negate_eq_neg]
  split
  . next hmsb =>
    rw [BitVec.msb_eq_decide, decide_eq_true_iff] at hmsb
    rw [BitVec.toNat_neg]
    omega
  . next hmsb =>
    rw [BitVec.msb_eq_decide, decide_eq_true_iff] at hmsb
    omega

theorem div_eq (f : Eflags) (a : Word) {b : Word} (hb : b ≠ 0#32)
    : div f a b = some ((a.sdiv b, a.srem b), withResult f (a.sdiv b)) := by
  obtain ⟨hquotient, hremainder⟩ := Restoring.steps_eq (magnitude a) (magnitude_pos hb) (toNat_magnitude_le b)
  unfold div
  rw [if_neg hb]
  dsimp only
  rw [hquotient, hremainder, BitVec.sdiv_eq, BitVec.srem_eq]
  unfold magnitude
  simp only [Adder.negate_eq_neg]
  cases a.msb <;> cases b.msb <;> rfl

theorem div_eq_none_iff (f : Eflags) (a b : Word) : div f a b = none ↔ b = 0#32 := by
  constructor
  . intro h
    by_cases hb : b = 0#32
    . exact hb
    . rw [div_eq f a hb] at h
      cases h
  . intro hb
    unfold div
    rw [if_pos hb]

theorem yields_withResult_sdiv (f : Eflags) (a b : Word)
    : Yields f (a.toInt.tdiv b.toInt) (a.sdiv b, withResult f (a.sdiv b)) := by
  refine yields_withResult ?_ (.refl f)
  rw [← toInt_emod, BitVec.toInt_sdiv]
  exact Int.bmod_emod

/-- The least word has no negation, and so the quotient of its division by minus one has no word. -/
theorem toInt_sdiv_iff (a b : Word)
    : (a.sdiv b).toInt = a.toInt.tdiv b.toInt ↔ ¬(a = minimum ∧ b = -1) := by
  constructor
  . rintro h ⟨rfl, rfl⟩
    exact absurd h (by decide)
  . intro h
    apply BitVec.toInt_sdiv_of_ne_or_ne
    rw [not_and_or] at h
    exact h

theorem toInt_eq_sdiv_mul_add_srem_iff (a b : Word)
    : a.toInt = (a.sdiv b).toInt * b.toInt + (a.srem b).toInt ↔ ¬(a = minimum ∧ b = -1) := by
  constructor
  . rintro h ⟨rfl, rfl⟩
    exact absurd h (by decide)
  . intro h
    rw [(toInt_sdiv_iff a b).mpr h, BitVec.toInt_srem, Int.tdiv_mul_add_tmod]

theorem natAbs_srem_lt (a : Word) {b : Word} (hb : b ≠ 0#32) : (a.srem b).toInt.natAbs < b.toInt.natAbs := by
  have hzero : b.toInt ≠ 0 := by
    intro h
    exact hb (BitVec.eq_of_toInt_eq (h.trans BitVec.toInt_zero.symm))
  rw [BitVec.toInt_srem, Int.natAbs_tmod]
  apply Nat.mod_lt
  omega

theorem sign_srem (a b : Word) : a.srem b = 0 ∨ (a.srem b).toInt.sign = a.toInt.sign := by
  have hsign := Int.sign_tmod a.toInt b.toInt
  rw [← BitVec.toInt_srem] at hsign
  split at hsign
  . next hdvd =>
    apply Or.inl
    apply BitVec.eq_of_toInt_eq
    exact Int.sign_eq_zero_iff_zero.mp hsign
  . exact .inr hsign

end Alu

end Triword
