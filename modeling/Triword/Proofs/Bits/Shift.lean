import Mathlib.Algebra.Ring.Nat
import Triword.Bits

/-!
Vectors moved by one place, and the bit that leaves them, as numbers.
-/

namespace Triword

namespace Bits

variable {n : Nat}

theorem lastBit_eq (x : BitVec n) : x.getLsbD 0 = decide (x.toNat % 2 = 1) :=
  Nat.testBit_zero x.toNat

theorem toNat_lastBit (x : BitVec n) : (x.getLsbD 0).toNat = x.toNat % 2 := by
  rw [lastBit_eq]
  cases Nat.mod_two_eq_zero_or_one x.toNat with
  | inl h => simp [h]
  | inr h => simp [h]

theorem toNat_shiftRight (x : BitVec n) (fill : Bool)
    : (shiftRight x fill).toNat = (fill.toNat * 2 ^ n + x.toNat) / 2 := by
  have hx := x.isLt
  have hlt : (fill.toNat * 2 ^ n + x.toNat) / 2 < 2 ^ n := by
    cases fill <;> simp <;> omega
  unfold shiftRight
  rw [BitVec.extractLsb'_toNat, BitVec.toNat_cons', Nat.shiftRight_eq_div_pow, Nat.shiftLeft_eq, Nat.pow_one]
  exact Nat.mod_eq_of_lt hlt

theorem shiftLeft_false (x : BitVec n) : shiftLeft x false = x <<< 1 := by
  apply BitVec.eq_of_toNat_eq
  unfold shiftLeft
  rw [BitVec.toNat_shiftConcat, BitVec.toNat_shiftLeft, Bool.toNat_false, Nat.add_zero]

theorem shiftRight_false (x : BitVec n) : shiftRight x false = x >>> 1 := by
  apply BitVec.eq_of_toNat_eq
  rw [toNat_shiftRight, BitVec.toNat_ushiftRight, Nat.shiftRight_eq_div_pow, Bool.toNat_false, Nat.zero_mul,
    Nat.zero_add, Nat.pow_one]

theorem shiftRight_msb (x : BitVec n) : shiftRight x x.msb = x.sshiftRight 1 := by
  apply BitVec.eq_of_getLsbD_eq
  intro i hi
  unfold shiftRight
  rw [BitVec.getLsbD_extractLsb', BitVec.getLsbD_cons, BitVec.getLsbD_sshiftRight]
  by_cases htop : 1 + i = n
  . simp [hi, htop]
  . have hinside : 1 + i < n := by omega
    simp [hi, htop, hinside]

theorem toInt_shiftRight_msb (x : BitVec n) : (shiftRight x x.msb).toInt = x.toInt / 2 := by
  rw [shiftRight_msb, BitVec.toInt_sshiftRight, Int.shiftRight_eq_div_pow]
  rfl

end Bits

end Triword
