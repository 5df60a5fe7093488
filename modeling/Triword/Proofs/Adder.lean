import Triword.Adder

/-!
What the adder computes: every carry is the one of the addition in base two, and so the sum is the sum
of bit vectors.
-/

namespace Triword

namespace Adder

variable {n : Nat}

theorem getLsbD_carriesUpTo (a b : BitVec n) (carryIn : Bool) (k : Nat)
    : ∀ (j : Nat), j ≤ k → (carriesUpTo a b carryIn k).getLsbD j = BitVec.carry j a b carryIn := by
  induction k with
  | zero =>
    intro j hj
    have : j = 0 := by omega
    subst this
    simp [carriesUpTo]
  | succ k ih =>
    intro j hj
    unfold carriesUpTo
    rw [BitVec.getLsbD_cons]
    split
    . next heq =>
      subst heq
      have hmsb : (carriesUpTo a b carryIn k).msb = BitVec.carry k a b carryIn := by
        rw [BitVec.msb_eq_getLsbD_last]
        rw [ih]
        . simp
        . simp
      simp only [hmsb, BitVec.carry_succ]
      cases a.getLsbD k <;> cases b.getLsbD k <;> cases BitVec.carry k a b carryIn <;> rfl
    . apply ih
      omega

theorem getLsbD_carries (a b : BitVec n) (carryIn : Bool) {j : Nat} (hj : j ≤ n)
    : (carries a b carryIn).getLsbD j = BitVec.carry j a b carryIn := by
  apply getLsbD_carriesUpTo
  exact hj

theorem sum_eq_add (a b : BitVec n) (carryIn : Bool)
    : sum a b carryIn = a + b + (BitVec.ofBool carryIn).setWidth n := by
  apply BitVec.eq_of_getLsbD_eq
  intro i hi
  rw [BitVec.getLsbD_add_add_bool hi]
  simp [sum, hi, getLsbD_carries a b carryIn (Nat.le_of_lt hi)]

@[simp]
theorem sum_false (a b : BitVec n) : sum a b false = a + b := by
  simp [sum_eq_add]

@[simp]
theorem negate_eq_neg (x : BitVec n) : negate x = -x := by
  unfold negate
  rw [sum_eq_add, BitVec.neg_eq_not_add]
  cases n with
  | zero => exact Subsingleton.elim ..
  | succ n => simp

end Adder

end Triword
