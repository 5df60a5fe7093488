import Triword.Proofs.Alu.Sum

/-!
What the flags of a sum and of a comparison tell about signed integers. The sign and overflow flags of
a sum differ exactly if the sum of the integers is negative. A comparison adds the two's complement of
the subtrahend, which stands for its negation unless it is the least word.
-/

namespace Triword

namespace Alu

def minimum : Word := BitVec.intMin 32

theorem overflow_bne_sign_add (f : Eflags) (a b : Word)
    : ((add f a b).2.overflow != (add f a b).2.sign) = decide (a.toInt + b.toInt < 0) := by
  have h := checks_add f a b
  have ha := fits_toInt a
  have hb := fits_toInt b
  have hsum := fits_toInt (add f a b).1
  have hmod := toInt_emod (add f a b).1
  rw [h.word] at hmod
  rw [h.overflow, h.sign, Bool.eq_iff_iff, bne_iff_ne, ne_eq, decide_eq_decide, decide_eq_true_iff]
  unfold Fits at *
  omega

theorem cmp_eq_add (f : Eflags) (a b : Word) : cmp f a b = (add f a (-b)).2 := by
  unfold cmp sub add
  rw [Adder.negate_eq_neg]

theorem zero_cmp (f : Eflags) (a b : Word) : (cmp f a b).zero = decide (a = b) := by
  rw [cmp_eq_add]
  show (Adder.sum a (-b) false == 0#32) = decide (a = b)
  rw [Adder.sum_false, Bool.eq_iff_iff, beq_iff_eq, decide_eq_true_iff]
  constructor
  . intro h
    bv_omega
  . intro h
    rw [h]
    exact BitVec.add_right_neg b

theorem toInt_neg_of_ne {b : Word} (hb : b ≠ minimum) : (-b).toInt = -b.toInt := by
  apply BitVec.toInt_neg_of_ne_intMin
  exact hb

theorem overflow_bne_sign_cmp (f : Eflags) (a : Word) {b : Word} (hb : b ≠ minimum)
    : ((cmp f a b).overflow != (cmp f a b).sign) = decide (a.toInt < b.toInt) := by
  rw [cmp_eq_add, overflow_bne_sign_add, toInt_neg_of_ne hb]
  apply decide_eq_decide.mpr
  omega

/-- Every word passes for less than the least one, which is added and not subtracted. -/
theorem overflow_bne_sign_cmp_minimum (f : Eflags) (a : Word)
    : ((cmp f a minimum).overflow != (cmp f a minimum).sign) = true := by
  rw [cmp_eq_add, overflow_bne_sign_add]
  have hneg : (-minimum).toInt = -2 ^ 31 := by decide
  have ha := a.toInt_lt
  rw [hneg]
  apply decide_eq_true
  omega

end Alu

end Triword
