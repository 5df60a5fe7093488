import Mathlib.Algebra.Ring.Nat
import Triword.Proofs.Address

/-!
What the adder computes, in numbers. The carry into a place is what the parts below it make beyond that place, so
it is the quotient of their sum; and the sum of the vectors is the remainder of theirs. Two's complements and
distances of addresses are sums of this kind.
-/

namespace Triword

namespace Adder

variable {n : Nat}

theorem toNat_decide_le_add {m x y : Nat} (hx : x < m) (hy : y < m) (carryIn : Bool)
    : (decide (m ≤ x + y + carryIn.toNat)).toNat = (x + y + carryIn.toNat) / m := by
  have hcarry : carryIn.toNat ≤ 1 := carryIn.toNat_le
  by_cases h : m ≤ x + y + carryIn.toNat
  . have hquotient : (x + y + carryIn.toNat) / m = 1 := Nat.div_eq_of_lt_le (by omega) (by omega)
    rw [hquotient, decide_eq_true h]
    rfl
  . have hquotient : (x + y + carryIn.toNat) / m = 0 := Nat.div_eq_of_lt (Nat.lt_of_not_le h)
    rw [hquotient, decide_eq_false h]
    rfl

/-- The carry into a place is the quotient of the sum of what lies below it. -/
theorem toNat_getLsbD_carries (a b : BitVec n) (carryIn : Bool) {k : Nat} (hk : k ≤ n)
    : ((carries a b carryIn).getLsbD k).toNat
        =
      (a.toNat % 2 ^ k + b.toNat % 2 ^ k + carryIn.toNat) / 2 ^ k := by
  have hpos : 0 < 2 ^ k := Nat.two_pow_pos k
  rw [getLsbD_carries a b carryIn hk]
  unfold BitVec.carry
  exact toNat_decide_le_add (Nat.mod_lt _ hpos) (Nat.mod_lt _ hpos) carryIn

theorem toNat_sum (a b : BitVec n) (carryIn : Bool)
    : (sum a b carryIn).toNat = (a.toNat + b.toNat + carryIn.toNat) % 2 ^ n := by
  rw [sum_eq_add, BitVec.toNat_add, BitVec.toNat_add, BitVec.toNat_setWidth, BitVec.toNat_ofBool]
  rw [Nat.mod_add_mod, Nat.add_mod_mod]

theorem toNat_negate (x : BitVec n) : (negate x).toNat = (2 ^ n - x.toNat) % 2 ^ n := by
  rw [negate_eq_neg, BitVec.toNat_neg]

/--
The adder gives the sum modulo `2 ^ n`, and for each place the carry into it, with the carry out at the top. So the
two's complement is the distance to `2 ^ n`, and distances go round the end of an address space.
-/
theorem toNat_sum_and_carries (a b : BitVec n) (carryIn : Bool)
    : (sum a b carryIn).toNat = (a.toNat + b.toNat + carryIn.toNat) % 2 ^ n
        ∧ (∀ k : Fin (n + 1), ((carries a b carryIn).getLsbD k).toNat
          = (a.toNat % 2 ^ k.val + b.toNat % 2 ^ k.val + carryIn.toNat) / 2 ^ k.val)
        ∧ (negate a).toNat = (2 ^ n - a.toNat) % 2 ^ n
        ∧ ∀ (space : Space) (p : Address space) (distance : Word),
          (p.offset distance).toNat = (p.toNat + distance.toNat) % 2 ^ 32 := by
  refine ⟨toNat_sum a b carryIn, ?_, toNat_negate a, ?_⟩
  . intro k
    exact toNat_getLsbD_carries a b carryIn (Nat.le_of_lt_succ k.isLt)
  . intro space p distance
    exact toNat_sum p.word distance false

example : carries 0b0111#4 0b0000#4 true = 0b01111#5 := by decide

end Adder

end Triword
