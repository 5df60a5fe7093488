import Mathlib.Tactic.Ring
import Triword.Proofs.Alu
import Triword.Proofs.Bits.Shift

/-!
Products. The accumulator and the multiplier of Booth's algorithm are one number, which a step halves after it has
added or subtracted the multiplicand at the accumulator. After `k` steps this number is the product with the bits that
have left the multiplier, moved to the top of a word, and the rest of the multiplier beside it; after all of them it
is the exact product.
-/

namespace Triword

namespace Alu

theorem mul_bounds {x y : Int} (hx : Fits x) (hy : Fits y) : -2 ^ 62 ≤ x * y ∧ x * y ≤ 2 ^ 62 := by
  have habs : (x * y).natAbs ≤ 2 ^ 31 * 2 ^ 31 := by
    rw [Int.natAbs_mul]
    unfold Fits at hx hy
    apply Nat.mul_le_mul <;> omega
  omega

theorem toInt_eq_sub (w : Word) : w.toInt = w.toNat - (2 : Int) ^ 32 * w.msb.toInt := by
  rw [BitVec.toInt_eq_msb_cond]
  cases w.msb <;> simp

theorem toInt_msb (w : Word) : w.msb.toInt = w.toNat / 2 ^ 31 := by
  have hw := w.isLt
  rw [BitVec.msb_eq_decide]
  by_cases htop : 2 ^ (32 - 1) ≤ w.toNat
  . rw [decide_eq_true htop, Bool.toInt_true]
    omega
  . rw [decide_eq_false htop, Bool.toInt_false]
    omega

theorem two_mul_toInt (w : Word)
    : (2 : Int) * w.toInt = (w <<< 1).toInt + (2 : Int) ^ 32 * ((w <<< 1).msb.toInt - w.msb.toInt) := by
  have hw := w.isLt
  have hshift : (w <<< 1).toNat = 2 * w.toNat % 2 ^ 32 := by
    rw [BitVec.toNat_shiftLeft, Nat.shiftLeft_eq, Nat.pow_one, Nat.mul_comm]
  rw [toInt_eq_sub, toInt_eq_sub, toInt_msb, toInt_msb, hshift]
  omega

namespace Booth

/-- The accumulator and the multiplier as one number. -/
def value (s : Booth) : Int :=
  2 ^ 32 * s.acc.toInt + s.multiplier.toNat

def digit (s : Booth) : Int :=
  s.last.toInt - (s.multiplier.getLsbD 0).toInt

variable {m : BitVec 33} {s : Booth} {b : Word} {k : Nat}

theorem toInt_accumulate (hm : Fits m.toInt) (hs : Fits s.acc.toInt)
    : (s.accumulate m).toInt = s.acc.toInt + s.digit * m.toInt := by
  -- The guard bit makes room for the sum and for the difference of two numbers that fit into words.
  unfold Fits at hm hs
  unfold accumulate digit
  split
  . next hbit hlast =>
    rw [hbit, hlast, Adder.sum_false, BitVec.toInt_add, Int.bmod_eq_of_le (by omega) (by omega)]
    simp
  . next hbit hlast =>
    have hneg : (-m).toInt = -m.toInt := by
      rw [BitVec.toInt_neg, Int.bmod_eq_of_le (by omega) (by omega)]
    rw [hbit, hlast, Adder.sum_false, Adder.negate_eq_neg, BitVec.toInt_add, hneg,
      Int.bmod_eq_of_le (by omega) (by omega)]
    simp
  . next hends hbegins =>
    cases hbit : s.multiplier.getLsbD 0 <;> cases hlast : s.last
    . simp
    . exact absurd hlast (hends hbit)
    . exact absurd hlast (hbegins hbit)
    . simp

theorem value_step (hm : Fits m.toInt) (hs : Fits s.acc.toInt)
    : (s.step m).value = (s.value + 2 ^ 32 * (s.digit * m.toInt)) / 2 := by
  have hacc := toInt_accumulate hm hs
  -- The bit that leaves the accumulator is what halving it leaves over, and it enters the multiplier at the top.
  have hbit := Bits.toNat_lastBit (s.accumulate m)
  have hmod : (s.accumulate m).toInt % 2 = (s.accumulate m).toNat % 2 := by
    rw [BitVec.toInt_eq_toNat_cond]
    split <;> omega
  unfold value step
  dsimp only
  rw [Bits.toInt_shiftRight_msb, Bits.toNat_shiftRight, hbit]
  omega

/-! ### The bits that have left the multiplier -/

/-- What the register holds after `k` steps: the bits that have left stand at the top of a word, the rest remains. -/
structure Holds (m : BitVec 33) (b : Word) (k : Nat) (s : Booth) : Prop where
  value : s.value = m.toInt * (b <<< (32 - k)).toInt + (b >>> k).toNat
  last : s.last = (b <<< (32 - k)).msb

theorem holds_start (m : BitVec 33) (b : Word) : Holds m b 0 (start b) := by
  have hshift : b <<< (32 - 0) = 0 := by simp
  constructor
  case value =>
    rw [hshift]
    simp [Booth.value, start]
  case last =>
    rw [hshift]
    rfl

theorem fits_acc (hm : Fits m.toInt) (h : Holds m b k s) : Fits s.acc.toInt := by
  have hproduct := mul_bounds hm (fits_toInt (b <<< (32 - k)))
  have hvalue := h.value
  have hrest := (b >>> k).isLt
  have hmultiplier := s.multiplier.isLt
  unfold Booth.value at hvalue
  unfold Fits
  omega

theorem msb_shiftLeft (b : Word) (hk : k < 32) : (b <<< (32 - (k + 1))).msb = b.getLsbD k := by
  have hplace : 32 - 1 - (32 - (k + 1)) = k := by omega
  rw [BitVec.msb_eq_getLsbD_last, BitVec.getLsbD_shiftLeft, hplace]
  simp

theorem shiftLeft_one (b : Word) (hk : k < 32) : b <<< (32 - (k + 1)) <<< 1 = b <<< (32 - k) := by
  rw [← BitVec.shiftLeft_add]
  congr 1
  omega

theorem lastBit_of_holds (hk : k < 32) (h : Holds m b k s) : s.multiplier.getLsbD 0 = b.getLsbD k := by
  have heven := two_mul_toInt (b <<< (32 - (k + 1)))
  have hvalue := h.value
  have hbit := Bits.lastBit_eq (b >>> k)
  rw [shiftLeft_one b hk] at heven
  -- The product so far is even, so only the rest of the multiplier can make the register odd.
  have hhalf : (b <<< (32 - k)).toInt = 2 * ((b <<< (32 - k)).toInt / 2) := by omega
  rw [hhalf, Int.mul_left_comm] at hvalue
  unfold Booth.value at hvalue
  rw [BitVec.getLsbD_ushiftRight, Nat.add_zero] at hbit
  rw [Bits.lastBit_eq, hbit, decide_eq_decide]
  omega

theorem digit_of_holds (hk : k < 32) (h : Holds m b k s)
    : s.digit = (b <<< (32 - k)).msb.toInt - (b <<< (32 - (k + 1))).msb.toInt := by
  unfold digit
  rw [h.last, lastBit_of_holds hk h, msb_shiftLeft b hk]

theorem holds_step (hm : Fits m.toInt) (hk : k < 32) (h : Holds m b k s) : Holds m b (k + 1) (s.step m) := by
  constructor
  case value =>
    have hdouble := two_mul_toInt (b <<< (32 - (k + 1)))
    rw [shiftLeft_one b hk, ← digit_of_holds hk h] at hdouble
    have hsum : m.toInt * (b <<< (32 - k)).toInt + 2 ^ 32 * (s.digit * m.toInt)
        = 2 * (m.toInt * (b <<< (32 - (k + 1))).toInt) := by
      rw [Int.mul_left_comm 2, hdouble]
      ring
    have hrest : (b >>> (k + 1)).toNat = (b >>> k).toNat / 2 := by
      rw [BitVec.toNat_ushiftRight, BitVec.toNat_ushiftRight, Nat.shiftRight_succ]
    rw [value_step hm (fits_acc hm h), h.value, hrest]
    omega
  case last =>
    rw [msb_shiftLeft b hk]
    exact lastBit_of_holds hk h

theorem holds_steps (hm : Fits m.toInt) (b : Word) (hk : k ≤ 32) : Holds m b k (steps m b k) := by
  induction k with
  | zero => exact holds_start m b
  | succ k ih => exact holds_step hm hk (ih (by omega))

end Booth

/-! ### The product -/

theorem fits_signExtend (a : Word) : Fits (a.signExtend 33).toInt := by
  rw [BitVec.toInt_signExtend_of_le (by decide)]
  exact fits_toInt a

theorem value_steps (a b : Word) : (Booth.steps (a.signExtend 33) b 32).value = a.toInt * b.toInt := by
  have h := (Booth.holds_steps (fits_signExtend a) b (Nat.le_refl 32)).value
  have hrest : b >>> 32 = 0#32 := BitVec.ushiftRight_eq_zero (Nat.le_refl 32)
  rw [BitVec.toInt_signExtend_of_le (by decide), hrest] at h
  simpa using h

theorem toInt_high {s : Booth} (hs : Fits s.acc.toInt) : (s.acc.setWidth 32).toInt = s.acc.toInt := by
  have hacc := s.acc.isLt
  have hsigned := BitVec.toInt_eq_toNat_cond s.acc
  unfold Fits at hs
  rw [BitVec.toInt_eq_toNat_cond, BitVec.toNat_setWidth]
  split at hsigned <;> split <;> omega

theorem fits_value_iff {s : Booth} (hs : Fits s.acc.toInt)
    : s.acc.setWidth 32 = BitVec.fill 32 s.multiplier.msb ↔ Fits s.value := by
  have hlow := fits_toInt s.multiplier
  rw [toInt_eq_sub] at hlow
  rw [← BitVec.toInt_inj, toInt_high hs]
  unfold Fits Booth.value at *
  cases hmsb : s.multiplier.msb with
  | false =>
    have hfill : (BitVec.fill 32 false).toInt = 0 := rfl
    rw [hmsb, Bool.toInt_false] at hlow
    rw [hfill]
    omega
  | true =>
    have hfill : (BitVec.fill 32 true).toInt = -1 := rfl
    rw [hmsb, Bool.toInt_true] at hlow
    rw [hfill]
    omega

theorem checks_mul (f : Eflags) (a b : Word) : Checks f (a.toInt * b.toInt) (mul f a b) := by
  have hvalue := value_steps a b
  constructor
  case toYields =>
    apply yields_withResult
    . have hmultiplier := (Booth.steps (a.signExtend 33) b 32).multiplier.isLt
      rw [← hvalue]
      unfold Booth.value
      omega
    . exact ⟨rfl, rfl⟩
  case overflow =>
    have hm := fits_signExtend a
    have hacc := Booth.fits_acc hm (Booth.holds_steps hm b (Nat.le_refl 32))
    rw [Bool.eq_iff_iff, decide_eq_true_iff, ← hvalue, ← fits_value_iff hacc]
    exact bne_iff_ne

theorem toInt_product (a b : Word) : (BitVec.ofInt 64 (a.toInt * b.toInt)).toInt = a.toInt * b.toInt := by
  have hbounds := mul_bounds (fits_toInt a) (fits_toInt b)
  rw [BitVec.toInt_ofInt]
  apply Int.bmod_eq_of_le <;> omega

/--
A product is exact up to multiples of `2 ^ 32`, and its flags describe it; it is exact as a number of two words. The
carry and overflow flags both tell whether it is out of the range of one word. No step makes the accumulator overflow.
-/
theorem product_of_mul (f : Eflags) (a b : Word)
    : Checks f (a.toInt * b.toInt) (mul f a b)
        ∧ (mul f a b).2.carry = (mul f a b).2.overflow
        ∧ (∃ product : BitVec 64, product.toInt = a.toInt * b.toInt ∧ (mul f a b).1 = product.setWidth 32)
        ∧ ∀ k < 32, ((Booth.steps (a.signExtend 33) b k).accumulate (a.signExtend 33)).toInt
          =
        (Booth.steps (a.signExtend 33) b k).acc.toInt + (Booth.steps (a.signExtend 33) b k).digit * a.toInt := by
  have hchecks := checks_mul f a b
  refine ⟨hchecks, rfl, ⟨_, toInt_product a b, ?_⟩, ?_⟩
  . have hword := hchecks.word
    apply BitVec.eq_of_toNat_eq
    rw [BitVec.toNat_setWidth, BitVec.toNat_ofInt]
    omega
  . intro k hk
    have hm := fits_signExtend a
    have hsteps := Booth.holds_steps hm b (Nat.le_of_lt hk)
    rw [Booth.toInt_accumulate hm (Booth.fits_acc hm hsteps), BitVec.toInt_signExtend_of_le (by decide)]

/-- The last step for the square of the least word needs the guard bit, since it subtracts that word from zero. -/
theorem product_of_mul_minimum
    : (mul .clear minimum minimum).1 = 0
        ∧ (mul .clear minimum minimum).2.carry
        ∧ ((Booth.steps (minimum.signExtend 33) minimum 31).accumulate (minimum.signExtend 33)).toInt = 2 ^ 31 := by
  obtain ⟨⟨h, hoverflow⟩, hcarry, -, hsteps⟩ := product_of_mul .clear minimum minimum
  have hlast := hsteps 31 (by decide)
  have hminimum : minimum.toInt = -2 ^ 31 := by decide
  have hstart : (Booth.steps (minimum.signExtend 33) minimum 31).acc = 0
      ∧ (Booth.steps (minimum.signExtend 33) minimum 31).digit = -1 := by
    decide +kernel
  have hword := h.word
  rw [hminimum] at hword hoverflow hlast
  rw [hstart.1, hstart.2] at hlast
  refine ⟨?_, ?_, hlast⟩
  . apply BitVec.eq_of_toNat_eq
    exact Int.ofNat_inj.mp hword
  . rw [hcarry, hoverflow]
    decide

end Alu

end Triword
