import Mathlib.Data.Nat.Digits.Defs
import Triword.Proofs.Adder
import Triword.Proofs.Alu.Result

/-!
Sums and differences of words. Whatever is added, the carry and overflow flags tell whether the exact sum is within
the range of the unsigned and of the signed words; a difference is the sum with the two's complement. Numbers of
many words are added one word after the other, and the carry flag takes the carry from each to the next.
-/

namespace Triword

namespace Alu

/-! ### The adder -/

theorem toNat_addWithCarry (f : Eflags) (a b : Word) (c : Bool)
    : (addWithCarry f a b c).1.toNat = (a.toNat + b.toNat + c.toNat) % 2 ^ 32 := by
  show (Adder.sum a b c).toNat = _
  rw [Adder.sum_eq_add]
  cases c <;> simp

theorem carry_addWithCarry (f : Eflags) (a b : Word) (c : Bool)
    : (addWithCarry f a b c).2.carry = decide (2 ^ 32 ≤ a.toNat + b.toNat + c.toNat) := by
  show (Adder.carries a b c).getLsbD 32 = _
  rw [Adder.getLsbD_carries a b c (Nat.le_refl 32)]
  unfold BitVec.carry
  rw [Nat.mod_eq_of_lt a.isLt, Nat.mod_eq_of_lt b.isLt]

theorem toNat_add_carry (f : Eflags) (a b : Word) (c : Bool)
    : (addWithCarry f a b c).1.toNat + 2 ^ 32 * (addWithCarry f a b c).2.carry.toNat
        =
      a.toNat + b.toNat + c.toNat := by
  have ha := a.isLt
  have hb := b.isLt
  have hc := c.toNat_le
  rw [toNat_addWithCarry, carry_addWithCarry]
  by_cases hout : 2 ^ 32 ≤ a.toNat + b.toNat + c.toNat
  . rw [decide_eq_true hout, Bool.toNat_true]
    omega
  . rw [decide_eq_false hout, Bool.toNat_false]
    omega

/-- The carries into and out of the top place differ exactly if the signed sum is out of range. -/
theorem overflow_addWithCarry (f : Eflags) (a b : Word) (c : Bool)
    : (addWithCarry f a b c).2.overflow = decide ¬Fits (a.toInt + b.toInt + c.toNat) := by
  have ha := a.isLt
  have hb := b.isLt
  have hc := c.toNat_le
  have hin : (Adder.carries a b c).getLsbD 31
      = decide (2 ^ 31 ≤ a.toNat % 2 ^ 31 + b.toNat % 2 ^ 31 + c.toNat) := by
    rw [Adder.getLsbD_carries a b c (by omega)]
    rfl
  show ((addWithCarry f a b c).2.carry ^^ (Adder.carries a b c).getLsbD 31) = _
  rw [carry_addWithCarry, hin, Bool.eq_iff_iff, bne_iff_ne, ne_eq, decide_eq_decide, decide_eq_true_iff]
  unfold Fits
  rw [BitVec.toInt_eq_toNat_cond, BitVec.toInt_eq_toNat_cond]
  split <;> split <;> omega

theorem checks_addWithCarry (f : Eflags) (a b : Word) (c : Bool)
    : Checks f (a.toInt + b.toInt + c.toNat) (addWithCarry f a b c) := by
  constructor
  case toYields =>
    apply yields_withResult
    . have ha := toInt_emod a
      have hb := toInt_emod b
      have hsum := toNat_addWithCarry f a b c
      change (Adder.sum a b c).toNat = _ at hsum
      rw [hsum]
      omega
    . exact ⟨rfl, rfl⟩
  case overflow => exact overflow_addWithCarry f a b c

theorem checks_add (f : Eflags) (a b : Word) : Checks f (a.toInt + b.toInt) (add f a b) := by
  have h := checks_addWithCarry f a b false
  rw [Bool.toNat_false, Int.natCast_zero, Int.add_zero] at h
  exact h

/-! ### Differences -/

theorem yields_addWithCarry_negate (f : Eflags) (a b : Word) (c : Bool)
    : Yields f (a.toInt - b.toInt + c.toNat) (addWithCarry f a (Adder.negate b) c) := by
  have hb := toInt_emod b
  have hneg := toInt_emod (-b)
  rw [BitVec.toNat_neg] at hneg
  rw [Adder.negate_eq_neg]
  apply (checks_addWithCarry f a (-b) c).congr
  omega

theorem yields_sub (f : Eflags) (a b : Word) : Yields f (a.toInt - b.toInt) (sub f a b) := by
  have h := yields_addWithCarry_negate f a b false
  rw [Bool.toNat_false, Int.natCast_zero, Int.add_zero] at h
  exact h

/-- Nothing is carried out of a difference with zero, which adds zero. -/
theorem carry_sub (f : Eflags) (a b : Word) : (sub f a b).2.carry = decide (b ≠ 0 ∧ b.toNat ≤ a.toNat) := by
  have ha := a.isLt
  have hb := b.isLt
  have hzero : b ≠ 0 ↔ b.toNat ≠ 0 := BitVec.toNat_ne_iff_ne.symm
  unfold sub
  rw [carry_addWithCarry, Adder.negate_eq_neg, BitVec.toNat_neg, Bool.toNat_false, decide_eq_decide, hzero]
  omega

/-! ### Operations with one operand -/

theorem toInt_not (a : Word) : (~~~a).toInt = -a.toInt - 1 := by
  have ha := fits_toInt a
  have hnot := fits_toInt (~~~a)
  have hmod := toInt_emod a
  have hmod' := toInt_emod (~~~a)
  have hlt := a.isLt
  rw [BitVec.toNat_not] at hmod'
  unfold Fits at ha hnot
  omega

theorem checks_neg (f : Eflags) (a : Word) : Checks f (-a.toInt) (neg f a) := by
  have h := checks_add f (~~~a) 1
  have hone : (1 : Word).toInt = 1 := by decide
  rw [toInt_not, hone, Int.sub_add_cancel] at h
  exact h

variable {f : Eflags} {v : Int} {r : Flagged Word}

theorem Checks.keepingCarry (h : Checks f v r) : Checks f v (Alu.keepingCarry f r) :=
  { h with }

theorem checks_inc (f : Eflags) (a : Word) : Checks f (a.toInt + 1) (inc f a) := by
  have h := checks_add f a 1
  have hone : (1 : Word).toInt = 1 := by decide
  rw [hone] at h
  exact h.keepingCarry

/-- One is not the least word, so its two's complement is its negation. -/
theorem checks_dec (f : Eflags) (a : Word) : Checks f (a.toInt - 1) (dec f a) := by
  have h := checks_add f a (Adder.negate 1)
  have hone : (Adder.negate (1 : Word)).toInt = -1 := by
    rw [Adder.negate_eq_neg]
    decide
  rw [hone] at h
  exact h.keepingCarry

/--
What is added and subtracted is the exact result up to multiples of `2 ^ 32`, and the zero, sign and parity flags
describe it. The carry flag of a sum is the carry out of the unsigned words, and that of a difference is set if the
unsigned words leave no borrow and something is subtracted. But for differences the overflow flag tells whether the
exact result is out of range.
-/
theorem sums_and_differences (f : Eflags) (a b : Word)
    : Checks f (a.toInt + b.toInt) (add f a b)
        ∧ Checks f (a.toInt + b.toInt + f.carry.toNat) (adc f a b)
        ∧ Yields f (a.toInt - b.toInt) (sub f a b)
        ∧ Yields f (a.toInt - b.toInt + f.carry.toNat) (sbb f a b)
        ∧ Checks f (-a.toInt) (neg f a)
        ∧ Checks f (a.toInt + 1) (inc f a)
        ∧ Checks f (a.toInt - 1) (dec f a)
        ∧ (add f a b).2.carry = decide (2 ^ 32 ≤ a.toNat + b.toNat)
        ∧ (adc f a b).2.carry = decide (2 ^ 32 ≤ a.toNat + b.toNat + f.carry.toNat)
        ∧ (sub f a b).2.carry = decide (b ≠ 0 ∧ b.toNat ≤ a.toNat)
        ∧ (inc f a).2.carry = f.carry
        ∧ (dec f a).2.carry = f.carry := by
  refine ⟨checks_add f a b, checks_addWithCarry f a b f.carry, yields_sub f a b,
    yields_addWithCarry_negate f a b f.carry, checks_neg f a, checks_inc f a, checks_dec f a, ?_, ?_, carry_sub f a b,
    rfl, rfl⟩
  . exact carry_addWithCarry f a b false
  . exact carry_addWithCarry f a b f.carry

/-! ### Numbers of many words -/

def adcWords (f : Eflags) : List (Word × Word) → Flagged (List Word)
  | [] => ([], f)
  | (a, b) :: pairs =>
    let sum := adc f a b
    let sums := adcWords sum.2 pairs
    (sum.1 :: sums.1, sums.2)

/-- Adds two numbers word by word from the least significant words on, the first of which take no carry. -/
def addWords (f : Eflags) : List (Word × Word) → Flagged (List Word)
  | [] => ([], f)
  | (a, b) :: pairs =>
    let sum := add f a b
    let sums := adcWords sum.2 pairs
    (sum.1 :: sums.1, sums.2)

def ofWords (words : List Word) : Nat :=
  Nat.ofDigits (2 ^ 32) (words.map BitVec.toNat)

theorem ofWords_cons (w : Word) (words : List Word) : ofWords (w :: words) = w.toNat + 2 ^ 32 * ofWords words :=
  Nat.ofDigits_cons

theorem length_adcWords (f : Eflags) (pairs : List (Word × Word)) : (adcWords f pairs).1.length = pairs.length := by
  induction pairs generalizing f with
  | nil => rfl
  | cons pair pairs ih =>
    unfold adcWords
    dsimp only
    rw [List.length_cons, List.length_cons, ih]

theorem ofWords_lt (words : List Word) : ofWords words < 2 ^ (32 * words.length) := by
  induction words with
  | nil => decide
  | cons w words ih =>
    have hw := w.isLt
    rw [ofWords_cons, List.length_cons, Nat.mul_succ, Nat.pow_add]
    omega

/-- However many words are added, the carry that is left has the weight of the next one. -/
theorem ofWords_adcWords (f : Eflags) (pairs : List (Word × Word))
    : ofWords (adcWords f pairs).1 + 2 ^ (32 * pairs.length) * (adcWords f pairs).2.carry.toNat
        =
      ofWords (pairs.map Prod.fst) + ofWords (pairs.map Prod.snd) + f.carry.toNat := by
  induction pairs generalizing f with
  | nil => simp [adcWords, ofWords]
  | cons pair pairs ih =>
    obtain ⟨a, b⟩ := pair
    have hsum := toNat_add_carry f a b f.carry
    -- The other words start from the flags that the sum of the first ones leaves.
    have hsums := ih (adc f a b).2
    have hpow : 2 ^ (32 * (pairs.length + 1)) = 2 ^ 32 * 2 ^ (32 * pairs.length) := by
      rw [Nat.mul_succ, Nat.pow_add, Nat.mul_comm]
    unfold adcWords
    simp only [List.map_cons, List.length_cons, ofWords_cons, hpow, Nat.mul_assoc]
    change (adc f a b).1.toNat + 2 ^ 32 * (adc f a b).2.carry.toNat = _ at hsum
    omega

theorem addWords_eq_adcWords (f : Eflags) {pairs : List (Word × Word)} (h : pairs ≠ [])
    : addWords f pairs = adcWords { f with carry := false } pairs := by
  cases pairs with
  | nil => exact absurd rfl h
  | cons pair pairs => rfl

/--
Adding two numbers of `n` words gives the `n` words of their sum up to multiples of `2 ^ (32 * n)`, and the carry
flag is the carry out of the whole sum, whatever the flags were before.
-/
theorem ofWords_addWords (f : Eflags) {n : Nat} {xs ys : List Word} (hn : 1 ≤ n) (hxs : xs.length = n)
    (hys : ys.length = n)
    : (addWords f (xs.zip ys)).1.length = n
        ∧ ofWords (addWords f (xs.zip ys)).1 = (ofWords xs + ofWords ys) % 2 ^ (32 * n)
        ∧ (addWords f (xs.zip ys)).2.carry = decide (2 ^ (32 * n) ≤ ofWords xs + ofWords ys) := by
  have hlength : (xs.zip ys).length = n := by
    rw [List.length_zip, hxs, hys, Nat.min_self]
  have hne : xs.zip ys ≠ [] := by
    apply List.ne_nil_of_length_pos
    omega
  rw [addWords_eq_adcWords f hne]
  have hwords := (length_adcWords { f with carry := false } (xs.zip ys)).trans hlength
  have hlt := ofWords_lt (adcWords { f with carry := false } (xs.zip ys)).1
  have hvalue := ofWords_adcWords { f with carry := false } (xs.zip ys)
  rw [hwords] at hlt
  rw [hlength, List.map_fst_zip (by omega), List.map_snd_zip (by omega), Bool.toNat_false, Nat.add_zero] at hvalue
  refine ⟨hwords, ?_, ?_⟩
  . rw [← hvalue, Nat.add_mul_mod_self_left, Nat.mod_eq_of_lt hlt]
  . rw [← hvalue]
    cases (adcWords { f with carry := false } (xs.zip ys)).2.carry with
    | false => simp [hlt]
    | true => simp

/-- A carry goes through three words and out of the last, and one that was left before is not added. -/
theorem ofWords_addWords_carried
    : let sums := addWords { Eflags.clear with carry := true }
        ([0xFFFFFFFF, 0xFFFFFFFF, 0x7FFFFFFF].zip [1, 0, 0x80000000])
      sums.1.length = 3 ∧ ofWords sums.1 = 0 ∧ sums.2.carry := by
  have hxs : [0xFFFFFFFF, 0xFFFFFFFF, (0x7FFFFFFF : Word)].length = 3 := rfl
  have hys : [1, 0, (0x80000000 : Word)].length = 3 := rfl
  obtain ⟨hlength, hvalue, hcarry⟩ :=
    ofWords_addWords { Eflags.clear with carry := true } (by decide) hxs hys
  refine ⟨hlength, hvalue.trans ?_, hcarry.trans ?_⟩
  . decide
  . decide

end Alu

end Triword
