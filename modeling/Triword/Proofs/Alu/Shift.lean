import Triword.Proofs.Alu.Result
import Triword.Proofs.Bits.Shift

/-!
Shifts. A step moves a word by one place, so `k` steps move it by `k` places, and the bit that the last of them has
taken out is the one that stood `k` places from the end. Moved to the left a word is multiplied by a power of two, and
moved to the right it is divided by one and rounded down.
-/

namespace Triword

namespace Alu

theorem shiftCount_eq (count : Word) : shiftCount count = count.toNat % 32 := by
  unfold shiftCount Bits.field
  rw [BitVec.extractLsb'_toNat, Nat.shiftRight_zero]

namespace Shifted

variable {step : Word → Shifted} {move : Nat → Word} {w : Word} {k : Nat}

theorem word_steps (hzero : move 0 = w) (hstep : ∀ k, (step (move k)).word = move (k + 1)) (k : Nat)
    : (steps step w k).word = move k := by
  induction k with
  | zero => exact hzero.symm
  | succ k ih =>
    show (step (steps step w k).word).word = move (k + 1)
    rw [ih]
    exact hstep k

theorem out_steps (hzero : move 0 = w) (hstep : ∀ k, (step (move k)).word = move (k + 1)) (k : Nat)
    : (steps step w (k + 1)).out = (step (move k)).out := by
  show (step (steps step w k).word).out = (step (move k)).out
  rw [word_steps hzero hstep]

end Shifted

theorem word_shlStep (w : Word) (k : Nat) : (shlStep (w <<< k)).word = w <<< (k + 1) := by
  show Bits.shiftLeft (w <<< k) false = w <<< (k + 1)
  rw [Bits.shiftLeft_false, BitVec.shiftLeft_add]

theorem word_shrStep (w : Word) (k : Nat) : (shrStep (w >>> k)).word = w >>> (k + 1) := by
  show Bits.shiftRight (w >>> k) false = w >>> (k + 1)
  rw [Bits.shiftRight_false, BitVec.shiftRight_add]

theorem word_sarStep (w : Word) (k : Nat) : (sarStep (w.sshiftRight k)).word = w.sshiftRight (k + 1) := by
  show Bits.shiftRight (w.sshiftRight k) (w.sshiftRight k).msb = w.sshiftRight (k + 1)
  rw [Bits.shiftRight_msb, BitVec.sshiftRight_add]

theorem out_shlSteps (w : Word) {k : Nat} (hpos : 0 < k) (hk : k < 32)
    : (Shifted.steps shlStep w k).out = w.getLsbD (32 - k) := by
  obtain ⟨k, rfl⟩ := Nat.exists_eq_add_one_of_ne_zero (Nat.ne_of_gt hpos)
  have hplace : 32 - 1 - k = 32 - (k + 1) := by omega
  have hinside : k < 32 := by omega
  rw [Shifted.out_steps (BitVec.shiftLeft_zero w) (word_shlStep w)]
  show (w <<< k).msb = _
  rw [BitVec.msb_shiftLeft, BitVec.getMsbD_eq_getLsbD, hplace, decide_eq_true hinside, Bool.true_and]

theorem out_shrSteps (w : Word) {k : Nat} (hpos : 0 < k)
    : (Shifted.steps shrStep w k).out = w.getLsbD (k - 1) := by
  obtain ⟨k, rfl⟩ := Nat.exists_eq_add_one_of_ne_zero (Nat.ne_of_gt hpos)
  rw [Shifted.out_steps (BitVec.ushiftRight_zero w) (word_shrStep w)]
  show (w >>> k).getLsbD 0 = _
  rw [BitVec.getLsbD_ushiftRight]
  rfl

theorem out_sarSteps (w : Word) {k : Nat} (hpos : 0 < k) (hk : k < 32)
    : (Shifted.steps sarStep w k).out = w.getLsbD (k - 1) := by
  obtain ⟨k, rfl⟩ := Nat.exists_eq_add_one_of_ne_zero (Nat.ne_of_gt hpos)
  have hinside : k + 0 < 32 := by omega
  rw [Shifted.out_steps BitVec.sshiftRight_zero (word_sarStep w)]
  show (w.sshiftRight k).getLsbD 0 = _
  rw [BitVec.getLsbD_sshiftRight, if_pos hinside]
  rfl

/--
The result of a shift by `c` places and its flags: `v` is the exact result up to multiples of `2 ^ 32`, `bit` the one
that left last, and `top` what the overflow flag is after a shift by one place.
-/
structure Shifts (f : Eflags) (c : Nat) (v : Int) (bit top : Bool) (r : Flagged Word) : Prop extends Yields f v r where
  carry : r.2.carry = bit
  overflow : r.2.overflow = if c = 1 then top else f.overflow

section Shift

variable (f : Eflags) (a : Word) {c : Nat} (step : Word → Shifted) (overflow : Shifted → Bool)

theorem word_shift (hc : 0 < c) : (shift f a c step overflow).1 = (Shifted.steps step a c).word := by
  unfold shift
  rw [if_neg (Nat.ne_of_gt hc)]

theorem shifts_shift {v : Int} (hc : 0 < c) (hv : ((Shifted.steps step a c).word.toNat : Int) = v % 2 ^ 32)
    : Shifts f c v (Shifted.steps step a c).out (overflow (Shifted.steps step a c)) (shift f a c step overflow) := by
  unfold shift
  rw [if_neg (Nat.ne_of_gt hc)]
  constructor
  case toYields => exact yields_withResult hv ⟨rfl, rfl⟩
  case carry => rfl
  case overflow => rfl

end Shift

theorem toNat_shlSteps (w : Word) (k : Nat) : (Shifted.steps shlStep w k).word.toNat = w.toNat * 2 ^ k % 2 ^ 32 := by
  rw [Shifted.word_steps (BitVec.shiftLeft_zero w) (word_shlStep w), BitVec.toNat_shiftLeft, Nat.shiftLeft_eq]

theorem toNat_shrSteps (w : Word) (k : Nat) : (Shifted.steps shrStep w k).word.toNat = w.toNat / 2 ^ k := by
  rw [Shifted.word_steps (BitVec.ushiftRight_zero w) (word_shrStep w), BitVec.toNat_ushiftRight,
    Nat.shiftRight_eq_div_pow]

theorem toInt_sarSteps (w : Word) (k : Nat) : (Shifted.steps sarStep w k).word.toInt = w.toInt / 2 ^ k := by
  rw [Shifted.word_steps BitVec.sshiftRight_zero (word_sarStep w), BitVec.toInt_sshiftRight,
    Int.shiftRight_eq_div_pow, Int.natCast_pow]
  rfl

variable {count : Word} {c : Nat}

theorem shifts_shl (f : Eflags) (a : Word) (hcount : count.toNat % 32 = c) (hc : 0 < c)
    : (shl f a count).1.toNat = a.toNat * 2 ^ c % 2 ^ 32
        ∧ Shifts f c (a.toNat * 2 ^ c) (a.getLsbD (32 - c)) ((shl f a count).1.msb ^^ a.getLsbD (32 - c))
          (shl f a count) := by
  have hlt : c < 32 := by omega
  have hword := word_shift f a shlStep (fun s => s.word.msb ^^ s.out) hc
  unfold shl
  rw [shiftCount_eq, hcount, hword, ← out_shlSteps a hc hlt]
  refine ⟨toNat_shlSteps a c, shifts_shift f a shlStep (fun s => s.word.msb ^^ s.out) hc ?_⟩
  rw [toNat_shlSteps]
  push_cast
  rfl

theorem shifts_shr (f : Eflags) (a : Word) (hcount : count.toNat % 32 = c) (hc : 0 < c)
    : (shr f a count).1.toNat = a.toNat / 2 ^ c
        ∧ Shifts f c (a.toNat / 2 ^ c) (a.getLsbD (c - 1)) a.msb (shr f a count) := by
  have hfits : a.toNat / 2 ^ c < 2 ^ 32 := Nat.lt_of_le_of_lt (Nat.div_le_self _ _) a.isLt
  unfold shr
  rw [shiftCount_eq, hcount, word_shift f a shrStep (fun _ => a.msb) hc, ← out_shrSteps a hc]
  refine ⟨toNat_shrSteps a c, shifts_shift f a shrStep (fun _ => a.msb) hc ?_⟩
  rw [toNat_shrSteps, ← Nat.mod_eq_of_lt hfits]
  push_cast
  rfl

theorem shifts_sar (f : Eflags) (a : Word) (hcount : count.toNat % 32 = c) (hc : 0 < c)
    : (sar f a count).1.toInt = a.toInt / 2 ^ c
        ∧ Shifts f c (a.toInt / 2 ^ c) (a.getLsbD (c - 1)) false (sar f a count) := by
  have hlt : c < 32 := by omega
  unfold sar
  rw [shiftCount_eq, hcount, word_shift f a sarStep (fun _ => false) hc, ← out_sarSteps a hc hlt]
  refine ⟨toInt_sarSteps a c, shifts_shift f a sarStep (fun _ => false) hc ?_⟩
  rw [← toInt_sarSteps, toInt_emod]

/--
Shifts go by the count modulo 32. By no place they change nothing; by more they multiply by a power of two or divide by
one, rounding down, and the carry flag is the bit that left last. The overflow flag changes for a shift by one place
only, the zero, sign and parity flags describe the result, and the interrupt flag and the privilege bits stay.
-/
theorem shifts_by_count (f : Eflags) (a count : Word) {c : Nat} (hcount : count.toNat % 32 = c)
    : (c = 0 → shl f a count = (a, f) ∧ shr f a count = (a, f) ∧ sar f a count = (a, f))
        ∧ (0 < c → (shl f a count).1.toNat = a.toNat * 2 ^ c % 2 ^ 32
          ∧ Shifts f c (a.toNat * 2 ^ c) (a.getLsbD (32 - c)) ((shl f a count).1.msb ^^ a.getLsbD (32 - c))
            (shl f a count))
        ∧ (0 < c → (shr f a count).1.toNat = a.toNat / 2 ^ c
          ∧ Shifts f c (a.toNat / 2 ^ c) (a.getLsbD (c - 1)) a.msb (shr f a count))
        ∧ (0 < c → (sar f a count).1.toInt = a.toInt / 2 ^ c
          ∧ Shifts f c (a.toInt / 2 ^ c) (a.getLsbD (c - 1)) false (sar f a count))
        ∧ f.SameControl (shl f a count).2
        ∧ f.SameControl (shr f a count).2
        ∧ f.SameControl (sar f a count).2 := by
  refine ⟨?_, shifts_shl f a hcount, shifts_shr f a hcount, shifts_sar f a hcount, sameControl_shift ..,
    sameControl_shift .., sameControl_shift ..⟩
  intro hc
  unfold shl shr sar
  rw [shiftCount_eq, hcount, hc]
  exact ⟨rfl, rfl, rfl⟩

/-- A count of 33 is one place: both end bits leave the word, and minus three is rounded down to minus two. -/
theorem shifts_by_count_thirtyThree
    : (shl .clear 0xC0000001 33).1 = 0x80000002
        ∧ (shl .clear 0xC0000001 33).2.carry
        ∧ (shl .clear 0xC0000001 33).2.overflow = false
        ∧ (shr .clear 0xFFFFFFFD 33).1 = 0x7FFFFFFE
        ∧ (shr .clear 0xFFFFFFFD 33).2.overflow
        ∧ (sar .clear 0xFFFFFFFD 33).1.toInt = -2
        ∧ (sar .clear 0xFFFFFFFD 33).2.carry
        ∧ shl .clear 0xC0000001 32 = (0xC0000001, .clear) := by
  have hone : (33 : Word).toNat % 32 = 1 := by decide
  obtain ⟨-, hshl, -⟩ := shifts_by_count .clear 0xC0000001 33 hone
  obtain ⟨-, -, hshr, hsar, -⟩ := shifts_by_count .clear 0xFFFFFFFD 33 hone
  obtain ⟨hleft, hleftFlags⟩ := hshl Nat.one_pos
  obtain ⟨hright, hrightFlags⟩ := hshr Nat.one_pos
  obtain ⟨hsigned, hsignedFlags⟩ := hsar Nat.one_pos
  have hword : (shl .clear 0xC0000001 33).1 = 0x80000002 := BitVec.eq_of_toNat_eq hleft
  refine ⟨hword, hleftFlags.carry, ?_, BitVec.eq_of_toNat_eq hright, hrightFlags.overflow, hsigned,
    hsignedFlags.carry, ((shifts_by_count .clear 0xC0000001 32 (by decide)).1 rfl).1⟩
  rw [hleftFlags.overflow, hword]
  decide

end Alu

end Triword
