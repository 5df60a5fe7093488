import Mathlib.Algebra.Ring.Parity
import Triword.Proofs.Control

/-!
What an operation says of an exact result. A word holds the exact result up to multiples of `2 ^ 32`, and three of
the flags describe that word; whether the exact result is within the range of the signed words is for other flags
to tell.
-/

namespace Triword

namespace Alu

def Fits (v : Int) : Prop :=
  -2 ^ 31 ≤ v ∧ v < 2 ^ 31

instance (v : Int) : Decidable (Fits v) :=
  inferInstanceAs (Decidable (_ ∧ _))

theorem fits_toInt (w : Word) : Fits w.toInt :=
  ⟨w.le_toInt, w.toInt_lt⟩

theorem toInt_emod (w : Word) : w.toInt % 2 ^ 32 = w.toNat := by
  have hw := w.isLt
  rw [BitVec.toInt_eq_toNat_cond]
  split <;> omega

def EvenlySet (w : Word) : Prop :=
  Even ((List.range 8).countP w.getLsbD)

instance (w : Word) : Decidable (EvenlySet w) :=
  inferInstanceAs (Decidable (Even _))

theorem ones_lowByte (w : Word) : Bits.ones (Bits.lowByte w) = (List.range 8).countP w.getLsbD := by
  have hreverse : Bits.toBools (Bits.lowByte w) = ((List.range 8).map w.getLsbD).reverse := by
    simp [Bits.toBools, Bits.lowByte, List.range_succ, BitVec.getMsbD_eq_getLsbD]
  unfold Bits.ones
  rw [hreverse, List.countP_reverse, List.countP_map]
  rfl

theorem evenParity_eq (w : Word) : evenParity w = decide (EvenlySet w) := by
  unfold evenParity
  rw [ones_lowByte, Bool.eq_iff_iff, beq_iff_eq, decide_eq_true_iff]
  exact Nat.even_iff.symm

/-- A result that holds the exact one `v` up to multiples of `2 ^ 32`, with flags that describe it. -/
structure Yields (f : Eflags) (v : Int) (r : Flagged Word) : Prop where
  word : (r.1.toNat : Int) = v % 2 ^ 32
  zero : r.2.zero = decide (r.1 = 0)
  sign : r.2.sign = decide (r.1.toInt < 0)
  parity : r.2.parity = decide (EvenlySet r.1)
  control : f.SameControl r.2

variable {f g : Eflags} {v : Int} {w : Word}

theorem yields_withResult (hv : (w.toNat : Int) = v % 2 ^ 32) (hg : f.SameControl g)
    : Yields f v (w, withResult g w) := by
  constructor
  case word => exact hv
  case zero =>
    show (w == 0#32) = decide (w = 0#32)
    rw [Bool.eq_iff_iff, beq_iff_eq, decide_eq_true_iff]
  case sign =>
    show w.msb = decide (w.toInt < 0)
    exact BitVec.msb_eq_toInt
  case parity => exact evenParity_eq w
  case control => exact hg.trans (sameControl_withResult g w)

/-- Which of two exact results that differ by a multiple of `2 ^ 32` was meant cannot be told. -/
theorem Yields.congr {v' : Int} {r : Flagged Word} (h : Yields f v r) (hv : v % 2 ^ 32 = v' % 2 ^ 32)
    : Yields f v' r :=
  { h with word := h.word.trans hv }

/-- Such a result whose overflow flag tells whether the exact one is out of range. -/
structure Checks (f : Eflags) (v : Int) (r : Flagged Word) : Prop extends Yields f v r where
  overflow : r.2.overflow = decide ¬Fits v

end Alu

end Triword
