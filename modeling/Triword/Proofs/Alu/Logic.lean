import Triword.Proofs.Alu.Result

/-!
Bitwise operations. A result that is got bit by bit has neither a carry nor an overflow.
-/

namespace Triword.Alu

/-- A word with flags that describe it, where the carry and overflow flags are clear. -/
structure Clears (f : Eflags) (w : Word) (r : Flagged Word) : Prop extends Yields f w.toInt r where
  eq : r.1 = w
  carry : r.2.carry = false
  overflow : r.2.overflow = false

theorem clears_logic (f : Eflags) (w : Word) : Clears f w (logic f w) := by
  constructor
  case toYields => exact yields_withResult (toInt_emod w).symm ⟨rfl, rfl⟩
  case eq => rfl
  case carry => rfl
  case overflow => rfl

theorem clears_and (f : Eflags) (a b : Word) : Clears f (a &&& b) (and f a b) :=
  clears_logic f (a &&& b)

theorem clears_or (f : Eflags) (a b : Word) : Clears f (a ||| b) (or f a b) :=
  clears_logic f (a ||| b)

theorem clears_xor (f : Eflags) (a b : Word) : Clears f (a ^^^ b) (xor f a b) :=
  clears_logic f (a ^^^ b)

theorem clears_not (f : Eflags) (a : Word) : Clears f (~~~a) (not f a) :=
  clears_logic f (~~~a)

end Triword.Alu
