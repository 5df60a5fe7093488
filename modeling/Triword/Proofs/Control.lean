import Triword.Alu

/-!
The privilege bits and the interrupt flag, which no operation of the arithmetic-logic unit changes.
-/

namespace Triword

namespace Eflags

theorem privilege_eq_user_iff (f : Eflags) : f.privilege = .user ↔ f.level ≠ 0#2 := by
  unfold privilege
  split <;> simp_all

theorem isKernel_eq_false_iff (f : Eflags) : f.isKernel = false ↔ f.level ≠ 0#2 := by
  rw [← privilege_eq_user_iff]
  unfold isKernel
  cases f.privilege <;> simp

end Eflags

def Eflags.SameControl (f g : Eflags) : Prop :=
  g.level = f.level ∧ g.interrupts = f.interrupts

namespace Eflags.SameControl

theorem refl (f : Eflags) : f.SameControl f := ⟨rfl, rfl⟩

theorem trans {f g h : Eflags} (hfg : f.SameControl g) (hgh : g.SameControl h) : f.SameControl h :=
  ⟨hgh.1.trans hfg.1, hgh.2.trans hfg.2⟩

theorem isKernel_eq {f g : Eflags} (h : f.SameControl g) : g.isKernel = f.isKernel := by
  unfold Eflags.isKernel Eflags.privilege
  rw [h.1]

theorem of_keepsControl {f : Eflags} {b : Byte} (h : f.keepsControl b) : f.SameControl (.ofByte b) := by
  unfold Eflags.keepsControl at h
  rw [Bool.and_eq_true, beq_iff_eq, beq_iff_eq] at h
  exact ⟨h.1.symm, h.2.symm⟩

end Eflags.SameControl

namespace Alu

theorem sameControl_withResult (f : Eflags) (result : Word) : f.SameControl (withResult f result) :=
  ⟨rfl, rfl⟩

theorem sameControl_addWithCarry (f : Eflags) (a b : Word) (carryIn : Bool)
    : f.SameControl (addWithCarry f a b carryIn).2 :=
  ⟨rfl, rfl⟩

theorem sameControl_logic (f : Eflags) (result : Word) : f.SameControl (logic f result).2 := ⟨rfl, rfl⟩

theorem sameControl_mul (f : Eflags) (a b : Word) : f.SameControl (mul f a b).2 := ⟨rfl, rfl⟩

theorem sameControl_inc (f : Eflags) (a : Word) : f.SameControl (inc f a).2 := ⟨rfl, rfl⟩

theorem sameControl_dec (f : Eflags) (a : Word) : f.SameControl (dec f a).2 := ⟨rfl, rfl⟩

theorem sameControl_div {f g : Eflags} {a b : Word} {r : Word × Word} (h : div f a b = some (r, g))
    : f.SameControl g := by
  unfold div at h
  split at h
  . cases h
  . rw [Option.some.injEq, Prod.mk.injEq] at h
    rw [← h.2]
    apply sameControl_withResult

theorem sameControl_shift (f : Eflags) (a : Word) (count : Nat) (step : Word → Shifted)
    (overflow : Shifted → Bool) : f.SameControl (shift f a count step overflow).2 := by
  unfold shift
  split
  . exact .refl f
  . exact ⟨rfl, rfl⟩

end Alu

end Triword
