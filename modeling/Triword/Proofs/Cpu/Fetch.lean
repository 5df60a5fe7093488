import Triword.Proofs.Cpu.Cycle
import Triword.Proofs.Instruction

/-!
Fetching what has been encoded. Where the three words of an instruction are found, the fetch gives the
instruction back.
-/

namespace Triword

/--
The operand can be held by a slot: it is absent altogether, or it names a register if it says so, and is
indirect only then.
-/
def Operand.IsStored (o : Operand) : Prop :=
  o = .absent
    ∨ o.kind ≠ .absent
      ∧ (o.mode = .indirect → o.kind = .register)
      ∧ (o.kind = .register → ∃ r, Register.ofCode? o.value = some r)

namespace Cpu

variable {cpu : Cpu} {a : VirtualAddress} {i : Instruction}

theorem slotOperand_of_isStored {o : Operand} (h : o.IsStored)
    : slotOperand ⟨o.mode, o.kind⟩ (.ok o.value) = .ok o := by
  rcases h with rfl | ⟨hpresent, hindirect, hregister⟩
  . rfl
  . have hmode : ¬(o.mode = .indirect ∧ o.kind ≠ .register) := fun hmode => hmode.2 (hindirect hmode.1)
    have hnamed : ¬(o.kind = .register ∧ o.register? = none) := by
      rintro ⟨hkind, hnone⟩
      obtain ⟨r, hr⟩ := hregister hkind
      unfold Operand.register? at hnone
      rw [if_pos hkind, hr] at hnone
      cases hnone
    unfold slotOperand
    rw [if_neg hpresent, if_neg hmode]
    exact if_neg hnamed

theorem instructionAt_of_code (hfirst : i.first.IsStored) (hsecond : i.second.IsStored)
    (hcode₁ : cpu.code (a.add 4) = .ok i.first.value) (hcode₂ : cpu.code (a.add 8) = .ok i.second.value)
    : cpu.instructionAt a i.header.encode = .ok (some i) := by
  unfold instructionAt
  rw [if_neg i.header.encode_ne_zero, Header.decode_encode, hcode₁, hcode₂]
  show (i.header.resolve >>= fun shape => do
    let first ← slotOperand shape.first (.ok i.first.value)
    let second ← slotOperand shape.second (.ok i.second.value)
    .ok (some ⟨shape.operation, first, second⟩) : Except Trap (Option Instruction)) = _
  rw [i.resolve_header]
  show (do
    let first ← slotOperand ⟨i.first.mode, i.first.kind⟩ (.ok i.first.value)
    let second ← slotOperand ⟨i.second.mode, i.second.kind⟩ (.ok i.second.value)
    .ok (some ⟨i.operation, first, second⟩) : Except Trap (Option Instruction)) = _
  rw [slotOperand_of_isStored hfirst, slotOperand_of_isStored hsecond]
  rfl

theorem exists_fetch_of_code (hfirst : i.first.IsStored) (hsecond : i.second.IsStored)
    (hcode : ∀ j < 3, ∃ w, i.encode[j]? = some w ∧ cpu.code (a.add (4 * j)) = .ok w)
    : ∃ cpu', fetch a cpu = .ok (some i) cpu' := by
  obtain ⟨w₀, hw₀, hcode₀⟩ := hcode 0 (by omega)
  obtain ⟨w₁, hw₁, hcode₁⟩ := hcode 1 (by omega)
  obtain ⟨w₂, hw₂, hcode₂⟩ := hcode 2 (by omega)
  cases hw₀
  cases hw₁
  cases hw₂
  rw [Nat.mul_zero, Address.add_zero] at hcode₀
  obtain ⟨log, -, hfetch⟩ := fetch_of_ok hcode₀
  rw [instructionAt_of_code hfirst hsecond hcode₁ hcode₂] at hfetch
  exact ⟨_, hfetch⟩

end Cpu

end Triword
