import Triword.Proofs.Alu.Quotient
import Triword.Proofs.Cpu.Arithmetic
import Triword.Proofs.Cpu.Execute

/-!
Divisions. Only a division by zero fails, and a machine that comes to one keeps its registers and its memory.
-/

namespace Triword

namespace Cpu

variable {cpu : Cpu} {i : Instruction} {place : Place} {a : Word}

theorem quotient_eq_error_iff (f : Eflags) (a b : Word)
    : quotient f a b = .error .divisionByZero ↔ b = 0#32 := by
  rw [← Alu.div_eq_none_iff f a b]
  unfold quotient
  cases Alu.div f a b with
  | none => simp
  | some r => simp

/-- The operands have been read when a division turns out to be by zero. -/
theorem execute_of_divisor_zero (hi : i.operation = .div) (hplace : locate cpu.regs i.second = .ok place)
    (htarget : Action.outcome (loadPlace place cpu) = .ok a)
    (hsource : Action.outcome (readOperand i.first cpu) = .ok 0#32)
    : ∃ log, execute i cpu = .error .divisionByZero (cpu.withLog log) := by
  have hop : i.operation.binary? = some quotient := by
    rw [hi]
    rfl
  have heffect : cpu.snapshot.effect i = .error .divisionByZero := by
    have hzero := (quotient_eq_error_iff cpu.regs.eflags a 0#32).mpr rfl
    rw [(reads_loadPlace cpu place).outcome] at htarget
    rw [(reads_readOperand cpu i.first).outcome] at hsource
    rw [Snapshot.effect_of_binary? hop]
    apply Outcome.bind_eq_error_iff.mpr
    refine .inr ⟨place, hplace, ?_⟩
    apply Outcome.bind_eq_error_iff.mpr
    refine .inr ⟨0#32, hsource, ?_⟩
    apply Outcome.bind_eq_error_iff.mpr
    refine .inr ⟨a, htarget, ?_⟩
    apply Outcome.bind_eq_error_iff.mpr
    exact .inl hzero
  obtain ⟨log, -, hexecute⟩ := settles_execute cpu i cpu.mmu.log
  rw [heffect] at hexecute
  exact ⟨log, hexecute⟩

/--
A division fails exactly if the divisor is zero, and the machine then keeps its registers. Otherwise the quotient is
rounded towards zero, and the remainder is less than the divisor and has the sign of the dividend; together they make
up the dividend, unless the least word is divided by minus one. Only the zero, sign and parity flags change.
-/
theorem quotient_and_remainder_of_div (f : Eflags) (a b : Word)
    : (Alu.div f a b = none ↔ b = 0)
        ∧ (quotient f a b = .error .divisionByZero ↔ b = 0)
        ∧ (∀ (cpu : Cpu) (i : Instruction) (place : Place), i.operation = .div
          → locate cpu.regs i.second = .ok place
          → Action.outcome (loadPlace place cpu) = .ok a
          → Action.outcome (readOperand i.first cpu) = .ok 0
          → ∃ log, execute i cpu = .error .divisionByZero (cpu.withLog log))
        ∧ (b ≠ 0 → ∃ q r g, Alu.div f a b = some ((q, r), g)
          ∧ (a.toInt = q.toInt * b.toInt + r.toInt ↔ ¬(a = Alu.minimum ∧ b = -1))
          ∧ (q.toInt = a.toInt.tdiv b.toInt ↔ ¬(a = Alu.minimum ∧ b = -1))
          ∧ (a = Alu.minimum ∧ b = -1 → q = Alu.minimum ∧ r = 0)
          ∧ r.toInt.natAbs < b.toInt.natAbs
          ∧ (r = 0 ∨ r.toInt.sign = a.toInt.sign)
          ∧ Alu.Yields f (a.toInt.tdiv b.toInt) (q, g)
          ∧ g.carry = f.carry
          ∧ g.overflow = f.overflow) := by
  refine ⟨Alu.div_eq_none_iff f a b, quotient_eq_error_iff f a b, ?_, ?_⟩
  . intro cpu i place hi hplace htarget hsource
    exact execute_of_divisor_zero hi hplace htarget hsource
  . intro hb
    refine ⟨_, _, _, Alu.div_eq f a hb, Alu.toInt_eq_sdiv_mul_add_srem_iff a b, Alu.toInt_sdiv_iff a b, ?_,
      Alu.natAbs_srem_lt a hb, Alu.sign_srem a b, Alu.yields_withResult_sdiv f a b, rfl, rfl⟩
    rintro ⟨rfl, rfl⟩
    decide

def holdingSeven : Cpu :=
  initial { Settings.standard with fill := .known 7 }

/-- The quotient of the least word by minus one is that word again, and a register is not divided by zero. -/
theorem quotient_and_remainder_of_div_extremes
    : (∃ g, Alu.div .clear Alu.minimum (-1) = some ((Alu.minimum, 0), g) ∧ g.sign)
        ∧ (∃ q r g, Alu.div .clear (-7) 2 = some ((q, r), g) ∧ q.toInt = -3 ∧ r.toInt = -1)
        ∧ ∃ log, execute ⟨.div, ⟨.immediate, .direct, 0⟩, ⟨.register, .direct, Register.eax.code⟩⟩ holdingSeven
          = .error .divisionByZero (holdingSeven.withLog log) := by
  refine ⟨?_, ?_, ?_⟩
  . obtain ⟨q, r, g, hdiv, -, -, hleast, -, -, hyields, -⟩ :=
      (quotient_and_remainder_of_div .clear Alu.minimum (-1)).2.2.2 (by decide)
    obtain ⟨rfl, rfl⟩ := hleast ⟨rfl, rfl⟩
    exact ⟨g, hdiv, hyields.sign⟩
  . obtain ⟨q, r, g, hdiv, hsum, hquotient, -⟩ :=
      (quotient_and_remainder_of_div .clear (-7) 2).2.2.2 (by decide)
    have hq : q.toInt = -3 := hquotient.mpr (by decide)
    have hr := hsum.mpr (by decide)
    have hdividend : BitVec.toInt (-7 : Word) = -7 := by decide
    have hdivisor : BitVec.toInt (2 : Word) = 2 := by decide
    rw [hq, hdividend, hdivisor] at hr
    refine ⟨q, r, g, hdiv, hq, ?_⟩
    omega
  . exact (quotient_and_remainder_of_div .clear 7 0).2.2.1 holdingSeven _ (.register .eax) rfl rfl rfl rfl

end Cpu

end Triword
