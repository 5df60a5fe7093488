import Triword.Proofs.Alu
import Triword.Proofs.Cpu.Commit
import Triword.Proofs.Cpu.Cycle

/-!
Conditional jumps after comparisons. A jump that follows a comparison branches as the order of the two
words as signed integers has it, unless the subtrahend is the least word. That word is its own two's
complement, and then every word passes for less.
-/

namespace Triword

/--
How the target and the source of a comparison have to be related for the conditional jump after it to
branch.
-/
def Operation.order? : Operation → Option (Int → Int → Bool)
  | .jz => some fun a b => a = b
  | .jnz => some fun a b => a ≠ b
  | .jg => some fun a b => a > b
  | .jge => some fun a b => a ≥ b
  | .jl => some fun a b => a < b
  | _ => none

namespace Cpu

variable {cpu cpu₁ fetched : Cpu} {i : Instruction} {order : Int → Int → Bool}

/-! ### The registers after a cycle -/

theorem outcome_readOperand (cpu : Cpu) (o : Operand)
    : Action.outcome (readOperand o cpu) = cpu.snapshot.operandValue o :=
  (reads_readOperand cpu o).outcome

theorem regs_of_cycle_ok (hfetch : fetch cpu.regs.eip cpu = .ok (some i) fetched)
    (hcycle : cycle cpu = .ok true cpu₁)
    : ∃ e, fetched.snapshot.effect i = .ok e
        ∧ cpu₁.regs
          =
          if e.jumped then e.regs else { e.regs with eip := cpu.regs.eip.add Instruction.byteSize } := by
  obtain ⟨e, log, cpu₂, heffect, -, rfl⟩ := exists_of_cycle_ok hfetch hcycle
  exact ⟨e, heffect, rfl⟩

theorem eflags_of_fetch_ok {a : VirtualAddress} {i? : Option Instruction}
    (h : fetch a cpu = .ok i? fetched) : fetched.regs.eflags = cpu.regs.eflags := by
  obtain ⟨header, log, -, -, rfl⟩ := exists_of_fetch_ok h
  rfl

/-! ### Comparisons -/

theorem eflags_of_comparison (hfetch : fetch cpu.regs.eip cpu = .ok (some i) fetched)
    (hi : i.operation = .cmp) (hcycle : cycle cpu = .ok true cpu₁)
    : ∃ a b, Action.outcome (readOperand i.second fetched) = .ok a
        ∧ Action.outcome (readOperand i.first fetched) = .ok b
        ∧ cpu₁.regs.eflags = Alu.cmp cpu.regs.eflags a b := by
  obtain ⟨e, heffect, hregs⟩ := regs_of_cycle_ok hfetch hcycle
  unfold Snapshot.effect at heffect
  rw [hi] at heffect
  obtain ⟨b, hb, heffect⟩ := Outcome.bind_eq_ok_iff.mp heffect
  obtain ⟨a, ha, heffect⟩ := Outcome.bind_eq_ok_iff.mp heffect
  cases heffect
  refine ⟨a, b, ?_, ?_, ?_⟩
  . rw [outcome_readOperand, ha]
  . rw [outcome_readOperand, hb]
  . rw [hregs, ← eflags_of_fetch_ok hfetch]
    rfl

/-! ### Conditional jumps -/

theorem toInt_eq_iff (a b : Word) : a.toInt = b.toInt ↔ a = b :=
  ⟨BitVec.eq_of_toInt_eq, congrArg BitVec.toInt⟩

theorem less_cmp_iff (f : Eflags) (a b : Word)
    : ((Alu.cmp f a b).overflow != (Alu.cmp f a b).sign) = true
        ↔
      b = Alu.minimum ∨ a.toInt < b.toInt := by
  by_cases hb : b = Alu.minimum
  . subst hb
    simp [Alu.overflow_bne_sign_cmp_minimum]
  . simp [Alu.overflow_bne_sign_cmp f a hb, hb]

theorem notLess_cmp_iff (f : Eflags) (a b : Word)
    : ((Alu.cmp f a b).overflow == (Alu.cmp f a b).sign) = true
        ↔
      b ≠ Alu.minimum ∧ b.toInt ≤ a.toInt := by
  have hnot := not_congr (less_cmp_iff f a b)
  simpa using hnot

theorem minimum_le (a : Word) : Alu.minimum.toInt ≤ a.toInt := by
  have h := a.le_toInt
  exact h

/--
A conditional jump branches on a condition on the flags. After a comparison this is the order of the
words, but for the orders that tell which word is greater if the source is the least word.
-/
theorem effect_of_order? (hi : i.operation.order? = some order)
    : ∃ condition : Eflags → Bool, (∀ s : Snapshot, s.effect i = s.jumpIf i condition)
        ∧ ∀ f a b, condition (Alu.cmp f a b) = order a.toInt b.toInt
            ↔
          b ≠ Alu.minimum
            ∨ i.operation = .jz
            ∨ i.operation = .jnz
            ∨ i.operation = .jg ∧ a = Alu.minimum := by
  unfold Operation.order? at hi
  unfold Snapshot.effect
  split at hi
  . next hop =>
    cases hi
    rw [hop]
    refine ⟨_, fun s => rfl, ?_⟩
    intro f a b
    simp [Alu.zero_cmp, toInt_eq_iff]
  . next hop =>
    cases hi
    rw [hop]
    refine ⟨_, fun s => rfl, ?_⟩
    intro f a b
    simp [Alu.zero_cmp, toInt_eq_iff]
  . next hop =>
    cases hi
    rw [hop]
    refine ⟨_, fun s => rfl, ?_⟩
    intro f a b
    have hle := minimum_le a
    rw [Bool.eq_iff_iff, Bool.and_eq_true, notLess_cmp_iff, Alu.zero_cmp]
    -- Every word passes for less than the least one, whatever the order that is asked for.
    by_cases hb : b = Alu.minimum
    . subst hb
      have hequal := toInt_eq_iff a Alu.minimum
      have hgreater : Alu.minimum.toInt < a.toInt ↔ ¬a = Alu.minimum := by
        rw [← hequal]
        omega
      simp [hgreater]
    . have hequal := toInt_eq_iff a b
      have hgreater : b.toInt < a.toInt ↔ ¬a = b ∧ b.toInt ≤ a.toInt := by
        rw [← hequal]
        omega
      simp [hb, hgreater]
  . next hop =>
    cases hi
    rw [hop]
    refine ⟨_, fun s => rfl, ?_⟩
    intro f a b
    have hle := minimum_le a
    rw [Bool.eq_iff_iff, notLess_cmp_iff]
    by_cases hb : b = Alu.minimum
    . subst hb
      simp [hle]
    . simp [hb]
  . next hop =>
    cases hi
    rw [hop]
    refine ⟨_, fun s => rfl, ?_⟩
    intro f a b
    have hle := minimum_le a
    rw [Bool.eq_iff_iff, less_cmp_iff]
    by_cases hb : b = Alu.minimum
    . subst hb
      simp [hle]
    . simp [hb]
  . cases hi

/--
When a conditional jump follows a comparison, it branches as the order of the target and the source has
it, exactly if the source is not the least word, or the order is equality or difference, or it asks
which word is greater and both are the least.
-/
theorem eip_after_comparison {cpu fetched cpu₁ fetched₁ cpu₂ : Cpu} {i j : Instruction}
    {order : Int → Int → Bool} (hfetch : fetch cpu.regs.eip cpu = .ok (some i) fetched)
    (hi : i.operation = .cmp) (hcycle : cycle cpu = .ok true cpu₁)
    (hfetch₁ : fetch cpu₁.regs.eip cpu₁ = .ok (some j) fetched₁) (hj : j.operation.order? = some order)
    (hcycle₁ : cycle cpu₁ = .ok true cpu₂)
    : ∃ a b target branches, Action.outcome (readOperand i.second fetched) = .ok a
        ∧ Action.outcome (readOperand i.first fetched) = .ok b
        ∧ Action.outcome (readOperand j.first fetched₁) = .ok target
        ∧ cpu₂.regs.eip
          =
          (if branches then ⟨target⟩ else cpu₁.regs.eip.add Instruction.byteSize)
        ∧ (branches = order a.toInt b.toInt
            ↔
          b ≠ Alu.minimum
            ∨ j.operation = .jz
            ∨ j.operation = .jnz
            ∨ j.operation = .jg ∧ a = Alu.minimum) := by
  obtain ⟨a, b, ha, hb, hflags⟩ := eflags_of_comparison hfetch hi hcycle
  obtain ⟨condition, heffect, hcondition⟩ := effect_of_order? hj
  obtain ⟨e, hjump, hregs⟩ := regs_of_cycle_ok hfetch₁ hcycle₁
  rw [heffect] at hjump
  obtain ⟨target, htarget, hjump⟩ := Outcome.bind_eq_ok_iff.mp hjump
  cases hjump
  have hflags₁ : fetched₁.snapshot.regs.eflags = Alu.cmp cpu.regs.eflags a b :=
    (eflags_of_fetch_ok hfetch₁).trans hflags
  refine ⟨a, b, target, condition (Alu.cmp cpu.regs.eflags a b), ha, hb, ?_, ?_, hcondition _ a b⟩
  . rw [outcome_readOperand, htarget]
  . rw [hregs]
    simp only [hflags₁]
    cases condition (Alu.cmp cpu.regs.eflags a b) <;> rfl

def comparing (target source : Word) (jump : Operation) : Cpu :=
  loaded { Settings.standard with fill := .known target } .zero
    [⟨.cmp, ⟨.immediate, .direct, source⟩, ⟨.register, .direct, Register.eax.code⟩⟩,
      ⟨jump, ⟨.label, .direct, 36⟩, .absent⟩]

/-- The least word is less than one, although their difference is not negative as a word. -/
theorem eip_after_comparing
    : let cpu := comparing Alu.minimum 1 .jl
      ∃ fetched cpu₁ fetched₁ cpu₂ i j,
        fetch cpu.regs.eip cpu = .ok (some i) fetched
        ∧ i.operation = .cmp
        ∧ cycle cpu = .ok true cpu₁
        ∧ fetch cpu₁.regs.eip cpu₁ = .ok (some j) fetched₁
        ∧ j.operation = .jl
        ∧ cycle cpu₁ = .ok true cpu₂
        ∧ cpu₂.regs.eip = ⟨36⟩ := by
  intro cpu
  let cpu₁ := Action.final (cycle cpu)
  let source : Operand := ⟨.immediate, .direct, 1⟩
  let target : Operand := ⟨.register, .direct, Register.eax.code⟩
  let i : Instruction := ⟨.cmp, source, target⟩
  let j : Instruction := ⟨.jl, ⟨.label, .direct, 36⟩, .absent⟩
  -- The cycles are run once for all that is said of them.
  obtain ⟨hfetch, hcycle, hfetch₁, hcycle₁, hread, hsource⟩
      : Action.outcome (fetch cpu.regs.eip cpu) = .ok (some i)
        ∧ Action.outcome (cycle cpu) = .ok true
        ∧ Action.outcome (fetch cpu₁.regs.eip cpu₁) = .ok (some j)
        ∧ Action.outcome (cycle cpu₁) = .ok true
        ∧ Action.outcome (readOperand target (Action.final (fetch cpu.regs.eip cpu))) = .ok Alu.minimum
        ∧ Action.outcome (readOperand source (Action.final (fetch cpu.regs.eip cpu))) = .ok 1 := by
    decide +kernel
  replace hfetch := Action.eq_ok_of_outcome hfetch
  replace hcycle : cycle cpu = .ok true cpu₁ := Action.eq_ok_of_outcome hcycle
  replace hfetch₁ := Action.eq_ok_of_outcome hfetch₁
  replace hcycle₁ := Action.eq_ok_of_outcome hcycle₁
  obtain ⟨a, b, w, branches, ha, hb, hw, heip, hbranches⟩ :=
    eip_after_comparison hfetch rfl hcycle hfetch₁ rfl hcycle₁
  refine ⟨_, cpu₁, _, _, i, j, hfetch, rfl, hcycle, hfetch₁, rfl, hcycle₁, ?_⟩
  cases hread.symm.trans ha
  cases hsource.symm.trans hb
  cases hw
  have hless : branches = true := hbranches.mpr (.inl (by decide))
  rw [heip, hless]
  rfl

/-- Zero is greater than the least word, and yet the jump that asks for it does not branch. -/
theorem eip_after_comparing_minimum
    : let cpu := comparing 0 Alu.minimum .jg
      ∃ fetched cpu₁ fetched₁ cpu₂ i j,
        fetch cpu.regs.eip cpu = .ok (some i) fetched
        ∧ i.operation = .cmp
        ∧ Action.outcome (readOperand i.second fetched) = .ok 0
        ∧ Action.outcome (readOperand i.first fetched) = .ok Alu.minimum
        ∧ cycle cpu = .ok true cpu₁
        ∧ fetch cpu₁.regs.eip cpu₁ = .ok (some j) fetched₁
        ∧ j.operation = .jg
        ∧ cycle cpu₁ = .ok true cpu₂
        ∧ BitVec.toInt (0 : Word) > Alu.minimum.toInt
        ∧ cpu₂.regs.eip = cpu₁.regs.eip.add Instruction.byteSize
        ∧ cpu₂.regs.eip ≠ ⟨36⟩ := by
  intro cpu
  let cpu₁ := Action.final (cycle cpu)
  let i : Instruction :=
    ⟨.cmp, ⟨.immediate, .direct, Alu.minimum⟩, ⟨.register, .direct, Register.eax.code⟩⟩
  let j : Instruction := ⟨.jg, ⟨.label, .direct, 36⟩, .absent⟩
  obtain ⟨hfetch, hcycle, hfetch₁, hcycle₁, hsecond, hfirst, heip, hskipped⟩
      : Action.outcome (fetch cpu.regs.eip cpu) = .ok (some i)
        ∧ Action.outcome (cycle cpu) = .ok true
        ∧ Action.outcome (fetch cpu₁.regs.eip cpu₁) = .ok (some j)
        ∧ Action.outcome (cycle cpu₁) = .ok true
        ∧ Action.outcome (readOperand i.second (Action.final (fetch cpu.regs.eip cpu))) = .ok 0
        ∧ Action.outcome (readOperand i.first (Action.final (fetch cpu.regs.eip cpu))) = .ok Alu.minimum
        ∧ (Action.final (cycle cpu₁)).regs.eip = cpu₁.regs.eip.add Instruction.byteSize
        ∧ (Action.final (cycle cpu₁)).regs.eip ≠ ⟨36⟩ := by
    decide +kernel
  replace hfetch := Action.eq_ok_of_outcome hfetch
  replace hcycle : cycle cpu = .ok true cpu₁ := Action.eq_ok_of_outcome hcycle
  replace hfetch₁ := Action.eq_ok_of_outcome hfetch₁
  replace hcycle₁ := Action.eq_ok_of_outcome hcycle₁
  exact ⟨_, cpu₁, _, _, i, j, hfetch, rfl, hsecond, hfirst, hcycle, hfetch₁, rfl, hcycle₁, by decide, heip,
    hskipped⟩

end Cpu

end Triword
