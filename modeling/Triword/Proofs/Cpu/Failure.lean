import Triword.Proofs.Cpu.Commit
import Triword.Proofs.Cpu.Cycle
import Triword.Proofs.Cpu.Ordinary

/-!
The machine after a failure. A cycle that fails can be tried again, since it has changed no register
but that of the header, no call and no count; nor has it changed memory, unless the instruction enters
the kernel. Entering the kernel pushes two words, and when the second one cannot be pushed, the first
one stays in memory.
-/

namespace Triword

namespace Cpu

/--
A cycle that fails changes no register but that of the header, no call and no count. Unless its
instruction enters the kernel, it changes no byte of memory either.
-/
theorem unchanged_of_cycle_error {cpu cpu' : Cpu} {t : Trap} (h : cycle cpu = .error t cpu')
    : cpu'.regs = { cpu.regs with eir := cpu'.regs.eir }
        ∧ cpu'.frames = cpu.frames
        ∧ cpu'.executed = cpu.executed
        ∧ ((∀ i, cpu.nextInstruction? = some i → ¬i.EntersKernel)
            → cpu'.mmu.memory = cpu.mmu.memory) := by
  have hstages := stages_cycle cpu
  rw [h] at hstages
  cases hstages with
  | unfetched => exact ⟨rfl, rfl, rfl, fun _ => rfl⟩
  | undecoded => exact ⟨rfl, rfl, rfl, fun _ => rfl⟩
  | refused => exact ⟨rfl, rfl, rfl, fun _ => rfl⟩
  | @unwritten header i e t log cpu' hcode hdecode heffect hlog hwrite =>
    obtain ⟨mmu, hwrites, rfl⟩ := Effect.exists_of_writeAll_error hwrite
    refine ⟨rfl, rfl, rfl, ?_⟩
    intro hnext
    have hi : ¬i.EntersKernel := hnext i ((nextInstruction?_eq hcode i).mpr hdecode)
    cases Snapshot.effect_cases heffect with
    | inl hordinary =>
      -- An ordinary instruction writes at most one word, and this one could not be written.
      rw [Mmu.eq_of_writeAll_error hordinary.length_writes hwrites]
      rfl
    | inr henters => exact absurd henters.1 hi

def disabling : Cpu :=
  loaded { Settings.standard with userMode := true } .zero [⟨.cli, .absent, .absent⟩]

theorem unchanged_of_disabling
    : ∃ cpu', cycle disabling = .error .privilegeViolation cpu'
        ∧ (∀ i, disabling.nextInstruction? = some i → ¬i.EntersKernel)
        ∧ cpu'.regs = { disabling.regs with eir := cpu'.regs.eir }
        ∧ cpu'.mmu.memory = disabling.mmu.memory := by
  obtain ⟨h, hnext⟩
      : Action.outcome (cycle disabling) = .error .privilegeViolation
        ∧ disabling.nextInstruction? = some ⟨.cli, .absent, .absent⟩ := by
    decide +kernel
  have hordinary : ∀ i, disabling.nextInstruction? = some i → ¬i.EntersKernel := by
    intro i hi
    rw [hnext] at hi
    cases hi
    decide
  obtain ⟨hregs, -, -, hmemory⟩ := unchanged_of_cycle_error (Action.eq_error_of_outcome h)
  exact ⟨_, Action.eq_error_of_outcome h, hordinary, hregs, hmemory hordinary⟩

/-- The flags can be pushed on behalf of the kernel, and pushing them changes memory. -/
def PushesFlags (cpu : Cpu) : Prop :=
  cpu.mmu.Alters (slotBelow cpu.regs.esp) cpu.regs.eflags.toWord (cpu.kernelContext .write)

theorem memory_of_writeAll_enterKernel_error {cpu cpu' : Cpu} {handler back : VirtualAddress}
    {kind : FrameKind} {vector : Option Word} {t : Trap}
    (h : (cpu.snapshot.enterKernel handler back kind vector).writeAll cpu = .error t cpu')
    : cpu'.mmu.memory = cpu.mmu.memory ↔ ¬cpu.PushesFlags := by
  obtain ⟨mmu, hwrites, rfl⟩ := Effect.exists_of_writeAll_error h
  exact Mmu.memory_of_writeAll_pair_error hwrites

theorem memory_of_interrupt_error {cpu cpu' : Cpu} {vector : Word} {t : Trap}
    (h : interrupt vector cpu = .error t cpu')
    : cpu'.mmu.memory = cpu.mmu.memory ↔ ¬cpu.PushesFlags := by
  exact memory_of_writeAll_enterKernel_error (writeAll_of_interrupt_error h)

theorem exists_readOperand_iff {cpu : Cpu} {o : Operand} (log : AccessLog)
    : (∃ w cpu', readOperand o (cpu.withLog log) = .ok w cpu')
        ↔
      ∃ w, cpu.snapshot.operandValue o = .ok w := by
  obtain ⟨log', -, hread⟩ := reads_readOperand cpu o log
  rw [hread]
  cases cpu.snapshot.operandValue o with
  | error t => simp
  | ok w => simp

theorem pushesFlags_congr (cpu : Cpu) (header : Word) (log : AccessLog)
    : ((cpu.withHeader header).withLog log).PushesFlags ↔ cpu.PushesFlags := by
  unfold PushesFlags
  exact Mmu.alters_withLog cpu.mmu log _ _ _

/-- Once the instruction is known, a cycle fails in computing its effect or in writing its words. -/
theorem cycle_error_cases {cpu cpu' : Cpu} {header : Word} {i : Instruction} {t : Trap}
    (hcode : cpu.code cpu.regs.eip = .ok header)
    (hdecode : cpu.instructionAt cpu.regs.eip header = .ok (some i)) (h : cycle cpu = .error t cpu')
    : (cpu.withHeader header).snapshot.effect i = .error t ∧ cpu'.mmu.memory = cpu.mmu.memory
        ∨ ∃ e log, (cpu.withHeader header).snapshot.effect i = .ok e
            ∧ e.writeAll ((cpu.withHeader header).withLog log) = .error t cpu' := by
  have hstages := stages_cycle cpu
  rw [h] at hstages
  -- The instruction is known, so the stages up to it have not failed.
  cases hstages with
  | unfetched hcode' =>
    rw [hcode] at hcode'
    cases hcode'
  | undecoded hcode' hdecode' =>
    rw [hcode] at hcode'
    cases hcode'
    rw [hdecode] at hdecode'
    cases hdecode'
  | refused hcode' hdecode' heffect =>
    rw [hcode] at hcode'
    cases hcode'
    rw [hdecode] at hdecode'
    cases hdecode'
    exact .inl ⟨heffect, rfl⟩
  | unwritten hcode' hdecode' heffect hlog hwrite =>
    rw [hcode] at hcode'
    cases hcode'
    rw [hdecode] at hdecode'
    cases hdecode'
    exact .inr ⟨_, _, heffect, hwrite⟩

theorem memory_of_entering_cycle_error {cpu cpu₁ cpu' : Cpu} {i : Instruction} {t : Trap}
    (hfetch : fetch cpu.regs.eip cpu = .ok (some i) cpu₁) (hi : i.EntersKernel)
    (h : cycle cpu = .error t cpu')
    : cpu'.mmu.memory = cpu.mmu.memory
        ↔
      ¬((∃ w cpu₂, readOperand i.first cpu₁ = .ok w cpu₂) ∧ cpu.PushesFlags) := by
  obtain ⟨header, log₁, hcode, hdecode, rfl⟩ := exists_of_fetch_ok hfetch
  rw [exists_readOperand_iff log₁]
  obtain ⟨handler, kind, vector, hform⟩ :=
    Snapshot.effect_of_entersKernel hi (cpu.withHeader header).snapshot
  cases cycle_error_cases hcode hdecode h with
  | inl hrefused =>
    obtain ⟨heffect, hmemory⟩ := hrefused
    rw [hform] at heffect
    cases hoperand : (cpu.withHeader header).snapshot.operandValue i.first with
    | error t' => simp [hmemory]
    | ok w =>
      rw [hoperand] at heffect
      cases heffect
  | inr hunwritten =>
    -- The operand has been read, and one of the two pushes has failed.
    obtain ⟨e, log, heffect, hwrite⟩ := hunwritten
    rw [hform] at heffect
    obtain ⟨w, hoperand, heffect⟩ := Outcome.bind_eq_ok_iff.mp heffect
    cases heffect
    rw [← pushesFlags_congr cpu header log]
    have hmemory : cpu'.mmu.memory = cpu.mmu.memory
        ↔ ¬((cpu.withHeader header).withLog log).PushesFlags :=
      memory_of_writeAll_enterKernel_error hwrite
    rw [hmemory]
    simp [hoperand]

/--
An entry into the kernel that fails leaves memory as it was exactly if it has not come to pushing the
flags, or pushing them has no effect on memory.
-/
theorem memory_of_failed_entry (cpu : Cpu)
    : (∀ vector t cpu', interrupt vector cpu = .error t cpu'
          → (cpu'.mmu.memory = cpu.mmu.memory ↔ ¬cpu.PushesFlags))
        ∧ (∀ i cpu₁ t cpu', fetch cpu.regs.eip cpu = .ok (some i) cpu₁
            → i.EntersKernel
            → cycle cpu = .error t cpu'
            → (cpu'.mmu.memory = cpu.mmu.memory
                ↔ ¬((∃ w cpu₂, readOperand i.first cpu₁ = .ok w cpu₂) ∧ cpu.PushesFlags))) := by
  constructor
  . intro vector t cpu' h
    exact memory_of_interrupt_error h
  . intro i cpu₁ t cpu' hfetch hi h
    exact memory_of_entering_cycle_error hfetch hi h

/-- A program in user mode that raises an interrupt with room on its stack for the flags only. -/
def shortOfStack : Cpu :=
  loaded { Settings.standard with stackPointer := ⟨4⟩, userMode := true } ⟨16⟩
    [⟨.int, ⟨.immediate, .direct, 0⟩, .absent⟩]

def stackExhausted : Trap :=
  .beyondMemory ⟨⟨0xFFFFFFFC⟩, ⟨0x000FFFFF⟩⟩

theorem shortOfStack_fails
    : Action.outcome (interrupt 0 shortOfStack) = .error stackExhausted
        ∧ Action.outcome (cycle shortOfStack) = .error stackExhausted
        ∧ shortOfStack.nextInstruction? = some ⟨.int, ⟨.immediate, .direct, 0⟩, .absent⟩
        ∧ (Action.final (interrupt 0 shortOfStack)).mmu.memory.byteAt ⟨3⟩
          ≠ shortOfStack.mmu.memory.byteAt ⟨3⟩ := by
  decide +kernel

theorem memory_of_shortOfStack
    : (∃ t cpu', interrupt 0 shortOfStack = .error t cpu'
        ∧ (cpu'.mmu.memory = shortOfStack.mmu.memory ↔ ¬shortOfStack.PushesFlags))
      ∧ (∃ i cpu₁ t cpu', fetch shortOfStack.regs.eip shortOfStack = .ok (some i) cpu₁
        ∧ i.EntersKernel
        ∧ cycle shortOfStack = .error t cpu'
        ∧ (cpu'.mmu.memory = shortOfStack.mmu.memory
            ↔ ¬((∃ w cpu₂, readOperand i.first cpu₁ = .ok w cpu₂) ∧ shortOfStack.PushesFlags))) := by
  obtain ⟨hinterrupt, hcycle, hnext, -⟩ := shortOfStack_fails
  constructor
  . have h := Action.eq_error_of_outcome hinterrupt
    exact ⟨_, _, h, (memory_of_failed_entry shortOfStack).1 _ _ _ h⟩
  . have h := Action.eq_error_of_outcome hcycle
    obtain ⟨cpu₁, hfetch⟩ := fetch_of_nextInstruction? hnext
    have hi : Instruction.EntersKernel ⟨.int, ⟨.immediate, .direct, 0⟩, .absent⟩ := by decide
    exact ⟨_, cpu₁, _, _, hfetch, hi, h,
      (memory_of_failed_entry shortOfStack).2 _ cpu₁ _ _ hfetch hi h⟩

/-- The flags have been pushed although the interrupt could not be raised. -/
theorem memory_ne_of_shortOfStack
    : ∃ t cpu', interrupt 0 shortOfStack = .error t cpu'
        ∧ cpu'.mmu.memory ≠ shortOfStack.mmu.memory := by
  obtain ⟨h, -, -, hbyte⟩ := shortOfStack_fails
  refine ⟨_, _, Action.eq_error_of_outcome h, ?_⟩
  intro hmemory
  exact hbyte (congrArg (Memory.byteAt · ⟨3⟩) hmemory)

end Cpu

end Triword
