import Triword.Proofs.Cpu.Commit
import Triword.Proofs.Cpu.Cycle
import Triword.Proofs.Cpu.Ordinary

/-!
What user mode cannot do. However many cycles run in user mode, failed ones included, the privilege
bits, the interrupt flag and the registers of virtualization stay as they are, and the register of the
header holds what was fetched; the only way out is an entry into the kernel.
-/

namespace Triword

namespace Cpu

variable {cpu cpu' : Cpu} {header : Word} {i : Instruction} {e : Effect} {t : Trap}

/-- The machine after a number of cycles, each of which may have failed. -/
def afterCycles (cpu : Cpu) : Nat → Cpu
  | 0 => cpu
  | n + 1 => Action.final (cycle (cpu.afterCycles n))

def Enters (cpu : Cpu) : Prop :=
  ∃ i cpu', cpu.nextInstruction? = some i ∧ i.EntersKernel ∧ cycle cpu = .ok true cpu'

/-- The header that the next cycle fetches, or if it cannot, the one that was fetched before. -/
def lastHeader (cpu : Cpu) : Word :=
  match Mmu.readWord cpu.regs.eip (cpu.context .execute) cpu.mmu with
  | .ok header _ => header
  | .error .. => cpu.regs.eir

theorem lastHeader_eq (cpu : Cpu)
    : cpu.lastHeader
        =
      match cpu.code cpu.regs.eip with
      | .ok header => header
      | .error _ => cpu.regs.eir := by
  have haccess : (cpu.context .execute).access ≠ .write := by simp [context]
  obtain ⟨log, -, hread⟩ := Mmu.readWord_eq haccess cpu.mmu cpu.regs.eip
  unfold lastHeader code
  rw [hread]
  cases cpu.mmu.peek cpu.regs.eip (cpu.context .execute) with
  | ok header => rfl
  | error t => rfl

def headed (cpu : Cpu) : Cpu :=
  cpu.withHeader cpu.lastHeader

theorem exists_effect_of_cycle_ok (hnext : cpu.nextInstruction? = some i) (hcycle : cycle cpu = .ok true cpu')
    : ∃ e log cpu₁, cpu.headed.snapshot.effect i = .ok e
        ∧ e.writeAll (cpu.headed.withLog log) = .ok () cpu₁
        ∧ cpu' = cpu₁.retire e (cpu.regs.eip.add Instruction.byteSize) := by
  obtain ⟨fetched, hfetch⟩ := fetch_of_nextInstruction? hnext
  obtain ⟨e, log, cpu₁, heffect, hwrite, rfl⟩ := exists_of_cycle_ok hfetch hcycle
  obtain ⟨header, log', hcode, -, rfl⟩ := exists_of_fetch_ok hfetch
  have hheader : cpu.lastHeader = header := by
    rw [lastHeader_eq, hcode]
  unfold headed
  rw [hheader]
  exact ⟨e, log, cpu₁, heffect, hwrite, rfl⟩

theorem exists_entry_of_cycle_ok (hnext : cpu.nextInstruction? = some i) (hi : i.EntersKernel)
    (hcycle : cycle cpu = .ok true cpu')
    : ∃ handler kind vector log cpu₁,
        (cpu.headed.snapshot.enterKernel handler (cpu.regs.eip.add Instruction.byteSize) kind vector).writeAll
            (cpu.headed.withLog log)
          = .ok () cpu₁
          ∧ cpu'.mmu = cpu₁.mmu
          ∧ cpu'.regs
            =
            (cpu.headed.snapshot.enterKernel handler (cpu.regs.eip.add Instruction.byteSize) kind vector).regs := by
  obtain ⟨e, log, cpu₁, heffect, hwrite, rfl⟩ := exists_effect_of_cycle_ok hnext hcycle
  obtain ⟨handler, kind, vector, hform⟩ := Snapshot.effect_of_entersKernel hi cpu.headed.snapshot
  rw [hform] at heffect
  obtain ⟨w, -, heffect⟩ := Outcome.bind_eq_ok_iff.mp heffect
  cases heffect
  exact ⟨handler w, kind, vector w, log, cpu₁, hwrite, rfl, rfl⟩

theorem sameControl_retire (cpu : Cpu) (e : Effect) (next : VirtualAddress)
    : e.regs.SameControl (cpu.retire e next).regs ∧ (cpu.retire e next).regs.eir = e.regs.eir := by
  unfold retire
  dsimp only
  split
  . exact ⟨.refl e.regs, rfl⟩
  . exact ⟨⟨.refl _, rfl, rfl, rfl⟩, rfl⟩

theorem sameControl_withHeader (cpu : Cpu) (header : Word)
    : cpu.regs.SameControl (cpu.withHeader header).regs :=
  ⟨.refl _, rfl, rfl, rfl⟩

/-- A cycle in user mode either keeps what the kernel keeps for itself, or enters the kernel. -/
theorem cycle_of_user (huser : cpu.regs.eflags.isKernel = false)
    : (Action.final (cycle cpu)).regs.eir = cpu.lastHeader
        ∧ (¬cpu.Enters → cpu.regs.SameControl (Action.final (cycle cpu)).regs) := by
  have hstages := stages_cycle cpu
  generalize hresult : cycle cpu = result at hstages
  cases hstages with
  | unfetched hcode =>
    rw [lastHeader_eq, hcode]
    exact ⟨rfl, fun _ => .refl _⟩
  | undecoded hcode =>
    rw [lastHeader_eq, hcode]
    exact ⟨rfl, fun _ => sameControl_withHeader ..⟩
  | halted hcode =>
    rw [lastHeader_eq, hcode]
    exact ⟨rfl, fun _ => sameControl_withHeader ..⟩
  | refused hcode =>
    rw [lastHeader_eq, hcode]
    exact ⟨rfl, fun _ => sameControl_withHeader ..⟩
  | unwritten hcode hdecode heffect hlog hwrite =>
    rw [lastHeader_eq, hcode]
    obtain ⟨mmu, -, rfl⟩ := Effect.exists_of_writeAll_error hwrite
    exact ⟨rfl, fun _ => sameControl_withHeader ..⟩
  | @executed header i e log cpu' hcode hdecode heffect hlog hwrite =>
    rw [lastHeader_eq, hcode]
    have ⟨hretire, hheader⟩ := sameControl_retire cpu' e (cpu.regs.eip.add Instruction.byteSize)
    cases Snapshot.effect_cases heffect with
    | inl hordinary =>
      -- The effect was computed with the new header in its register and keeps it there.
      refine ⟨hheader.trans (hordinary.header huser), ?_⟩
      intro _
      exact (sameControl_withHeader cpu header).trans ((hordinary.control huser).trans hretire)
    | inr henters =>
      obtain ⟨hi, handler, back, kind, vector, rfl⟩ := henters
      refine ⟨hheader, ?_⟩
      intro hnot
      exact absurd ⟨i, _, (nextInstruction?_eq hcode i).mpr hdecode, hi, hresult⟩ hnot

structure Entered (regs regs' : RegisterFile) : Prop where
  level : regs'.eflags.level = 0#2
  interrupts : regs'.eflags.interrupts = false
  nptp : regs'.nptp = regs.nptp
  gptp : regs'.gptp = regs.gptp
  vmptr : regs'.vmptr = regs.vmptr

theorem entered_of_enters (h : cpu.Enters) : Entered cpu.regs (Action.final (cycle cpu)).regs := by
  obtain ⟨i, cpu', hnext, hi, hcycle⟩ := h
  obtain ⟨handler, kind, vector, log, cpu₁, -, -, hregs⟩ := exists_entry_of_cycle_ok hnext hi hcycle
  rw [hcycle]
  show Entered cpu.regs cpu'.regs
  rw [hregs]
  exact ⟨rfl, rfl, rfl, rfl, rfl⟩

theorem sameControl_afterCycles (huser : cpu.regs.eflags.isKernel = false) {n : Nat}
    (hrun : ∀ k < n, ¬(cpu.afterCycles k).Enters)
    : cpu.regs.SameControl (cpu.afterCycles n).regs := by
  induction n with
  | zero => exact .refl cpu.regs
  | succ n ih =>
    have hcontrol : cpu.regs.SameControl (cpu.afterCycles n).regs := by
      apply ih
      intro k hk
      exact hrun k (by omega)
    -- The mode is among what is kept, so that this cycle starts in user mode as well.
    have hstill : (cpu.afterCycles n).regs.eflags.isKernel = false := by
      rw [hcontrol.eflags.isKernel_eq]
      exact huser
    exact hcontrol.trans ((cycle_of_user hstill).2 (hrun n (by omega)))

/--
From a state in user mode and as long as the kernel has not been entered, every state of a run has the
privilege bits, the interrupt flag and the registers of virtualization of the first one, and every cycle
leaves the header that it has fetched in its register. A cycle that enters the kernel clears the
privilege bits and the interrupt flag, and keeps the registers of virtualization as well.
-/
theorem userMode_run {cpu : Cpu} (huser : cpu.regs.eflags.level ≠ 0#2) {n : Nat}
    (hrun : ∀ k < n, ¬(cpu.afterCycles k).Enters)
    : cpu.regs.SameControl (cpu.afterCycles n).regs
        ∧ (cpu.afterCycles (n + 1)).regs.eir = (cpu.afterCycles n).lastHeader
        ∧ ((cpu.afterCycles n).Enters → Entered cpu.regs (cpu.afterCycles (n + 1)).regs) := by
  rw [← Eflags.isKernel_eq_false_iff] at huser
  have hcontrol := sameControl_afterCycles huser hrun
  have hstill : (cpu.afterCycles n).regs.eflags.isKernel = false := by
    rw [hcontrol.eflags.isKernel_eq]
    exact huser
  refine ⟨hcontrol, (cycle_of_user hstill).1, ?_⟩
  intro henters
  have hentered := entered_of_enters henters
  refine ⟨hentered.level, hentered.interrupts, ?_, ?_, ?_⟩
  . exact hentered.nptp.trans hcontrol.nptp
  . exact hentered.gptp.trans hcontrol.gptp
  . exact hentered.vmptr.trans hcontrol.vmptr

def idling : Cpu :=
  loaded { Settings.standard with userMode := true } .zero
    [⟨.nop, .absent, .absent⟩, ⟨.int, ⟨.immediate, .direct, 0⟩, .absent⟩]

theorem userMode_run_idling
    : idling.regs.eflags.level ≠ 0#2
        ∧ (∀ k < 1, ¬(idling.afterCycles k).Enters)
        ∧ (idling.afterCycles 1).Enters
        ∧ idling.regs.SameControl (idling.afterCycles 1).regs
        ∧ Entered idling.regs (idling.afterCycles 2).regs := by
  obtain ⟨huser, hnop, hnext, hcycle⟩
      : idling.regs.eflags.level ≠ 0#2
        ∧ (idling.afterCycles 0).nextInstruction? = some ⟨.nop, .absent, .absent⟩
        ∧ (idling.afterCycles 1).nextInstruction? = some ⟨.int, ⟨.immediate, .direct, 0⟩, .absent⟩
        ∧ Action.outcome (cycle (idling.afterCycles 1)) = .ok true := by
    decide +kernel
  have hrun : ∀ k < 1, ¬(idling.afterCycles k).Enters := by
    rintro k hk ⟨i, cpu', hnext, hi, -⟩
    have hzero : k = 0 := by omega
    subst hzero
    rw [hnop] at hnext
    cases hnext
    exact absurd hi (by decide)
  have henters : (idling.afterCycles 1).Enters :=
    ⟨_, _, hnext, by decide, Action.eq_ok_of_outcome hcycle⟩
  have hrunning := userMode_run huser hrun
  exact ⟨huser, hrun, henters, hrunning.1, hrunning.2.2 henters⟩

end Cpu

end Triword
