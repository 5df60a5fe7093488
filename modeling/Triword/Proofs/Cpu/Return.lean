import Triword.Proofs.Address
import Triword.Proofs.Cpu.UserMode

/-!
Entering the kernel and coming back. An entry pushes the flags and a return address; whatever has run since,
a return that finds the two words where the entry has left them resumes what was interrupted, with the stack
pointer and the status flags that it had.
-/

namespace Triword

def Instruction.LeavesKernel (i : Instruction) : Prop :=
  i.operation = .iret ∨ i.operation = .sysexit

instance (i : Instruction) : Decidable i.LeavesKernel :=
  inferInstanceAs (Decidable (_ ∨ _))

namespace Eflags

theorem ofByte_toByte (f : Eflags) : ofByte f.toByte = f := by
  obtain ⟨level, interrupts, carry, parity, zero, sign, overflow⟩ := f
  revert level interrupts carry parity zero sign overflow
  decide +kernel

theorem lowByte_toWord (f : Eflags) : Bits.lowByte f.toWord = f.toByte := by
  unfold Bits.lowByte toWord
  rw [BitVec.setWidth_setWidth_of_le _ (by decide), BitVec.setWidth_eq]

end Eflags

namespace Cpu

variable {cpu entered later left : Cpu} {i : Instruction} {e : Effect} {header : Word}
variable {back : VirtualAddress}

theorem slotAbove_slotBelow (a : VirtualAddress) : slotAbove (slotBelow a) = a := by
  have hword : (slotAbove (slotBelow a)).word = a.word := by
    unfold slotAbove slotBelow
    rw [Address.word_add, Address.word_offset, Adder.negate_eq_neg]
    bv_omega
  exact congrArg Address.mk hword

/-! ### Cycles without writes -/

theorem exists_cycle_of_writes_nil (hcode : cpu.code cpu.regs.eip = .ok header)
    (hdecode : cpu.instructionAt cpu.regs.eip header = .ok (some i))
    (heffect : (cpu.withHeader header).snapshot.effect i = .ok e) (hwrites : e.writes = [])
    : ∃ log, cycle cpu
        =
      .ok true (((cpu.withHeader header).withLog log).retire e (cpu.regs.eip.add Instruction.byteSize)) := by
  obtain ⟨log₁, -, hfetch⟩ := fetch_of_ok hcode
  rw [hdecode] at hfetch
  obtain ⟨log₂, -, hexecute⟩ := settles_execute (cpu.withHeader header) i log₁
  rw [heffect] at hexecute
  have hwriteAll : e.writeAll ((cpu.withHeader header).withLog log₂)
      = .ok () ((cpu.withHeader header).withLog log₂) := by
    unfold Effect.writeAll
    rw [hwrites]
    rfl
  replace hexecute := hexecute.trans (Effect.commit_of_ok hwriteAll)
  refine ⟨log₂, ?_⟩
  rw [cycle_of_fetch hfetch, Action.bind_of_ok hexecute]
  unfold retire
  cases e.jumped <;> rfl

/-! ### Entries -/

/--
The machine has gone to a handler that is to return to `back`: below the stack pointer it has pushed the flags
and, below them, that address.
-/
structure Interrupted (cpu entered : Cpu) (back : VirtualAddress) : Prop where
  esp : entered.regs.esp = slotBelow (slotBelow cpu.regs.esp)
  pushed : ∃ log,
    Mmu.writeAll [(slotBelow cpu.regs.esp, cpu.regs.eflags.toWord), (entered.regs.esp, back.word)]
        (cpu.kernelContext .write) (cpu.mmu.withLog log)
      =
    .ok () entered.mmu

theorem interrupted_of_writeAll {handler : VirtualAddress} {kind : FrameKind} {vector : Option Word} {cpu' : Cpu}
    (hwrite : (cpu.snapshot.enterKernel handler back kind vector).writeAll cpu = .ok () cpu')
    (hregs : entered.regs = (cpu.snapshot.enterKernel handler back kind vector).regs)
    (hmmu : entered.mmu = cpu'.mmu) : cpu.Interrupted entered back := by
  obtain ⟨mmu, hwrites, rfl⟩ := Effect.exists_of_writeAll_ok hwrite
  have hesp : entered.regs.esp = slotBelow (slotBelow cpu.regs.esp) := by
    rw [hregs]
    rfl
  refine ⟨hesp, cpu.mmu.log, ?_⟩
  rw [hesp, hmmu]
  exact hwrites

theorem interrupted_of_cycle (hnext : cpu.nextInstruction? = some i) (hi : i.EntersKernel)
    (hcycle : cycle cpu = .ok true entered)
    : cpu.Interrupted entered (cpu.regs.eip.add Instruction.byteSize) := by
  obtain ⟨handler, kind, vector, log, cpu₁, hwrite, hmmu, hregs⟩ := exists_entry_of_cycle_ok hnext hi hcycle
  -- Neither the header nor the log is pushed.
  have hinterrupted : (cpu.headed.withLog log).Interrupted entered (cpu.regs.eip.add Instruction.byteSize) :=
    interrupted_of_writeAll hwrite hregs hmmu
  exact ⟨hinterrupted.esp, hinterrupted.pushed⟩

theorem interrupted_of_interrupt {vector : Word} (h : interrupt vector cpu = .ok () entered)
    : cpu.Interrupted entered cpu.regs.eip := by
  obtain ⟨cpu₁, hwrite, rfl⟩ := exists_of_interrupt_ok h
  exact interrupted_of_writeAll hwrite rfl rfl

/-! ### Returns -/

/--
The machine has gone on at `back` where it was interrupted, in user mode and with interrupts enabled. If that is
what it was in, it has all of its flags again.
-/
structure Resumed (cpu left : Cpu) (back : VirtualAddress) : Prop where
  eip : left.regs.eip = back
  esp : left.regs.esp = cpu.regs.esp
  eflags : left.regs.eflags = { cpu.regs.eflags.enterUser with interrupts := true }
  restored : cpu.regs.eflags.level = 0b11#2 → cpu.regs.eflags.interrupts → left.regs.eflags = cpu.regs.eflags

theorem resumed_of_regs (heip : left.regs.eip = back) (hesp : left.regs.esp = cpu.regs.esp)
    (heflags : left.regs.eflags = { cpu.regs.eflags.enterUser with interrupts := true })
    : cpu.Resumed left back := by
  refine ⟨heip, hesp, heflags, ?_⟩
  intro hlevel hinterrupts
  rw [heflags, Eflags.enterUser, ← hlevel, ← hinterrupts]

structure Finds (cpu : Cpu) (top below : Word) : Prop where
  top : Action.outcome (readMemory cpu.regs.esp cpu) = .ok top
  below : Action.outcome (readMemory (slotAbove cpu.regs.esp) cpu) = .ok below

theorem effect_of_leavesKernel {s : Snapshot} {top below : Word} (hi : i.LeavesKernel)
    (hkernel : s.regs.eflags.isKernel) (htop : s.word s.regs.esp = .ok top)
    (hbelow : s.word (slotAbove s.regs.esp) = .ok below)
    : ∃ e, s.effect i = .ok e
        ∧ e.writes = []
        ∧ e.jumped = true
        ∧ e.regs = { s.regs with
            eip := ⟨top⟩
            esp := slotAbove (slotAbove s.regs.esp)
            eflags := { (Eflags.ofByte (Bits.lowByte below)).enterUser with interrupts := true } } := by
  have hleave : s.effect i = s.requireKernel >>= fun _ => s.leaveKernel := by
    unfold Snapshot.effect
    cases hi with
    | inl hiret => rw [hiret]
    | inr hsysexit => rw [hsysexit]
  rw [hleave]
  unfold Snapshot.requireKernel Snapshot.leaveKernel
  dsimp only
  rw [if_pos hkernel, htop, hbelow]
  exact ⟨_, rfl, rfl, rfl, rfl⟩

/-- A return that finds the words that the entry has pushed succeeds, and undoes the entry. -/
theorem resumed_of_finds (hentered : cpu.Interrupted entered back) (hnext : later.nextInstruction? = some i)
    (hi : i.LeavesKernel) (hkernel : later.regs.eflags.isKernel) (hesp : later.regs.esp = entered.regs.esp)
    (hfinds : later.Finds back.word cpu.regs.eflags.toWord)
    : ∃ left, cycle later = .ok true left ∧ cpu.Resumed left back := by
  obtain ⟨fetched, hfetch⟩ := fetch_of_nextInstruction? hnext
  obtain ⟨header, log, hcode, hdecode, -⟩ := exists_of_fetch_ok hfetch
  have htop := hfinds.top
  have hbelow := hfinds.below
  rw [(reads_readMemory later _).outcome] at htop hbelow
  obtain ⟨e, heffect, hwrites, hjumped, hregs⟩ :=
    effect_of_leavesKernel (s := (later.withHeader header).snapshot) hi hkernel htop hbelow
  obtain ⟨log', hcycle⟩ := exists_cycle_of_writes_nil hcode hdecode heffect hwrites
  refine ⟨_, hcycle, ?_⟩
  unfold retire
  rw [hjumped, hregs]
  apply resumed_of_regs
  . rfl
  . show slotAbove (slotAbove later.regs.esp) = cpu.regs.esp
    rw [hesp, hentered.esp, slotAbove_slotBelow, slotAbove_slotBelow]
  . show ({ (Eflags.ofByte (Bits.lowByte cpu.regs.eflags.toWord)).enterUser with interrupts := true } : Eflags) = _
    rw [Eflags.lowByte_toWord, Eflags.ofByte_toByte]

/--
The machine can be resumed at `back`: from whatever state of kernel mode in which the stack pointer is where the
entry has left it and the two words that were pushed are found there, an instruction that leaves the kernel
succeeds and resumes it.
-/
structure Resumable (cpu entered : Cpu) (back : VirtualAddress) : Prop where
  interrupted : cpu.Interrupted entered back
  resumed : ∀ later i, later.nextInstruction? = some i → i.LeavesKernel
    → later.regs.eflags.isKernel
    → later.regs.esp = entered.regs.esp
    → later.Finds back.word cpu.regs.eflags.toWord
    → ∃ left, cycle later = .ok true left ∧ cpu.Resumed left back

theorem resumable_of_interrupted (h : cpu.Interrupted entered back) : cpu.Resumable entered back where
  interrupted := h
  resumed _ _ hnext hi hkernel hesp hfinds := resumed_of_finds h hnext hi hkernel hesp hfinds

/--
An instruction that enters the kernel can be returned behind, and an interrupt from outside can be returned to
the instruction that was next.
-/
theorem resumable_of_entry (cpu : Cpu)
    : (∀ i entered, cpu.nextInstruction? = some i → i.EntersKernel → cycle cpu = .ok true entered
          → cpu.Resumable entered (cpu.regs.eip.add Instruction.byteSize))
        ∧ (∀ vector entered, interrupt vector cpu = .ok () entered → cpu.Resumable entered cpu.regs.eip) := by
  constructor
  . intro i entered hnext hi hcycle
    exact resumable_of_interrupted (interrupted_of_cycle hnext hi hcycle)
  . intro vector entered h
    exact resumable_of_interrupted (interrupted_of_interrupt h)

/-- A program in user mode that raises an interrupt. Its handler moves a word before it returns. -/
def raising : Cpu :=
  let cpu := loaded { Settings.standard with userMode := true } .zero
    [⟨.int, ⟨.immediate, .direct, 24⟩, .absent⟩, ⟨.nop, .absent, .absent⟩,
      ⟨.mov, ⟨.immediate, .direct, 1⟩, ⟨.register, .direct, Register.eax.code⟩⟩, ⟨.iret, .absent, .absent⟩]
  { cpu with regs := { cpu.regs with eflags := { cpu.regs.eflags with interrupts := true } } }

/-- The same machine in its handler, about to return, once the interrupt has been raised from outside. -/
def handling : Cpu :=
  Action.final (cycle (Action.final (interrupt 24 raising)))

theorem raising_handles
    : (raising.nextInstruction? = some ⟨.int, ⟨.immediate, .direct, 24⟩, .absent⟩
          ∧ Action.outcome (cycle raising) = .ok true
          ∧ (raising.afterCycles 2).nextInstruction? = some ⟨.iret, .absent, .absent⟩
          ∧ (raising.afterCycles 2).regs.eflags.isKernel
          ∧ (raising.afterCycles 2).regs.esp = (Action.final (cycle raising)).regs.esp
          ∧ Action.outcome (readMemory (raising.afterCycles 2).regs.esp (raising.afterCycles 2))
            = .ok (raising.regs.eip.add Instruction.byteSize).word
          ∧ Action.outcome (readMemory (slotAbove (raising.afterCycles 2).regs.esp) (raising.afterCycles 2))
            = .ok raising.regs.eflags.toWord)
        ∧ (Action.outcome (interrupt 24 raising) = .ok ()
          ∧ handling.nextInstruction? = some ⟨.iret, .absent, .absent⟩
          ∧ handling.regs.eflags.isKernel
          ∧ handling.regs.esp = (Action.final (interrupt 24 raising)).regs.esp
          ∧ Action.outcome (readMemory handling.regs.esp handling) = .ok raising.regs.eip.word
          ∧ Action.outcome (readMemory (slotAbove handling.regs.esp) handling) = .ok raising.regs.eflags.toWord)
        ∧ raising.regs.eflags.level = 0b11#2
        ∧ raising.regs.eflags.interrupts := by
  decide +kernel

theorem resumable_of_raising
    : (∃ left, cycle (raising.afterCycles 2) = .ok true left
          ∧ left.regs.eip = raising.regs.eip.add Instruction.byteSize
          ∧ left.regs.esp = raising.regs.esp
          ∧ left.regs.eflags = raising.regs.eflags)
        ∧ (∃ left, cycle handling = .ok true left
          ∧ left.regs.eip = raising.regs.eip
          ∧ left.regs.esp = raising.regs.esp
          ∧ left.regs.eflags = raising.regs.eflags) := by
  obtain ⟨⟨hint, hraised, hiret, hkernel, hesp, htop, hbelow⟩, hinterrupt, hlevel, henabled⟩ := raising_handles
  obtain ⟨hraised', hiret', hkernel', hesp', htop', hbelow'⟩ := hinterrupt
  obtain ⟨hcycle, houtside⟩ := resumable_of_entry raising
  constructor
  . have hresumable := hcycle _ _ hint (by decide) (Action.eq_ok_of_outcome hraised)
    obtain ⟨left, hleft, hresumed⟩ := hresumable.resumed _ _ hiret (by decide) hkernel hesp ⟨htop, hbelow⟩
    exact ⟨left, hleft, hresumed.eip, hresumed.esp, hresumed.restored hlevel henabled⟩
  . have hresumable := houtside _ _ (Action.eq_ok_of_outcome hraised')
    obtain ⟨left, hleft, hresumed⟩ := hresumable.resumed _ _ hiret' (by decide) hkernel' hesp' ⟨htop', hbelow'⟩
    exact ⟨left, hleft, hresumed.eip, hresumed.esp, hresumed.restored hlevel henabled⟩

end Cpu

end Triword
