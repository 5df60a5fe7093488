import Triword.Proofs.Cpu.Execute

/-!
The ways in which a cycle can go. A cycle reads the header, decodes the instruction, computes its
effect and writes the words of the effect; each of these can fail, and only after the last of them do
registers other than the one of the header change.
-/

namespace Triword

namespace Cpu

variable {cpu : Cpu}

def code (cpu : Cpu) (a : VirtualAddress) : Except Trap Word :=
  cpu.mmu.peek a (cpu.context .execute)

def withHeader (cpu : Cpu) (header : Word) : Cpu :=
  { cpu with regs := { cpu.regs with eir := header } }

def slotOperand (slot : Slot) (word : Except Trap Word) : Except Trap Operand :=
  if slot.kind = .absent then .ok .absent
  else if slot.mode = .indirect ∧ slot.kind ≠ .register then .error .unrecognizedAddressingMode
  else do
    let value ← word
    let operand : Operand := ⟨slot.kind, slot.mode, value⟩
    if operand.kind = .register ∧ operand.register? = none then .error .unrecognizedRegister
    else .ok operand

def instructionAt (cpu : Cpu) (a : VirtualAddress) (header : Word) : Except Trap (Option Instruction) :=
  if header = 0 then .ok none
  else do
    let shape ← Header.decode header >>= Header.resolve
    let first ← slotOperand shape.first (cpu.code (a.add 4))
    let second ← slotOperand shape.second (cpu.code (a.add 8))
    .ok (some ⟨shape.operation, first, second⟩)

def loaded (settings : Settings) (origin : VirtualAddress) (program : List Instruction) : Cpu :=
  Action.final (load ⟨origin, program.flatMap Instruction.encode, .empty⟩ (initial settings))

/-! ### Fetching -/

theorem reads_code (cpu : Cpu) (a : VirtualAddress)
    : Reads (onMmu (Mmu.readWord a (cpu.context .execute))) cpu (cpu.code a) := by
  have haccess : (cpu.context .execute).access ≠ .write := by simp [context]
  exact reads_readWord haccess cpu a

theorem reads_fetchOperand (cpu : Cpu) (a : VirtualAddress) (slot : Slot)
    : Reads (fetchOperand (cpu.context .execute) a slot) cpu (slotOperand slot (cpu.code a)) := by
  unfold fetchOperand slotOperand
  by_cases habsent : slot.kind = .absent
  . rw [if_pos habsent, if_pos habsent]
    exact Reads.ofExcept cpu (.ok Operand.absent)
  . rw [if_neg habsent, if_neg habsent]
    by_cases hindirect : slot.mode = .indirect ∧ slot.kind ≠ .register
    . simp only [if_pos hindirect]
      exact Reads.ofExcept cpu (.error .unrecognizedAddressingMode)
    . simp only [if_neg hindirect]
      apply Reads.bind (reads_code cpu a)
      intro value
      split
      . exact Reads.ofExcept cpu (.error .unrecognizedRegister)
      . exact Reads.ofExcept cpu (.ok _)

theorem reads_instructionAt (cpu : Cpu) (a : VirtualAddress) (header : Word)
    : Reads (do
        if header = 0 then
          return none
        let shape ← ofExcept (Header.decode header >>= Header.resolve)
        let first ← fetchOperand (cpu.context .execute) (a.add 4) shape.first
        let second ← fetchOperand (cpu.context .execute) (a.add 8) shape.second
        return some ⟨shape.operation, first, second⟩) cpu (cpu.instructionAt a header) := by
  unfold instructionAt
  by_cases hzero : header = 0
  . simp only [if_pos hzero]
    exact Reads.ofExcept cpu (.ok none)
  . simp only [if_neg hzero]
    apply Reads.bind (Reads.ofExcept cpu _)
    intro shape
    apply Reads.bind (reads_fetchOperand cpu _ _)
    intro first
    apply Reads.bind (reads_fetchOperand cpu _ _)
    intro second
    exact Reads.ofExcept cpu (.ok _)

theorem fetch_of_error {a : VirtualAddress} {t : Trap} (h : cpu.code a = .error t)
    : ∃ log, cpu.mmu.log.AddsReads log ∧ fetch a cpu = .error t (cpu.withLog log) := by
  obtain ⟨log, hlog, hread⟩ := reads_code cpu a cpu.mmu.log
  refine ⟨log, hlog, ?_⟩
  rw [h] at hread
  unfold fetch
  rw [Action.get_bind_apply]
  exact Action.bind_of_error hread

theorem fetch_of_ok {a : VirtualAddress} {header : Word} (h : cpu.code a = .ok header)
    : ∃ log, cpu.mmu.log.AddsReads log
        ∧ fetch a cpu
          =
          (ofExcept (cpu.instructionAt a header) : Action (Option Instruction))
            ((cpu.withHeader header).withLog log) := by
  obtain ⟨log₁, hlog₁, hread⟩ := reads_code cpu a cpu.mmu.log
  rw [h] at hread
  obtain ⟨log₂, hlog₂, hrest⟩ := reads_instructionAt (cpu.withHeader header) a header log₁
  refine ⟨log₂, hlog₁.trans hlog₂, ?_⟩
  unfold fetch
  rw [Action.get_bind_apply]
  -- Neither the mode nor the tables depend on the header, so the operands are fetched as before.
  exact (Action.bind_of_ok hread).trans hrest

theorem exists_of_fetch_ok {a : VirtualAddress} {i? : Option Instruction} {cpu₁ : Cpu}
    (h : fetch a cpu = .ok i? cpu₁)
    : ∃ header log, cpu.code a = .ok header
        ∧ cpu.instructionAt a header = .ok i?
        ∧ cpu₁ = (cpu.withHeader header).withLog log := by
  cases hcode : cpu.code a with
  | error t =>
    obtain ⟨log, -, hfetch⟩ := fetch_of_error hcode
    rw [hfetch] at h
    cases h
  | ok header =>
    obtain ⟨log, -, hfetch⟩ := fetch_of_ok hcode
    rw [hfetch] at h
    refine ⟨header, log, rfl, ?_⟩
    cases hdecode : cpu.instructionAt a header with
    | error t =>
      rw [hdecode] at h
      cases h
    | ok i?' =>
      rw [hdecode] at h
      cases h
      exact ⟨rfl, rfl⟩

/-! ### Cycles -/

def nextInstruction? (cpu : Cpu) : Option Instruction :=
  match fetch cpu.regs.eip cpu with
  | .ok i? _ => i?
  | .error .. => none

def retire (cpu : Cpu) (e : Effect) (next : VirtualAddress) : Cpu :=
  { cpu with
    regs := if e.jumped then e.regs else { e.regs with eip := next }
    frames := e.frames
    executed := cpu.executed + 1 }

/-- How far a cycle gets, with its result. -/
inductive Stages (cpu : Cpu) : EStateM.Result Trap Cpu Bool → Prop where
  | unfetched {t : Trap} {log : AccessLog} (hcode : cpu.code cpu.regs.eip = .error t)
      (hlog : cpu.mmu.log.AddsReads log) : Stages cpu (.error t (cpu.withLog log))
  | undecoded {header : Word} {t : Trap} {log : AccessLog} (hcode : cpu.code cpu.regs.eip = .ok header)
      (hdecode : cpu.instructionAt cpu.regs.eip header = .error t)
      (hlog : cpu.mmu.log.AddsReads log) : Stages cpu (.error t ((cpu.withHeader header).withLog log))
  | halted {header : Word} {log : AccessLog} (hcode : cpu.code cpu.regs.eip = .ok header)
      (hdecode : cpu.instructionAt cpu.regs.eip header = .ok none)
      (hlog : cpu.mmu.log.AddsReads log) : Stages cpu (.ok false ((cpu.withHeader header).withLog log))
  | refused {header : Word} {i : Instruction} {t : Trap} {log : AccessLog}
      (hcode : cpu.code cpu.regs.eip = .ok header)
      (hdecode : cpu.instructionAt cpu.regs.eip header = .ok (some i))
      (heffect : (cpu.withHeader header).snapshot.effect i = .error t)
      (hlog : cpu.mmu.log.AddsReads log) : Stages cpu (.error t ((cpu.withHeader header).withLog log))
  | unwritten {header : Word} {i : Instruction} {e : Effect} {t : Trap} {log : AccessLog} {cpu' : Cpu}
      (hcode : cpu.code cpu.regs.eip = .ok header)
      (hdecode : cpu.instructionAt cpu.regs.eip header = .ok (some i))
      (heffect : (cpu.withHeader header).snapshot.effect i = .ok e)
      (hlog : cpu.mmu.log.AddsReads log)
      (hwrite : e.writeAll ((cpu.withHeader header).withLog log) = .error t cpu')
      : Stages cpu (.error t cpu')
  | executed {header : Word} {i : Instruction} {e : Effect} {log : AccessLog} {cpu' : Cpu}
      (hcode : cpu.code cpu.regs.eip = .ok header)
      (hdecode : cpu.instructionAt cpu.regs.eip header = .ok (some i))
      (heffect : (cpu.withHeader header).snapshot.effect i = .ok e)
      (hlog : cpu.mmu.log.AddsReads log)
      (hwrite : e.writeAll ((cpu.withHeader header).withLog log) = .ok () cpu')
      : Stages cpu (.ok true (cpu'.retire e (cpu.regs.eip.add Instruction.byteSize)))

theorem nextInstruction?_eq {header : Word} (h : cpu.code cpu.regs.eip = .ok header) (i : Instruction)
    : cpu.nextInstruction? = some i ↔ cpu.instructionAt cpu.regs.eip header = .ok (some i) := by
  obtain ⟨log, -, hfetch⟩ := fetch_of_ok h
  unfold nextInstruction?
  rw [hfetch]
  cases cpu.instructionAt cpu.regs.eip header with
  | error t => simp
  | ok i? => simp

theorem fetch_of_nextInstruction? {i : Instruction} (h : cpu.nextInstruction? = some i)
    : ∃ cpu₁, fetch cpu.regs.eip cpu = .ok (some i) cpu₁ := by
  unfold nextInstruction? at h
  split at h
  . next i? cpu₁ hfetch =>
    rw [h] at hfetch
    exact ⟨cpu₁, hfetch⟩
  . cases h

theorem cycle_of_fetch {i : Instruction} {cpu₁ : Cpu} (h : fetch cpu.regs.eip cpu = .ok (some i) cpu₁)
    : cycle cpu
        =
      (execute i >>= fun jumped => do
        if !jumped then
          modifyRegs fun regs => { regs with eip := cpu.regs.eip.add Instruction.byteSize }
        modify fun cpu => { cpu with executed := cpu.executed + 1 }
        return true : Action Bool) cpu₁ := by
  unfold cycle
  rw [Action.get_bind_apply, Action.bind_of_ok h]

theorem stages_cycle (cpu : Cpu) : Stages cpu (cycle cpu) := by
  cases hcode : cpu.code cpu.regs.eip with
  | error t =>
    obtain ⟨log, hlog, hfetch⟩ := fetch_of_error hcode
    have hcycle : cycle cpu = .error t (cpu.withLog log) := by
      unfold cycle
      rw [Action.get_bind_apply, Action.bind_of_error hfetch]
    rw [hcycle]
    exact .unfetched hcode hlog
  | ok header =>
    obtain ⟨log, hlog, hfetch⟩ := fetch_of_ok hcode
    cases hdecode : cpu.instructionAt cpu.regs.eip header with
    | error t =>
      rw [hdecode] at hfetch
      have hcycle : cycle cpu = .error t ((cpu.withHeader header).withLog log) := by
        unfold cycle
        rw [Action.get_bind_apply, Action.bind_of_error hfetch]
      rw [hcycle]
      exact .undecoded hcode hdecode hlog
    | ok i? =>
      rw [hdecode] at hfetch
      cases i? with
      | none =>
        have hcycle : cycle cpu = .ok false ((cpu.withHeader header).withLog log) := by
          unfold cycle
          rw [Action.get_bind_apply, Action.bind_of_ok hfetch]
          rfl
        rw [hcycle]
        exact .halted hcode hdecode hlog
      | some i =>
        rw [cycle_of_fetch hfetch]
        -- From here on the cycle is that of the effect.
        obtain ⟨log', hlog', hexecute⟩ := settles_execute (cpu.withHeader header) i log
        cases heffect : (cpu.withHeader header).snapshot.effect i with
        | error t =>
          rw [heffect] at hexecute
          rw [Action.bind_of_error hexecute]
          exact .refused hcode hdecode heffect (hlog.trans hlog')
        | ok e =>
          rw [heffect] at hexecute
          replace hexecute : execute i ((cpu.withHeader header).withLog log)
              = e.commit ((cpu.withHeader header).withLog log') := hexecute
          cases hwrite : e.writeAll ((cpu.withHeader header).withLog log') with
          | error t cpu' =>
            rw [Effect.commit_of_error hwrite] at hexecute
            rw [Action.bind_of_error hexecute]
            exact .unwritten hcode hdecode heffect (hlog.trans hlog') hwrite
          | ok u cpu' =>
            rw [Effect.commit_of_ok hwrite] at hexecute
            rw [Action.bind_of_ok hexecute]
            have hretire := Stages.executed hcode hdecode heffect (hlog.trans hlog') hwrite
            unfold retire at hretire
            cases hjumped : e.jumped with
            | true =>
              rw [hjumped] at hretire
              exact hretire
            | false =>
              rw [hjumped] at hretire
              exact hretire

/-- A cycle that succeeds has written the words of an effect of its instruction and retired it. -/
theorem exists_of_cycle_ok {i : Instruction} {fetched cpu' : Cpu}
    (hfetch : fetch cpu.regs.eip cpu = .ok (some i) fetched) (hcycle : cycle cpu = .ok true cpu')
    : ∃ e log cpu₁, fetched.snapshot.effect i = .ok e
        ∧ e.writeAll (fetched.withLog log) = .ok () cpu₁
        ∧ cpu' = cpu₁.retire e (cpu.regs.eip.add Instruction.byteSize) := by
  obtain ⟨header, log, hcode, hdecode, rfl⟩ := exists_of_fetch_ok hfetch
  have hstages := stages_cycle cpu
  rw [hcycle] at hstages
  cases hstages with
  | executed hcode' hdecode' heffect hlog hwrite =>
    rw [hcode] at hcode'
    cases hcode'
    rw [hdecode] at hdecode'
    cases hdecode'
    exact ⟨_, _, _, heffect, hwrite, rfl⟩

end Cpu

end Triword
