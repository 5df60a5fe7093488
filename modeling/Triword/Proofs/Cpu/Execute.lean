import Triword.Proofs.Cpu.Commit

/-!
Every instruction first reads all that it needs and then commits its effect: it writes the words of the
effect and, once that has succeeded, changes registers and calls.
-/

namespace Triword

namespace Cpu

variable {α β : Type} {cpu : Cpu}

def withLog (cpu : Cpu) (log : AccessLog) : Cpu :=
  { cpu with mmu := cpu.mmu.withLog log }

theorem regs_withLog (cpu : Cpu) (log : AccessLog) : (cpu.withLog log).regs = cpu.regs := rfl

def snapshot (cpu : Cpu) : Snapshot :=
  ⟨cpu.regs, cpu.frames, fun a => cpu.mmu.peek a (cpu.context .read)⟩

/-! ### Actions that read, and actions that read and then commit -/

/-- From this machine, whatever its log, the action changes nothing but the log and has the outcome `p`. -/
def Reads (x : Action α) (cpu : Cpu) (p : Except Trap α) : Prop :=
  ∀ log, ∃ log', log.AddsReads log'
    ∧ x (cpu.withLog log) = (ofExcept p : Action α) (cpu.withLog log')

/-- From this machine, whatever its log, the action reads and then commits the effect `p`. -/
def Settles (x : Action Bool) (cpu : Cpu) (p : Except Trap Effect) : Prop :=
  ∀ log, ∃ log', log.AddsReads log'
    ∧ x (cpu.withLog log) = (ofExcept p >>= Effect.commit : Action Bool) (cpu.withLog log')

theorem Reads.outcome {x : Action α} {p : Except Trap α} (h : Reads x cpu p)
    : Action.outcome (x cpu) = p := by
  obtain ⟨log, -, hx⟩ := h cpu.mmu.log
  replace hx : x cpu = (ofExcept p : Action α) (cpu.withLog log) := hx
  rw [hx]
  cases p <;> rfl

theorem Reads.ofExcept (cpu : Cpu) (p : Except Trap α) : Reads (ofExcept p) cpu p := by
  intro log
  exact ⟨log, .refl log, rfl⟩

theorem Reads.bind {x : Action α} {f : α → Action β} {p : Except Trap α} {q : α → Except Trap β}
    (hx : Reads x cpu p) (hf : ∀ a, Reads (f a) cpu (q a)) : Reads (x >>= f) cpu (p >>= q) := by
  intro log
  obtain ⟨log₁, hlog₁, hx⟩ := hx log
  cases p with
  | error e => exact ⟨log₁, hlog₁, Action.bind_of_error hx⟩
  | ok a =>
    obtain ⟨log₂, hlog₂, hf⟩ := hf a log₁
    exact ⟨log₂, hlog₁.trans hlog₂, (Action.bind_of_ok hx).trans hf⟩

theorem Settles.bind {x : Action α} {f : α → Action Bool} {p : Except Trap α}
    {q : α → Except Trap Effect} (hx : Reads x cpu p) (hf : ∀ a, Settles (f a) cpu (q a))
    : Settles (x >>= f) cpu (p >>= q) := by
  intro log
  obtain ⟨log₁, hlog₁, hx⟩ := hx log
  cases p with
  | error e => exact ⟨log₁, hlog₁, Action.bind_of_error hx⟩
  | ok a =>
    obtain ⟨log₂, hlog₂, hf⟩ := hf a log₁
    exact ⟨log₂, hlog₁.trans hlog₂, (Action.bind_of_ok hx).trans hf⟩

theorem Settles.of_commit {x : Action Bool} {e : Effect}
    (h : ∀ log, x (cpu.withLog log) = e.commit (cpu.withLog log)) : Settles x cpu (.ok e) := by
  intro log
  exact ⟨log, .refl log, h log⟩

theorem Settles.of_error {x : Action Bool} {t : Trap}
    (h : ∀ log, x (cpu.withLog log) = .error t (cpu.withLog log)) : Settles x cpu (.error t) := by
  intro log
  exact ⟨log, .refl log, h log⟩

/-- What an action does with the registers that it gets does not depend on the log. -/
theorem Settles.of_eq {x y : Action Bool} {p : Except Trap Effect} (hy : Settles y cpu p)
    (h : ∀ log, x (cpu.withLog log) = y (cpu.withLog log)) : Settles x cpu p := by
  intro log
  obtain ⟨log', hlog', hy⟩ := hy log
  exact ⟨log', hlog', (h log).trans hy⟩

theorem Reads.of_eq {x y : Action α} {p : Except Trap α} (hy : Reads y cpu p)
    (h : ∀ log, x (cpu.withLog log) = y (cpu.withLog log)) : Reads x cpu p := by
  intro log
  obtain ⟨log', hlog', hy⟩ := hy log
  exact ⟨log', hlog', (h log).trans hy⟩

/-! ### Operands -/

theorem reads_readWord {ctx : AccessContext} (haccess : ctx.access ≠ .write) (cpu : Cpu)
    (a : VirtualAddress) : Reads (onMmu (Mmu.readWord a ctx)) cpu (cpu.mmu.peek a ctx) := by
  intro log
  obtain ⟨log', hlog', h⟩ := Mmu.readWord_eq haccess (cpu.mmu.withLog log) a
  refine ⟨log', hlog', ?_⟩
  have hpeek : (cpu.mmu.withLog log).peek a ctx = cpu.mmu.peek a ctx := rfl
  rw [hpeek] at h
  cases hp : cpu.mmu.peek a ctx with
  | error t =>
    rw [hp] at h
    exact onMmu_of_error h
  | ok w =>
    rw [hp] at h
    exact onMmu_of_ok h

theorem reads_readMemory (cpu : Cpu) (a : VirtualAddress)
    : Reads (readMemory a) cpu (cpu.snapshot.word a) := by
  have haccess : (cpu.context .read).access ≠ .write := by simp [context]
  apply Reads.of_eq (reads_readWord haccess cpu a)
  intro log
  rfl

theorem reads_loadPlace (cpu : Cpu) (p : Place) : Reads (loadPlace p) cpu (cpu.snapshot.placeValue p) := by
  cases p with
  | register r =>
    apply Reads.of_eq (Reads.ofExcept cpu (.ok (cpu.regs.read r)))
    intro log
    rfl
  | memory a => exact reads_readMemory cpu a

theorem reads_locate (cpu : Cpu) (o : Operand)
    : Reads (do ofExcept (locate (← get).regs o)) cpu (locate cpu.regs o) := by
  apply Reads.of_eq (Reads.ofExcept cpu (locate cpu.regs o))
  intro log
  rfl

theorem reads_readOperand (cpu : Cpu) (o : Operand)
    : Reads (readOperand o) cpu (cpu.snapshot.operandValue o) := by
  unfold readOperand Snapshot.operandValue
  cases o.kind with
  | absent => exact Reads.ofExcept cpu (.error .missingOperand)
  | immediate => exact Reads.ofExcept cpu (.ok o.value)
  | label => exact Reads.ofExcept cpu (.ok o.value)
  | register => exact (reads_locate cpu o).bind (reads_loadPlace cpu)
  | memory => exact (reads_locate cpu o).bind (reads_loadPlace cpu)

theorem reads_requireKernel (cpu : Cpu) : Reads requireKernel cpu cpu.snapshot.requireKernel := by
  apply Reads.of_eq (Reads.ofExcept cpu cpu.snapshot.requireKernel)
  intro log
  show (if !cpu.regs.eflags.isKernel then throw .privilegeViolation else pure () : Action Unit) _ = _
  unfold Snapshot.requireKernel
  show _ = (ofExcept (if cpu.regs.eflags.isKernel then .ok () else .error .privilegeViolation) :
    Action Unit) _
  cases cpu.regs.eflags.isKernel <;> rfl

/-! ### Effects of one form -/

theorem settles_write {k : Action Bool} {e : Effect} {a : VirtualAddress} {w : Word}
    (hwrites : e.writes = [(a, w)]) (hprivilege : e.privilege = cpu.regs.eflags.privilege)
    (hk : ∀ mmu, k { cpu with mmu }
        = .ok e.jumped { cpu with mmu, regs := e.regs, frames := e.frames })
    : Settles (writeMemory a w >>= fun _ => k) cpu (.ok e) := by
  apply Settles.of_commit
  intro log
  have hcontext : e.context (cpu.withLog log) = (cpu.withLog log).context .write := by
    unfold Effect.context
    rw [hprivilege]
    rfl
  have hwriteAll : e.writeAll (cpu.withLog log) = writeMemory a w (cpu.withLog log) := by
    simp only [Effect.writeAll, writeMemory, hwrites, hcontext, Action.get_bind_apply,
      Action.forM_cons, Action.forM_nil]
    exact congrFun (bind_pure _) _
  have hcommit : e.commit (cpu.withLog log) = (e.writeAll >>= fun _ => k) (cpu.withLog log) :=
    Effect.commit_eq_bind hk
  rw [hcommit]
  exact Action.bind_congr_apply hwriteAll.symm

/-- Registers that change once the effect has been committed might as well change with it. -/
theorem Settles.modifyRegs {x : Action Bool} {p : Except Trap Effect} (hx : Settles x cpu p)
    (f : RegisterFile → RegisterFile)
    : Settles (x >>= fun jumped => Cpu.modifyRegs f >>= fun _ => pure jumped) cpu
        (p >>= fun e => .ok { e with regs := f e.regs }) := by
  intro log
  obtain ⟨log', hlog', hx⟩ := hx log
  refine ⟨log', hlog', ?_⟩
  cases p with
  | error t => exact Action.bind_of_error hx
  | ok e =>
    show _ = Effect.commit { e with regs := f e.regs } (cpu.withLog log')
    replace hx : x (cpu.withLog log) = e.commit (cpu.withLog log') := hx
    have hwriteAll : Effect.writeAll { e with regs := f e.regs } = e.writeAll := rfl
    cases hwrite : e.writeAll (cpu.withLog log') with
    | error t cpu' =>
      rw [Effect.commit_of_error hwrite] at hx
      rw [Action.bind_of_error hx]
      rw [← hwriteAll] at hwrite
      rw [Effect.commit_of_error hwrite]
    | ok u cpu' =>
      rw [Effect.commit_of_ok hwrite] at hx
      rw [Action.bind_of_ok hx]
      rw [← hwriteAll] at hwrite
      rw [Effect.commit_of_ok hwrite]
      rfl

theorem storePlace_register (r : Register) (w : Word) (flags : Eflags) (cpu : Cpu)
    : storePlace (.register r) w flags cpu
        =
      (if mayWrite cpu.regs.eflags r w then do
        modifyRegs fun regs => { regs with eflags := flags }.write r w
        return r == .eip
      else throw .registerNotWritable : Action Bool) cpu := by
  simp only [storePlace, Action.get_bind_apply]
  cases mayWrite cpu.regs.eflags r w <;> rfl

theorem settles_storePlace (cpu : Cpu) (p : Place) (w : Word) (flags : Eflags)
    : Settles (storePlace p w flags) cpu (cpu.snapshot.store p w flags) := by
  cases p with
  | memory a =>
    apply settles_write rfl rfl
    intro mmu
    rfl
  | register r =>
    have hflags : cpu.snapshot.regs.eflags = cpu.regs.eflags := rfl
    unfold Snapshot.store
    dsimp only
    rw [hflags]
    split
    . next hwrite =>
      apply Settles.of_commit
      intro log
      rw [storePlace_register, regs_withLog, if_pos hwrite]
      rfl
    . next hwrite =>
      apply Settles.of_error
      intro log
      rw [storePlace_register, regs_withLog, if_neg hwrite]
      rfl

theorem settles_binary (cpu : Cpu) (i : Instruction)
    (f : Eflags → Word → Word → Except Trap (Flagged Word))
    : Settles (binary i f) cpu (cpu.snapshot.binary i f) := by
  apply Settles.bind (reads_locate cpu i.second)
  intro place
  apply Settles.bind (reads_readOperand cpu i.first)
  intro source
  apply Settles.bind (reads_loadPlace cpu place)
  intro target
  have hf : Reads (do ofExcept (f (← get).regs.eflags target source)) cpu
      (f cpu.regs.eflags target source) := by
    apply Reads.of_eq (Reads.ofExcept cpu _)
    intro log
    rfl
  apply Settles.bind hf
  rintro ⟨result, flags⟩
  exact settles_storePlace cpu place result flags

theorem settles_unary (cpu : Cpu) (i : Instruction) (f : Eflags → Word → Flagged Word)
    : Settles (unary i f) cpu (cpu.snapshot.unary i f) := by
  apply Settles.bind (reads_locate cpu i.first)
  intro place
  apply Settles.bind (reads_loadPlace cpu place)
  intro target
  apply Settles.of_eq (settles_storePlace cpu place _ _)
  intro log
  rfl

theorem settles_popOperand (cpu : Cpu) (i : Instruction)
    : Settles (popOperand i) cpu (cpu.snapshot.popOperand i) := by
  let slot := cpu.regs.esp
  apply Settles.of_eq (y := readMemory slot >>= fun w => do
    let place ← ofExcept (locate (← get).regs i.first)
    let jumped ← storePlace place w (← get).regs.eflags
    if place ≠ .register .esp then
      modifyRegs fun regs => { regs with esp := slotAbove slot }
    return jumped)
  . apply Settles.bind (reads_readMemory cpu slot)
    intro w
    apply Settles.bind (reads_locate cpu i.first)
    intro place
    apply Settles.of_eq (Settles.modifyRegs (settles_storePlace cpu place w cpu.regs.eflags)
      fun regs => if place ≠ .register .esp then { regs with esp := slotAbove slot } else regs)
    intro log
    by_cases hplace : place = .register .esp
    . simp only [hplace, ne_eq, not_true_eq_false, ↓reduceIte]
      rfl
    . simp only [hplace, ne_eq, not_false_eq_true, ↓reduceIte]
      rfl
  . intro log
    rfl

theorem settles_jumpIf (cpu : Cpu) (i : Instruction) (condition : Eflags → Bool)
    : Settles (jumpIf i condition) cpu (cpu.snapshot.jumpIf i condition) := by
  apply Settles.bind (reads_readOperand cpu i.first)
  intro target
  apply Settles.of_commit
  intro log
  show (if condition cpu.regs.eflags then do
      modifyRegs fun regs => { regs with eip := ⟨target⟩ }
      return condition cpu.regs.eflags
    else return condition cpu.regs.eflags : Action Bool) (cpu.withLog log)
    = .ok (condition cpu.regs.eflags) { cpu.withLog log with
        regs := if condition cpu.regs.eflags then { cpu.regs with eip := ⟨target⟩ } else cpu.regs }
  cases condition cpu.regs.eflags <;> rfl

theorem settles_push (cpu : Cpu) (w : Word) {k : Action Bool} {e : Effect}
    (hwrites : e.writes = [(slotBelow cpu.regs.esp, w)])
    (hprivilege : e.privilege = cpu.regs.eflags.privilege)
    (hk : ∀ mmu, k { cpu with mmu, regs := { cpu.regs with esp := slotBelow cpu.regs.esp } }
        = .ok e.jumped { cpu with mmu, regs := e.regs, frames := e.frames })
    : Settles (push w >>= fun _ => k) cpu (.ok e) := by
  apply Settles.of_eq (settles_write (k := do
    modifyRegs fun regs => { regs with esp := slotBelow cpu.regs.esp }
    k) hwrites hprivilege hk)
  intro log
  simp only [push, bind_assoc, Action.get_bind_apply, regs_withLog]

theorem settles_call (cpu : Cpu) (i : Instruction) : Settles (call i) cpu (cpu.snapshot.call i) := by
  let caller := cpu.regs.eip
  apply Settles.of_eq (y := readOperand i.first >>= fun target => do
    push (caller.add Instruction.byteSize).word
    modifyRegs fun regs => { regs with eip := ⟨target⟩ }
    let stackPointer := (← get).regs.esp
    modifyFrames (·.push ⟨caller, ⟨target⟩, none, .subroutine, stackPointer⟩)
    return true)
  . apply Settles.bind (reads_readOperand cpu i.first)
    intro target
    apply settles_push cpu _ rfl rfl
    intro mmu
    rfl
  . intro log
    rfl

theorem settles_become {k : Action Bool} {e : Effect} (hwrites : e.writes = [])
    (hk : ∀ mmu, k { cpu with mmu }
        = .ok e.jumped { cpu with mmu, regs := e.regs, frames := e.frames })
    : Settles k cpu (.ok e) := by
  apply Settles.of_commit
  intro log
  have hwriteAll : e.writeAll (cpu.withLog log) = .ok () (cpu.withLog log) := by
    unfold Effect.writeAll
    rw [hwrites]
    rfl
  rw [Effect.commit_of_ok hwriteAll]
  exact hk (cpu.mmu.withLog log)

theorem settles_pop (cpu : Cpu) {k : Word → Action Bool} {e : Word → Effect}
    (hwrites : ∀ w, (e w).writes = [])
    (hk : ∀ w mmu, k w { cpu with mmu, regs := { cpu.regs with esp := slotAbove cpu.regs.esp } }
        = .ok (e w).jumped { cpu with mmu, regs := (e w).regs, frames := (e w).frames })
    : Settles (pop >>= k) cpu (cpu.snapshot.word cpu.regs.esp >>= fun w => .ok (e w)) := by
  let slot := cpu.regs.esp
  apply Settles.of_eq (y := readMemory slot >>= fun w => do
    modifyRegs fun regs => { regs with esp := slotAbove slot }
    k w)
  . apply Settles.bind (reads_readMemory cpu slot)
    intro w
    exact settles_become (hwrites w) (hk w)
  . intro log
    simp only [pop, bind_assoc, pure_bind, Action.get_bind_apply, regs_withLog, slot]

theorem settles_ret (cpu : Cpu) : Settles ret cpu cpu.snapshot.ret := by
  apply settles_pop
  . intro w
    rfl
  . intro w mmu
    rfl

theorem settles_leaveKernel (cpu : Cpu)
    : Settles (leaveKernel >>= fun _ => pure true) cpu cpu.snapshot.leaveKernel := by
  let returnSlot := cpu.regs.esp
  let flagsSlot := slotAbove returnSlot
  apply Settles.of_eq (y := readMemory returnSlot >>= fun back => readMemory flagsSlot >>= fun saved => do
    modifyRegs fun regs =>
      { regs with
        eip := ⟨back⟩
        esp := slotAbove flagsSlot
        eflags := { (Eflags.ofByte (Bits.lowByte saved)).enterUser with interrupts := true } }
    modifyFrames FrameStack.pop
    return true)
  . apply Settles.bind (reads_readMemory cpu returnSlot)
    intro back
    apply Settles.bind (reads_readMemory cpu flagsSlot)
    intro saved
    apply settles_become rfl
    intro mmu
    rfl
  . intro log
    simp only [leaveKernel, bind_assoc, Action.get_bind_apply, regs_withLog, returnSlot, flagsSlot]

theorem enterKernel_eq_commit (cpu : Cpu) (handler back : VirtualAddress) (kind : FrameKind)
    (vector : Option Word)
    : (enterKernel handler back kind vector >>= fun _ => pure true) cpu
        =
      (cpu.snapshot.enterKernel handler back kind vector).commit cpu := by
  let returnSlot := slotBelow (slotBelow cpu.regs.esp)
  rw [Effect.commit_eq_bind (k := do
    modifyRegs fun regs =>
      { regs with
        eflags := { cpu.regs.eflags.enterKernel with interrupts := false }
        esp := returnSlot
        eip := handler }
    modifyFrames (·.push ⟨back, handler, vector, kind, returnSlot⟩)
    return true) fun mmu => rfl]
  simp only [enterKernel, Effect.writeAll, Snapshot.enterKernel, bind_assoc, Action.get_bind_apply,
    Action.forM_cons, Action.forM_nil, pure_bind]
  rfl

theorem settles_enterKernel (cpu : Cpu) (handler back : VirtualAddress) (kind : FrameKind)
    (vector : Option Word)
    : Settles (enterKernel handler back kind vector >>= fun _ => pure true) cpu
        (.ok (cpu.snapshot.enterKernel handler back kind vector)) := by
  apply Settles.of_commit
  intro log
  rw [enterKernel_eq_commit]
  rfl

theorem exists_of_interrupt_ok {cpu' : Cpu} {vector : Word} (h : interrupt vector cpu = .ok () cpu')
    : ∃ cpu₁,
        (cpu.snapshot.enterKernel (cpu.regs.itp.offset vector) cpu.regs.eip .interrupt (some vector)).writeAll cpu
            = .ok () cpu₁
          ∧ cpu'
            =
            { cpu₁ with
              regs := (cpu.snapshot.enterKernel (cpu.regs.itp.offset vector) cpu.regs.eip .interrupt
                (some vector)).regs
              frames := (cpu.snapshot.enterKernel (cpu.regs.itp.offset vector) cpu.regs.eip .interrupt
                (some vector)).frames } := by
  unfold interrupt at h
  rw [Action.get_bind_apply] at h
  have hcommit := Action.bind_of_ok (f := fun _ => pure true) h
  rw [enterKernel_eq_commit] at hcommit
  exact Effect.exists_of_commit_ok hcommit

theorem writeAll_of_interrupt_error {cpu' : Cpu} {vector : Word} {t : Trap}
    (h : interrupt vector cpu = .error t cpu')
    : (cpu.snapshot.enterKernel (cpu.regs.itp.offset vector) cpu.regs.eip .interrupt (some vector)).writeAll cpu
        =
      .error t cpu' := by
  unfold interrupt at h
  rw [Action.get_bind_apply] at h
  have hcommit := Action.bind_of_error (f := fun _ => pure true) h
  rw [enterKernel_eq_commit] at hcommit
  exact Effect.writeAll_of_commit_error hcommit

/-! ### Instructions -/

theorem settles_execute (cpu : Cpu) (i : Instruction) : Settles (execute i) cpu (cpu.snapshot.effect i) := by
  unfold execute Snapshot.effect
  cases i.operation with
  | add => exact settles_binary cpu i _
  | adc => exact settles_binary cpu i _
  | sub => exact settles_binary cpu i _
  | sbb => exact settles_binary cpu i _
  | mul => exact settles_binary cpu i _
  | div => exact settles_binary cpu i _
  | and => exact settles_binary cpu i _
  | or => exact settles_binary cpu i _
  | xor => exact settles_binary cpu i _
  | shl => exact settles_binary cpu i _
  | shr => exact settles_binary cpu i _
  | sar => exact settles_binary cpu i _
  | not => exact settles_unary cpu i _
  | neg => exact settles_unary cpu i _
  | inc => exact settles_unary cpu i _
  | dec => exact settles_unary cpu i _
  | cmp =>
    apply Settles.bind (reads_readOperand cpu i.first)
    intro source
    apply Settles.bind (reads_readOperand cpu i.second)
    intro target
    apply settles_become rfl
    intro mmu
    rfl
  | mov =>
    apply Settles.bind (reads_readOperand cpu i.first)
    intro w
    apply Settles.bind (reads_locate cpu i.second)
    intro place
    apply Settles.of_eq (settles_storePlace cpu place w cpu.regs.eflags)
    intro log
    rfl
  | push =>
    apply Settles.bind (reads_readOperand cpu i.first)
    intro w
    apply settles_push cpu w rfl rfl
    intro mmu
    rfl
  | pop => exact settles_popOperand cpu i
  | pushf =>
    apply Settles.bind (reads_requireKernel cpu)
    intro _
    apply Settles.of_eq (settles_push cpu cpu.regs.eflags.toWord (k := pure false) rfl rfl _)
    . intro log
      rfl
    . intro mmu
      rfl
  | popf =>
    apply Settles.bind (reads_requireKernel cpu)
    intro _
    apply settles_pop
    . intro w
      rfl
    . intro w mmu
      rfl
  | cli =>
    apply Settles.bind (reads_requireKernel cpu)
    intro _
    apply settles_become rfl
    intro mmu
    rfl
  | sti =>
    apply Settles.bind (reads_requireKernel cpu)
    intro _
    apply settles_become rfl
    intro mmu
    rfl
  | nop =>
    apply settles_become rfl
    intro mmu
    rfl
  | int =>
    apply Settles.bind (reads_readOperand cpu i.first)
    intro vector
    apply Settles.of_eq (settles_enterKernel cpu _ _ _ _)
    intro log
    rfl
  | iret =>
    apply Settles.bind (reads_requireKernel cpu)
    intro _
    exact settles_leaveKernel cpu
  | sysexit =>
    apply Settles.bind (reads_requireKernel cpu)
    intro _
    exact settles_leaveKernel cpu
  | sysenter =>
    apply Settles.bind (reads_readOperand cpu i.first)
    intro handler
    apply Settles.of_eq (settles_enterKernel cpu _ _ _ _)
    intro log
    rfl
  | jmp => exact settles_jumpIf cpu i _
  | jz => exact settles_jumpIf cpu i _
  | jnz => exact settles_jumpIf cpu i _
  | jg => exact settles_jumpIf cpu i _
  | jge => exact settles_jumpIf cpu i _
  | jl => exact settles_jumpIf cpu i _
  | jle => exact settles_jumpIf cpu i _
  | call => exact settles_call cpu i
  | ret => exact settles_ret cpu

end Cpu

end Triword
