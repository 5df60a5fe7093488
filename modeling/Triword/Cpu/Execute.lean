import Triword.Alu
import Triword.Cpu.Basic

/-!
The effect of each instruction. An instruction first reads all that it needs, then writes memory, and
only then changes registers, so that one which fails can be tried again.
-/

namespace Triword

namespace Cpu

/-! ### Operands -/

inductive Place where
  | register (r : Register)
  | memory (a : VirtualAddress)
  deriving DecidableEq

def locate (regs : RegisterFile) (o : Operand) : Except Trap Place :=
  match o.kind, o.mode with
  | .absent, _ => .error .missingOperand
  | .immediate, _ | .label, _ => .error .unsupportedOperandType
  | .memory, _ => .ok (.memory ⟨o.value⟩)
  | .register, mode =>
    match o.register? with
    | none => .error .unrecognizedRegister
    | some r => .ok (if mode = .indirect then .memory ⟨regs.read r⟩ else .register r)

def loadPlace : Place → Action Word
  | .register r => return (← get).regs.read r
  | .memory a => readMemory a

def mayWrite (flags : Eflags) (r : Register) (w : Word) : Bool :=
  flags.isKernel || !r.isKernelOnly && (r != .eflags || flags.keepsControl (Bits.lowByte w))

/--
Writes a word in its place, and the flags before a register. Answers whether the instruction pointer
was written.
-/
def storePlace (p : Place) (w : Word) (flags : Eflags) : Action Bool :=
  match p with
  | .memory a => do
    writeMemory a w
    modifyRegs fun regs => { regs with eflags := flags }
    return false
  | .register r => do
    if !mayWrite (← get).regs.eflags r w then
      throw .registerNotWritable
    modifyRegs fun regs => { regs with eflags := flags }.write r w
    return r == .eip

def readOperand (o : Operand) : Action Word :=
  match o.kind with
  | .absent => throw .missingOperand
  | .immediate | .label => return o.value
  | .register | .memory => do loadPlace (← ofExcept (locate (← get).regs o))

/-! ### Arithmetic -/

def binary (i : Instruction) (f : Eflags → Word → Word → Except Trap (Flagged Word)) : Action Bool := do
  let place ← ofExcept (locate (← get).regs i.second)
  let source ← readOperand i.first
  let target ← loadPlace place
  let (result, flags) ← ofExcept (f (← get).regs.eflags target source)
  storePlace place result flags

def unary (i : Instruction) (f : Eflags → Word → Flagged Word) : Action Bool := do
  let place ← ofExcept (locate (← get).regs i.first)
  let target ← loadPlace place
  let (result, flags) := f (← get).regs.eflags target
  storePlace place result flags

def total (f : Eflags → Word → Word → Flagged Word) (flags : Eflags) (a b : Word) :
    Except Trap (Flagged Word) :=
  .ok (f flags a b)

def quotient (flags : Eflags) (a b : Word) : Except Trap (Flagged Word) :=
  match Alu.div flags a b with
  | some ((q, _), flags) => .ok (q, flags)
  | none => .error .divisionByZero

/-! ### The stack, which grows downwards -/

def slotBelow (a : VirtualAddress) : VirtualAddress :=
  a.offset (Adder.negate 4)

def slotAbove (a : VirtualAddress) : VirtualAddress :=
  a.add 4

def push (w : Word) : Action Unit := do
  let slot := slotBelow (← get).regs.esp
  writeMemory slot w
  modifyRegs fun regs => { regs with esp := slot }

def pop : Action Word := do
  let slot := (← get).regs.esp
  let w ← readMemory slot
  modifyRegs fun regs => { regs with esp := slotAbove slot }
  return w

def popOperand (i : Instruction) : Action Bool := do
  let slot := (← get).regs.esp
  let w ← readMemory slot
  let place ← ofExcept (locate (← get).regs i.first)
  let jumped ← storePlace place w (← get).regs.eflags
  -- A stack pointer that is popped itself keeps the word that it has got.
  if place ≠ .register .esp then
    modifyRegs fun regs => { regs with esp := slotAbove slot }
  return jumped

/-! ### Jumps -/

def jumpIf (i : Instruction) (condition : Eflags → Bool) : Action Bool := do
  let target ← readOperand i.first
  let jumps := condition (← get).regs.eflags
  if jumps then
    modifyRegs fun regs => { regs with eip := ⟨target⟩ }
  return jumps

def call (i : Instruction) : Action Bool := do
  let caller := (← get).regs.eip
  let target ← readOperand i.first
  push (caller.add Instruction.byteSize).word
  modifyRegs fun regs => { regs with eip := ⟨target⟩ }
  let stackPointer := (← get).regs.esp
  modifyFrames (·.push ⟨caller, ⟨target⟩, none, .subroutine, stackPointer⟩)
  return true

def ret : Action Bool := do
  let target ← pop
  modifyRegs fun regs => { regs with eip := ⟨target⟩ }
  modifyFrames FrameStack.pop
  return true

/-! ### Entering and leaving the kernel -/

/--
Pushes the flags and a return address on behalf of the kernel, and goes to a handler in kernel mode with
interrupts disabled.
-/
def enterKernel (handler back : VirtualAddress) (kind : FrameKind) (vector : Option Word) :
    Action Unit := do
  let cpu ← get
  let flags := cpu.regs.eflags
  let ctx := cpu.kernelContext .write
  let flagsSlot := slotBelow cpu.regs.esp
  let returnSlot := slotBelow flagsSlot
  -- The flags stay pushed when the return address cannot be.
  onMmu (Mmu.writeWord flagsSlot flags.toWord ctx)
  onMmu (Mmu.writeWord returnSlot back.word ctx)
  modifyRegs fun regs =>
    { regs with
      eflags := { flags.enterKernel with interrupts := false }
      esp := returnSlot
      eip := handler }
  modifyFrames (·.push ⟨back, handler, vector, kind, returnSlot⟩)

def leaveKernel : Action Unit := do
  let returnSlot := (← get).regs.esp
  let flagsSlot := slotAbove returnSlot
  let back ← readMemory returnSlot
  let saved ← readMemory flagsSlot
  modifyRegs fun regs =>
    { regs with
      eip := ⟨back⟩
      esp := slotAbove flagsSlot
      eflags := { (Eflags.ofByte (Bits.lowByte saved)).enterUser with interrupts := true } }
  modifyFrames FrameStack.pop

/-- Raises an interrupt from outside; its handler returns to the instruction that was next. -/
def interrupt (vector : Word) : Action Unit := do
  let regs := (← get).regs
  enterKernel (regs.itp.offset vector) regs.eip .interrupt (some vector)

/-! ### Instructions -/

def execute (i : Instruction) : Action Bool :=
  match i.operation with
  | .add => binary i (total Alu.add)
  | .adc => binary i (total Alu.adc)
  | .sub => binary i (total Alu.sub)
  | .sbb => binary i (total Alu.sbb)
  | .mul => binary i (total Alu.mul)
  | .div => binary i quotient
  | .and => binary i (total Alu.and)
  | .or => binary i (total Alu.or)
  | .xor => binary i (total Alu.xor)
  | .shl => binary i (total Alu.shl)
  | .shr => binary i (total Alu.shr)
  | .sar => binary i (total Alu.sar)
  | .not => unary i Alu.not
  | .neg => unary i Alu.neg
  | .inc => unary i Alu.inc
  | .dec => unary i Alu.dec
  | .cmp => do
    let source ← readOperand i.first
    let target ← readOperand i.second
    modifyRegs fun regs => { regs with eflags := Alu.cmp regs.eflags target source }
    return false
  | .mov => do
    let w ← readOperand i.first
    let place ← ofExcept (locate (← get).regs i.second)
    storePlace place w (← get).regs.eflags
  | .push => do
    push (← readOperand i.first)
    return false
  | .pop => popOperand i
  | .pushf => do
    requireKernel
    push (← get).regs.eflags.toWord
    return false
  | .popf => do
    requireKernel
    let w ← pop
    modifyRegs fun regs => { regs with eflags := .ofByte (Bits.lowByte w) }
    return false
  | .cli => do
    requireKernel
    modifyRegs fun regs => { regs with eflags := { regs.eflags with interrupts := false } }
    return false
  | .sti => do
    requireKernel
    modifyRegs fun regs => { regs with eflags := { regs.eflags with interrupts := true } }
    return false
  | .nop => return false
  | .int => do
    let vector ← readOperand i.first
    let regs := (← get).regs
    enterKernel (regs.itp.offset vector) (regs.eip.add Instruction.byteSize) .interrupt (some vector)
    return true
  | .iret | .sysexit => do
    requireKernel
    leaveKernel
    return true
  | .sysenter => do
    let handler ← readOperand i.first
    let regs := (← get).regs
    enterKernel ⟨handler⟩ (regs.eip.add Instruction.byteSize) .systemCall none
    return true
  | .jmp => jumpIf i fun _ => true
  | .jz => jumpIf i (·.zero)
  | .jnz => jumpIf i (!·.zero)
  | .jg => jumpIf i fun f => !f.zero && f.overflow == f.sign
  | .jge => jumpIf i fun f => f.overflow == f.sign
  | .jl => jumpIf i fun f => f.overflow != f.sign
  | .jle => jumpIf i fun f => f.zero && f.overflow != f.sign
  | .call => call i
  | .ret => ret

end Cpu

end Triword
