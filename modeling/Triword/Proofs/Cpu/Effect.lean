import Triword.Cpu.Cycle

/-!
What an instruction is about to do. An effect is computed from the registers, the pending calls and the
words that reads find; it lists the words to be written and says how registers and calls will be once
all of them have been written. No memory is changed in computing it.
-/

namespace Triword

namespace Cpu

structure Effect where
  writes : List (VirtualAddress × Word)
  /-- On whose behalf they are written. -/
  privilege : Privilege
  regs : RegisterFile
  frames : FrameStack
  jumped : Bool

/-- What an instruction can see of a machine. -/
structure Snapshot where
  regs : RegisterFile
  frames : FrameStack
  word : VirtualAddress → Except Trap Word

namespace Snapshot

def placeValue (s : Snapshot) : Place → Except Trap Word
  | .register r => .ok (s.regs.read r)
  | .memory a => s.word a

def operandValue (s : Snapshot) (o : Operand) : Except Trap Word :=
  match o.kind with
  | .absent => .error .missingOperand
  | .immediate | .label => .ok o.value
  | .register | .memory => locate s.regs o >>= s.placeValue

def requireKernel (s : Snapshot) : Except Trap Unit :=
  if s.regs.eflags.isKernel then .ok () else .error .privilegeViolation

def become (s : Snapshot) (regs : RegisterFile) : Effect :=
  ⟨[], s.regs.eflags.privilege, regs, s.frames, false⟩

def write (s : Snapshot) (a : VirtualAddress) (w : Word) (regs : RegisterFile) : Effect :=
  ⟨[(a, w)], s.regs.eflags.privilege, regs, s.frames, false⟩

def store (s : Snapshot) (p : Place) (w : Word) (flags : Eflags) : Except Trap Effect :=
  match p with
  | .memory a => .ok (s.write a w { s.regs with eflags := flags })
  | .register r =>
    if mayWrite s.regs.eflags r w then
      .ok { s.become ({ s.regs with eflags := flags }.write r w) with jumped := r == .eip }
    else .error .registerNotWritable

def binary (s : Snapshot) (i : Instruction) (f : Eflags → Word → Word → Except Trap (Flagged Word)) :
    Except Trap Effect := do
  let place ← locate s.regs i.second
  let source ← s.operandValue i.first
  let target ← s.placeValue place
  let r ← f s.regs.eflags target source
  s.store place r.1 r.2

def unary (s : Snapshot) (i : Instruction) (f : Eflags → Word → Flagged Word) : Except Trap Effect := do
  let place ← locate s.regs i.first
  let target ← s.placeValue place
  let r := f s.regs.eflags target
  s.store place r.1 r.2

def pushed (s : Snapshot) (w : Word) : Effect :=
  s.write (slotBelow s.regs.esp) w { s.regs with esp := slotBelow s.regs.esp }

def popOperand (s : Snapshot) (i : Instruction) : Except Trap Effect := do
  let w ← s.word s.regs.esp
  let place ← locate s.regs i.first
  let e ← s.store place w s.regs.eflags
  .ok { e with
    regs := if place ≠ .register .esp then { e.regs with esp := slotAbove s.regs.esp } else e.regs }

def jumpIf (s : Snapshot) (i : Instruction) (condition : Eflags → Bool) : Except Trap Effect := do
  let target ← s.operandValue i.first
  let jumps := condition s.regs.eflags
  .ok { s.become (if jumps then { s.regs with eip := ⟨target⟩ } else s.regs) with jumped := jumps }

def call (s : Snapshot) (i : Instruction) : Except Trap Effect := do
  let target ← s.operandValue i.first
  let slot := slotBelow s.regs.esp
  .ok { s.pushed (s.regs.eip.add Instruction.byteSize).word with
    regs := { s.regs with esp := slot, eip := ⟨target⟩ }
    frames := s.frames.push ⟨s.regs.eip, ⟨target⟩, none, .subroutine, slot⟩
    jumped := true }

def ret (s : Snapshot) : Except Trap Effect := do
  let target ← s.word s.regs.esp
  .ok { s.become { s.regs with esp := slotAbove s.regs.esp, eip := ⟨target⟩ } with
    frames := s.frames.pop
    jumped := true }

def enterKernel (s : Snapshot) (handler back : VirtualAddress) (kind : FrameKind)
    (vector : Option Word) : Effect :=
  let flagsSlot := slotBelow s.regs.esp
  let returnSlot := slotBelow flagsSlot
  { writes := [(flagsSlot, s.regs.eflags.toWord), (returnSlot, back.word)]
    privilege := .kernel
    regs := { s.regs with
      eflags := { s.regs.eflags.enterKernel with interrupts := false }
      esp := returnSlot
      eip := handler }
    frames := s.frames.push ⟨back, handler, vector, kind, returnSlot⟩
    jumped := true }

def leaveKernel (s : Snapshot) : Except Trap Effect := do
  let flagsSlot := slotAbove s.regs.esp
  let back ← s.word s.regs.esp
  let saved ← s.word flagsSlot
  .ok { s.become { s.regs with
      eip := ⟨back⟩
      esp := slotAbove flagsSlot
      eflags := { (Eflags.ofByte (Bits.lowByte saved)).enterUser with interrupts := true } } with
    frames := s.frames.pop
    jumped := true }

def effect (s : Snapshot) (i : Instruction) : Except Trap Effect :=
  match i.operation with
  | .add => s.binary i (total Alu.add)
  | .adc => s.binary i (total Alu.adc)
  | .sub => s.binary i (total Alu.sub)
  | .sbb => s.binary i (total Alu.sbb)
  | .mul => s.binary i (total Alu.mul)
  | .div => s.binary i quotient
  | .and => s.binary i (total Alu.and)
  | .or => s.binary i (total Alu.or)
  | .xor => s.binary i (total Alu.xor)
  | .shl => s.binary i (total Alu.shl)
  | .shr => s.binary i (total Alu.shr)
  | .sar => s.binary i (total Alu.sar)
  | .not => s.unary i Alu.not
  | .neg => s.unary i Alu.neg
  | .inc => s.unary i Alu.inc
  | .dec => s.unary i Alu.dec
  | .cmp => do
    let source ← s.operandValue i.first
    let target ← s.operandValue i.second
    .ok (s.become { s.regs with eflags := Alu.cmp s.regs.eflags target source })
  | .mov => do
    let w ← s.operandValue i.first
    let place ← locate s.regs i.second
    s.store place w s.regs.eflags
  | .push => do
    let w ← s.operandValue i.first
    .ok (s.pushed w)
  | .pop => s.popOperand i
  | .pushf => do
    s.requireKernel
    .ok (s.pushed s.regs.eflags.toWord)
  | .popf => do
    s.requireKernel
    let w ← s.word s.regs.esp
    .ok (s.become { s.regs with
      esp := slotAbove s.regs.esp
      eflags := .ofByte (Bits.lowByte w) })
  | .cli => do
    s.requireKernel
    .ok (s.become { s.regs with eflags := { s.regs.eflags with interrupts := false } })
  | .sti => do
    s.requireKernel
    .ok (s.become { s.regs with eflags := { s.regs.eflags with interrupts := true } })
  | .nop => .ok (s.become s.regs)
  | .int => do
    let vector ← s.operandValue i.first
    .ok (s.enterKernel (s.regs.itp.offset vector) (s.regs.eip.add Instruction.byteSize) .interrupt
      (some vector))
  | .iret | .sysexit => do
    s.requireKernel
    s.leaveKernel
  | .sysenter => do
    let handler ← s.operandValue i.first
    .ok (s.enterKernel ⟨handler⟩ (s.regs.eip.add Instruction.byteSize) .systemCall none)
  | .jmp => s.jumpIf i fun _ => true
  | .jz => s.jumpIf i (·.zero)
  | .jnz => s.jumpIf i (!·.zero)
  | .jg => s.jumpIf i fun f => !f.zero && f.overflow == f.sign
  | .jge => s.jumpIf i fun f => f.overflow == f.sign
  | .jl => s.jumpIf i fun f => f.overflow != f.sign
  | .jle => s.jumpIf i fun f => f.zero && f.overflow != f.sign
  | .call => s.call i
  | .ret => s.ret

end Snapshot

end Cpu

end Triword
