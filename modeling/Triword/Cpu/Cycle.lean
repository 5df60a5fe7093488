import Triword.Cpu.Execute

/-!
One cycle of the machine: fetch, decode and execute. A header of zero, which is no instruction, halts.
-/

namespace Triword

namespace Cpu

def fetchOperand (ctx : AccessContext) (a : VirtualAddress) (slot : Slot) : Action Operand := do
  if slot.kind = .absent then
    return .absent
  if slot.mode = .indirect ∧ slot.kind ≠ .register then
    throw .unrecognizedAddressingMode
  let operand : Operand := ⟨slot.kind, slot.mode, ← onMmu (Mmu.readWord a ctx)⟩
  if operand.kind = .register ∧ operand.register? = none then
    throw .unrecognizedRegister
  return operand

/-- Reads the instruction at `a`, unless its header halts. The header is kept in its register. -/
def fetch (a : VirtualAddress) : Action (Option Instruction) := do
  let ctx := (← get).context .execute
  let header ← onMmu (Mmu.readWord a ctx)
  modifyRegs fun regs => { regs with eir := header }
  if header = 0 then
    return none
  let shape ← ofExcept (Header.decode header >>= Header.resolve)
  let first ← fetchOperand ctx (a.add 4) shape.first
  let second ← fetchOperand ctx (a.add 8) shape.second
  return some ⟨shape.operation, first, second⟩

/-- Fetches and executes the next instruction. Answers whether there was one. -/
def cycle : Action Bool := do
  let a := (← get).regs.eip
  match ← fetch a with
  | none => return false
  | some i =>
    let jumped ← execute i
    if !jumped then
      modifyRegs fun regs => { regs with eip := a.add Instruction.byteSize }
    modify fun cpu => { cpu with executed := cpu.executed + 1 }
    return true

end Cpu

end Triword
