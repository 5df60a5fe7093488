import Triword.Breakpoint
import Triword.Frames
import Triword.Mmu
import Triword.Program

/-!
The state of the machine, and the actions on it, which keep what they have changed when they fail.
-/

namespace Triword

structure Settings where
  capacity : PhysicalAddress
  stackPointer : VirtualAddress
  userMode : Bool
  fill : Fill
  keepFrames : Bool
  deriving DecidableEq

namespace Settings

/-- One mebibyte of memory with the stack at its end, in kernel mode, and registers of zero. -/
def standard : Settings where
  capacity := ⟨0x000FFFFF⟩
  stackPointer := ⟨0x00100000⟩
  userMode := false
  fill := .known 0
  keepFrames := false

end Settings

inductive Pause where
  | halt
  | breakpoint
  | tripwire
  deriving DecidableEq

structure Cpu where
  regs : RegisterFile
  mmu : Mmu
  frames : FrameStack
  executed : BitVec 64
  /-- Why the last run paused, unless it failed or has not come to its end. -/
  pause : Option Pause
  settings : Settings
  /-- Without repetitions. -/
  breakpoints : List Breakpoint

namespace Cpu

def initial (settings : Settings) : Cpu :=
  let regs := RegisterFile.initial settings.fill
  { regs := { regs with
      esp := settings.stackPointer
      eflags := if settings.userMode then regs.eflags.enterUser else regs.eflags }
    mmu := .ofMemory (.empty settings.capacity)
    frames := .empty settings.keepFrames
    executed := 0
    pause := none
    settings := settings
    breakpoints := [] }

def reset (cpu : Cpu) : Cpu :=
  { initial cpu.settings with breakpoints := cpu.breakpoints }

/-- An action on the machine. What it has changed before it fails stays changed. -/
abbrev Action := EStateM Trap Cpu

def onMmu {α : Type} (action : Mmu.Action α) : Action α := fun cpu =>
  match action cpu.mmu with
  | .ok a mmu => .ok a { cpu with mmu }
  | .error e mmu => .error e { cpu with mmu }

def modifyRegs (f : RegisterFile → RegisterFile) : Action Unit :=
  modify fun cpu => { cpu with regs := f cpu.regs }

def modifyFrames (f : FrameStack → FrameStack) : Action Unit :=
  modify fun cpu => { cpu with frames := f cpu.frames }

/-- With a guest table the walk goes through two tables, of which the host table is the nested one. -/
def tables (regs : RegisterFile) : PageTables :=
  match regs.gptp with
  | some guest => .nested guest regs.nptp
  | none => .single regs.ptp

def context (cpu : Cpu) (access : Access) : AccessContext :=
  ⟨cpu.regs.eflags.privilege, access, tables cpu.regs⟩

def kernelContext (cpu : Cpu) (access : Access) : AccessContext :=
  { cpu.context access with privilege := .kernel }

def requireKernel : Action Unit := do
  if !(← get).regs.eflags.isKernel then
    throw .privilegeViolation

def readMemory (a : VirtualAddress) : Action Word := do
  onMmu (Mmu.readWord a ((← get).context .read))

def writeMemory (a : VirtualAddress) (w : Word) : Action Unit := do
  onMmu (Mmu.writeWord a w ((← get).context .write))

def writeWords (ctx : AccessContext) : VirtualAddress → List Word → Action Unit
  | _, [] => pure ()
  | a, w :: rest => do
    onMmu (Mmu.writeWord a w ctx)
    writeWords ctx (a.add 4) rest

/--
Writes a program on behalf of the kernel and makes its first instruction the next one. Answers with the
addresses that it takes up.
-/
def load (p : Program) : Action (Option (AddressRange .virtual)) := do
  writeWords ((← get).kernelContext .write) p.origin p.words
  modifyRegs fun regs => { regs with eip := p.origin }
  return p.segment

def addBreakpoint (cpu : Cpu) (b : Breakpoint) : Bool × Cpu :=
  if b ∈ cpu.breakpoints then (false, cpu)
  else (true, { cpu with breakpoints := b :: cpu.breakpoints })

def removeBreakpoint (cpu : Cpu) (b : Breakpoint) : Bool × Cpu :=
  if b ∈ cpu.breakpoints then (true, { cpu with breakpoints := cpu.breakpoints.erase b })
  else (false, cpu)

def checkBreakpoint (cpu : Cpu) (b : Breakpoint) : Bool :=
  b.check cpu.regs cpu.mmu.memory

def atBreakpoint (cpu : Cpu) : Bool :=
  cpu.breakpoints.any cpu.checkBreakpoint

end Cpu

end Triword
