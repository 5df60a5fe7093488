import Triword.Address

/-!
The ways in which the machine can fail, with what they say and how they can be mended.
-/

namespace Triword

structure BeyondMemory where
  address : PhysicalAddress
  capacity : PhysicalAddress
  deriving DecidableEq

namespace BeyondMemory

def message (e : BeyondMemory) : String :=
  s!"address {e.address.display} is beyond the end of memory ({e.capacity.display})"

end BeyondMemory

inductive Stage where
  | single
  | guest
  | host
  deriving DecidableEq

/-- A page that is not present. Writing its entry lets the access be tried again. -/
structure PageFault where
  flags : BitVec 12
  entry : PhysicalAddress
  address : VirtualAddress
  stage : Stage
  deriving DecidableEq

namespace PageFault

def message (e : PageFault) : String :=
  let table := match e.stage with
    | .single => ""
    | .guest => ", guest table"
    | .host => ", host table"
  s!"page fault at {e.address.display} (entry at {e.entry.display}{table})"

end PageFault

inductive Trap where
  | widthMismatch (e : WidthMismatch)
  /-- The header has no delimiters, or its type and opcode name no operation. -/
  | unrecognizedInstruction
  | unrecognizedOperandType
  /-- The mode has no meaning, or something other than a register is used indirectly. -/
  | unrecognizedAddressingMode
  | unrecognizedRegister
  | missingOperand
  /-- The operand is no place that can be written. -/
  | unsupportedOperandType
  | divisionByZero
  /-- The instruction is for the kernel only, or a page denies the access. -/
  | privilegeViolation
  /-- The register, or the change of the flags, is for the kernel only. -/
  | registerNotWritable
  | pageFault (e : PageFault)
  | beyondMemory (e : BeyondMemory)
  deriving DecidableEq

namespace Trap

/-- Only a page fault can be mended, by mapping the page, and its instruction tried again. -/
def isRecoverable : Trap → Bool
  | pageFault _ => true
  | _ => false

def message : Trap → String
  | widthMismatch e => e.message
  | unrecognizedInstruction => "unrecognized instruction"
  | unrecognizedOperandType => "unrecognized operand type"
  | unrecognizedAddressingMode => "unrecognized addressing mode"
  | unrecognizedRegister => "unrecognized register"
  | missingOperand => "instruction is missing an operand"
  | unsupportedOperandType => "operand type is not supported here"
  | divisionByZero => "division by zero"
  | privilegeViolation => "privilege violation"
  | registerNotWritable => "register is not writable in user mode"
  | pageFault e => e.message
  | beyondMemory e => e.message

def cause : Trap → Option String
  | widthMismatch e => some e.message
  | pageFault e => some e.message
  | beyondMemory e => some e.message
  | _ => none

def hint : Trap → Option String
  | unrecognizedInstruction | unrecognizedOperandType | unrecognizedAddressingMode =>
    some "EIP is probably pointing at data, not at an instruction"
  | unsupportedOperandType => some "only registers and memory can be written to"
  | privilegeViolation =>
    some "CLI, STI, PUSHF, POPF, IRET and SYSEXIT need kernel mode, and pages can deny access"
  | registerNotWritable =>
    some <| "EIR, GPTP, NPTP and VMPTR can only be written in kernel mode, "
      ++ "and user mode cannot change the privilege level or IF"
  | pageFault _ =>
    some "map the page by writing its page table entry, then run the instruction again"
  | beyondMemory _ => some "try a larger RAM capacity"
  | _ => none

end Trap

end Triword
