import Triword.Instruction.Operand
import Triword.Instruction.Operation
import Triword.Trap

/-!
The first word of an instruction. From the left it holds the type, a delimiter, the opcode, a second
delimiter, and the mode and kind of each operand. A delimiter is two ones, so no header is zero.
-/

namespace Triword

structure SlotCode where
  mode : BitVec 2
  kind : BitVec 7
  deriving DecidableEq

structure Header where
  type : BitVec 3
  opcode : BitVec 7
  first : SlotCode
  second : SlotCode
  deriving DecidableEq

structure Slot where
  mode : AddressingMode
  kind : OperandKind
  deriving DecidableEq

structure Shape where
  operation : Operation
  first : Slot
  second : Slot
  deriving DecidableEq

namespace SlotCode

/-- Looks up the kind and then the mode. -/
def resolve (s : SlotCode) : Except Trap Slot := do
  let some kind := OperandKind.ofCode? s.kind | throw .unrecognizedOperandType
  let some mode := AddressingMode.ofCode? s.mode | throw .unrecognizedAddressingMode
  return ⟨mode, kind⟩

end SlotCode

namespace Header

def delimiter : BitVec 2 := 0b11

def encode (h : Header) : Word :=
  h.type ++ delimiter ++ h.opcode ++ delimiter ++ h.first.mode ++ h.first.kind ++ h.second.mode
    ++ h.second.kind

def decode (w : Word) : Except Trap Header :=
  if Bits.field w 3 2 = delimiter ∧ Bits.field w 12 2 = delimiter then
    .ok
      { type := Bits.field w 0 3
        opcode := Bits.field w 5 7
        first := ⟨Bits.field w 14 2, Bits.field w 16 7⟩
        second := ⟨Bits.field w 23 2, Bits.field w 25 7⟩ }
  else .error .unrecognizedInstruction

/-- Looks up the operation and then the slots in order. -/
def resolve (h : Header) : Except Trap Shape := do
  let some operation := (InstructionType.ofCode? h.type).bind (Operation.ofOpcode? · h.opcode)
    | throw .unrecognizedInstruction
  return ⟨operation, ← h.first.resolve, ← h.second.resolve⟩

end Header

end Triword
