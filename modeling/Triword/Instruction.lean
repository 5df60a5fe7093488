import Triword.Instruction.Header

/-!
Whole instructions, which take up three words: the header and the values of the two operands.
-/

namespace Triword

/-- The first operand is the source, or the only one; the second is the target. -/
structure Instruction where
  operation : Operation
  first : Operand
  second : Operand
  deriving DecidableEq

namespace Instruction

def byteSize : Nat := 12

def header (i : Instruction) : Header where
  type := i.operation.type.code
  opcode := i.operation.opcode
  first := ⟨i.first.mode.code, i.first.kind.code⟩
  second := ⟨i.second.mode.code, i.second.kind.code⟩

def encode (i : Instruction) : List Word :=
  [i.header.encode, i.first.value, i.second.value]

def display (i : Instruction) : String :=
  match [i.first, i.second].filter Operand.isPresent with
  | [] => i.operation.mnemonic
  | operands => s!"{i.operation.mnemonic} " ++ ", ".intercalate (operands.map Operand.display)

end Instruction

end Triword
