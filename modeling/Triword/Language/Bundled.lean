import Triword.Language.Basic

/-!
The language of the machine's own mnemonics, which is used where no other definition is given. Each
operation is written as its mnemonic and its operands with a comma between them: `$5` is a number, `@5`
an address, `%eax` a register, `*%eax` the place whose address the register holds, and `loop` a label.
-/

namespace Triword.Language

namespace Bundled

def immediate : OperandType where
  name := "immediate"
  code := "1010000"
  regex := "\\*?\\$-?(?:0b[01]+|0x[0-9a-f]+|[0-9]+)"

def register : OperandType where
  name := "register"
  code := "1100000"
  regex := "\\*?%[a-z]+"

def memory : OperandType where
  name := "memory"
  code := "1001000"
  regex := "\\*?@(?:0b[01]+|0x[0-9a-f]+|[0-9]+)"

def label : OperandType where
  name := "label"
  code := "1000100"
  regex := "[a-z_][a-z0-9_]*"

def operandTypes : List OperandType :=
  [immediate, register, memory, label]

def operand (name : String) (types : List OperandType) : OperandRule :=
  ⟨name, types.map OperandType.name⟩

def template (mnemonic : String) (operands : List OperandRule) : String :=
  match operands with
  | [] => mnemonic
  | operands =>
    mnemonic ++ "\\s+" ++ "\\s*,\\s*".intercalate (operands.map fun o => placeholder o.name)

def rule (op : Operation) (mnemonic : String) (operands : List OperandRule)
    (illegal : List (List OperandType) := []) : InstructionRule where
  mnemonic := mnemonic
  opcode := Bits.toDigits op.opcode
  type := op.type
  operands := operands
  illegalCombinations := illegal.map (·.map OperandType.name)
  regex := template mnemonic operands

def target : OperandRule :=
  operand "target" [register, memory]

/-- An operation on two operands, which are not both in memory. -/
def binary (op : Operation) : InstructionRule :=
  rule op op.mnemonic [operand "source" [immediate, register, memory], target] [[memory, memory]]

def unary (op : Operation) : InstructionRule :=
  rule op op.mnemonic [target]

def shift (op : Operation) : InstructionRule :=
  rule op op.mnemonic [operand "count" [immediate, register], target]

def bare (op : Operation) : InstructionRule :=
  rule op op.mnemonic []

def jumpAs (op : Operation) (mnemonic : String) : InstructionRule :=
  rule op mnemonic [operand "target" [label, immediate, register, memory]]

def jump (op : Operation) : InstructionRule :=
  jumpAs op op.mnemonic

def mov : InstructionRule :=
  rule .mov "MOV" [operand "source" [immediate, register, memory, label], target] [[memory, memory]]

def push : InstructionRule :=
  rule .push "PUSH" [operand "source" [immediate, register, memory, label]]

def int : InstructionRule :=
  rule .int "INT" [operand "vector" [immediate]]

def instructions : List InstructionRule :=
  [binary .add, binary .adc, binary .sub, binary .sbb, binary .mul, binary .div, binary .and, binary .or,
   binary .xor, unary .not, unary .neg, binary .cmp, shift .shl, shift .shr, shift .sar, unary .inc,
   unary .dec,
   mov, push, unary .pop, bare .pushf, bare .popf, bare .cli, bare .sti, bare .nop, int, bare .iret,
   jump .sysenter, bare .sysexit,
   jump .jmp, jump .jz, jumpAs .jz "JE", jump .jnz, jumpAs .jnz "JNE", jump .jg, jump .jge, jump .jl,
   jump .jle, jump .call, bare .ret]

/-- A semicolon begins a comment, and `.loop:` declares a label. -/
def definition : Definition where
  commentFormat := ";.*$"
  labelFormats := ⟨"^\\.([A-Za-z_][A-Za-z0-9_]*):$", "[A-Za-z_][A-Za-z0-9_]*"⟩
  operandTypes := operandTypes
  instructions := instructions

end Bundled

def silent : Language :=
  let never : Regex.Expression := { source := "[^\\s\\S]", node := .set .empty, names := [] }
  ⟨never, never, never, []⟩

/-- The language of the machine's own mnemonics. -/
def bundled : Language :=
  (ofDefinition .standard Bundled.definition).toOption.getD silent

end Triword.Language
