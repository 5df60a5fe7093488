import Triword.Bits

/-!
The operations of the machine. Each belongs to a type of instruction and has an opcode, which is unique
among the operations of its type.
-/

namespace Triword

inductive InstructionType where
  /-- Arithmetic and logic. -/
  | register
  /-- Moves, the stack and the system. -/
  | immediate
  /-- Jumps, calls and returns. -/
  | jump
  deriving DecidableEq

namespace InstructionType

def all : List InstructionType :=
  [register, immediate, jump]

def letter : InstructionType → String
  | register => "R"
  | immediate => "I"
  | jump => "J"

def ofLetter? (s : String) : Option InstructionType :=
  all.find? fun t => t.letter == s

def code : InstructionType → BitVec 3
  | register => 0b100
  | immediate => 0b010
  | jump => 0b001

def ofCode? (code : BitVec 3) : Option InstructionType :=
  all.find? fun t => t.code == code

end InstructionType

inductive Operation where
  | add | adc | sub | sbb | mul | div | and | or | xor | not | neg | cmp | shl | shr | sar | inc | dec
  | mov | push | pop | pushf | popf | cli | sti | nop | int | iret | sysenter | sysexit
  | jmp | jz | jnz | jg | jge | jl | jle | call | ret
  deriving DecidableEq

namespace Operation

def all : List Operation :=
  [add, adc, sub, sbb, mul, div, and, or, xor, not, neg, cmp, shl, shr, sar, inc, dec,
   mov, push, pop, pushf, popf, cli, sti, nop, int, iret, sysenter, sysexit,
   jmp, jz, jnz, jg, jge, jl, jle, call, ret]

def type : Operation → InstructionType
  | add | adc | sub | sbb | mul | div | and | or | xor | not | neg | cmp | shl | shr | sar | inc
  | dec => .register
  | mov | push | pop | pushf | popf | cli | sti | nop | int | iret | sysenter | sysexit => .immediate
  | jmp | jz | jnz | jg | jge | jl | jle | call | ret => .jump

def opcode : Operation → BitVec 7
  | add => 0
  | adc => 1
  | sub => 2
  | sbb => 3
  | mul => 4
  | div => 5
  | and => 6
  | or => 7
  | xor => 8
  | not => 9
  | neg => 10
  | cmp => 11
  | shl => 12
  | shr => 13
  | sar => 14
  | inc => 15
  | dec => 16
  | mov => 0
  | push => 1
  | pop => 2
  | pushf => 3
  | popf => 4
  | cli => 5
  | sti => 6
  | nop => 7
  | int => 8
  | iret => 9
  | sysenter => 10
  | sysexit => 11
  | jmp => 0
  | jz => 1
  | jnz => 2
  | jg => 3
  | jge => 4
  | jl => 5
  | jle => 6
  | call => 7
  | ret => 8

def mnemonic : Operation → String
  | add => "ADD"
  | adc => "ADC"
  | sub => "SUB"
  | sbb => "SBB"
  | mul => "MUL"
  | div => "DIV"
  | and => "AND"
  | or => "OR"
  | xor => "XOR"
  | not => "NOT"
  | neg => "NEG"
  | cmp => "CMP"
  | shl => "SHL"
  | shr => "SHR"
  | sar => "SAR"
  | inc => "INC"
  | dec => "DEC"
  | mov => "MOV"
  | push => "PUSH"
  | pop => "POP"
  | pushf => "PUSHF"
  | popf => "POPF"
  | cli => "CLI"
  | sti => "STI"
  | nop => "NOP"
  | int => "INT"
  | iret => "IRET"
  | sysenter => "SYSENTER"
  | sysexit => "SYSEXIT"
  | jmp => "JMP"
  | jz => "JZ"
  | jnz => "JNZ"
  | jg => "JG"
  | jge => "JGE"
  | jl => "JL"
  | jle => "JLE"
  | call => "CALL"
  | ret => "RET"

def ofOpcode? (type : InstructionType) (opcode : BitVec 7) : Option Operation :=
  all.find? fun op => op.type == type && op.opcode == opcode

/-- Two of the jumps go by a second mnemonic. -/
def aliasOf (mnemonic : String) : String :=
  if mnemonic = "JE" then "JZ" else if mnemonic = "JNE" then "JNZ" else mnemonic

def ofMnemonic? (mnemonic : String) : Option Operation :=
  all.find? fun op => op.mnemonic == aliasOf mnemonic.toUpper

end Operation

end Triword
