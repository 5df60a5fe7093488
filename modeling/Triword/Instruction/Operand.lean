import Triword.Address
import Triword.Register

/-!
Operands: a kind, a mode and a value.
-/

namespace Triword

inductive OperandKind where
  | absent
  | immediate
  | register
  | memory
  /-- The address of a label, which counts as a number from then on. -/
  | label
  deriving DecidableEq

namespace OperandKind

def all : List OperandKind :=
  [absent, immediate, register, memory, label]

def code : OperandKind → BitVec 7
  | absent => 0b0000000
  | immediate => 0b1010000
  | register => 0b1100000
  | memory => 0b1001000
  | label => 0b1000100

def ofCode? (code : BitVec 7) : Option OperandKind :=
  all.find? fun k => k.code == code

def isWritable : OperandKind → Bool
  | register | memory => true
  | _ => false

end OperandKind

inductive AddressingMode where
  | absent
  | direct
  | indirect
  deriving DecidableEq

namespace AddressingMode

def all : List AddressingMode :=
  [absent, direct, indirect]

def code : AddressingMode → BitVec 2
  | absent => 0b00
  | direct => 0b10
  | indirect => 0b11

/-- The code `01` is that of no mode. -/
def ofCode? (code : BitVec 2) : Option AddressingMode :=
  all.find? fun m => m.code == code

end AddressingMode

structure Operand where
  kind : OperandKind
  mode : AddressingMode
  value : Word
  deriving DecidableEq

namespace Operand

def absent : Operand :=
  ⟨.absent, .absent, 0⟩

def isPresent (o : Operand) : Bool :=
  o.kind != .absent

def register? (o : Operand) : Option Register :=
  if o.kind = .register then Register.ofCode? o.value else none

def display (o : Operand) : String :=
  let star := if o.mode = .indirect then "*" else ""
  let text := match o.kind with
    | .absent => ""
    | .immediate => s!"${o.value.toInt}"
    | .register =>
      match o.register? with
      | some r => r.display
      | none => s!"%?{o.value.toNat}"
    | .memory => s!"@0x{Text.upperHex 1 o.value.toNat}"
    | .label => s!"0x{Text.upperHex 1 o.value.toNat}"
  star ++ text

end Operand

end Triword
