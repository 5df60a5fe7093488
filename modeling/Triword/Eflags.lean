import Triword.Bits

/-!
The flags register: two privilege bits, the interrupt flag and five status flags, which together make
up one byte.
-/

namespace Triword

inductive Privilege where
  | kernel
  | user
  deriving DecidableEq

namespace Privilege

def name : Privilege → String
  | kernel => "Kernel"
  | user => "User"

end Privilege

structure Eflags where
  /-- The privilege bits: `00` is kernel mode and everything else user mode. -/
  level : BitVec 2
  interrupts : Bool
  carry : Bool
  parity : Bool
  zero : Bool
  sign : Bool
  overflow : Bool
  deriving DecidableEq

namespace Eflags

def ofByte (b : Byte) : Eflags where
  level := Bits.field b 0 2
  interrupts := b.getMsbD 2
  carry := b.getMsbD 3
  parity := b.getMsbD 4
  zero := b.getMsbD 5
  sign := b.getMsbD 6
  overflow := b.getMsbD 7

def toByte (f : Eflags) : Byte :=
  f.level ++ BitVec.ofBool f.interrupts ++ BitVec.ofBool f.carry ++ BitVec.ofBool f.parity
    ++ BitVec.ofBool f.zero ++ BitVec.ofBool f.sign ++ BitVec.ofBool f.overflow

def toWord (f : Eflags) : Word :=
  f.toByte.setWidth 32

def clear : Eflags :=
  ofByte 0#8

def privilege (f : Eflags) : Privilege :=
  if f.level = 0#2 then .kernel else .user

def isKernel (f : Eflags) : Bool :=
  f.privilege = .kernel

def enterKernel (f : Eflags) : Eflags :=
  { f with level := 0b00#2 }

def enterUser (f : Eflags) : Eflags :=
  { f with level := 0b11#2 }

def keepsControl (f : Eflags) (b : Byte) : Bool :=
  f.level == (ofByte b).level && f.interrupts == (ofByte b).interrupts

def statusLetters (f : Eflags) : String :=
  let letter (set : Bool) (c : Char) := if set then c else '-'
  String.ofList [letter f.carry 'C', letter f.parity 'P', letter f.zero 'Z', letter f.sign 'S',
    letter f.overflow 'O']

def describe (f : Eflags) : String :=
  s!"Eflags \x7b privilege: {f.privilege.name}, interrupts_enabled: {f.interrupts}, "
    ++ s!"flags: {f.statusLetters} \x7d"

end Eflags

end Triword
