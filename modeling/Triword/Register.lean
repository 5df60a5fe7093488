import Triword.Bits

/-!
The names of the registers. A register operand carries the code of its register, which is the place of
the register in `Register.all`.
-/

namespace Triword

inductive Register where
  | eax | ebx | ecx | esp | eip | eir | eflags | itp | ptp | nptp | gptp | vmptr
  deriving DecidableEq

namespace Register

def all : List Register :=
  [eax, ebx, ecx, esp, eip, eir, eflags, itp, ptp, nptp, gptp, vmptr]

def name : Register → String
  | eax => "eax"
  | ebx => "ebx"
  | ecx => "ecx"
  | esp => "esp"
  | eip => "eip"
  | eir => "eir"
  | eflags => "eflags"
  | itp => "itp"
  | ptp => "ptp"
  | nptp => "nptp"
  | gptp => "gptp"
  | vmptr => "vmptr"

def code : Register → Word
  | eax => 0
  | ebx => 1
  | ecx => 2
  | esp => 3
  | eip => 4
  | eir => 5
  | eflags => 6
  | itp => 7
  | ptp => 8
  | nptp => 9
  | gptp => 10
  | vmptr => 11

def ofName? (name : String) : Option Register :=
  all.find? fun r => r.name == name.toLower

def ofCode? (w : Word) : Option Register :=
  all.find? fun r => r.code == w

def isKernelOnly : Register → Bool
  | eir | gptp | nptp | vmptr => true
  | _ => false

def display (r : Register) : String :=
  s!"%{r.name}"

end Register

end Triword
