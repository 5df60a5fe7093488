import Triword.Memory
import Triword.RegisterFile

/-!
Conditions on the state of the machine at which a run pauses.
-/

namespace Triword

inductive Comparator where
  | never
  | lt (than : Word)
  | eq (than : Word)
  | le (than : Word)
  | gt (than : Word)
  | ne (than : Word)
  | ge (than : Word)
  | always
  deriving DecidableEq

namespace Comparator

def check (c : Comparator) (w : Word) : Bool :=
  match c with
  | never => false
  | lt than => decide (w < than)
  | eq than => w == than
  | le than => decide (w ≤ than)
  | gt than => decide (than < w)
  | ne than => w != than
  | ge than => decide (than ≤ w)
  | always => true

def display : Comparator → String
  | never => "never"
  | lt than => s!"< {than.toNat}"
  | eq than => s!"== {than.toNat}"
  | le than => s!"<= {than.toNat}"
  | gt than => s!"> {than.toNat}"
  | ne than => s!"!= {than.toNat}"
  | ge than => s!">= {than.toNat}"
  | always => "always"

end Comparator

inductive Breakpoint where
  | instruction (a : VirtualAddress)
  | register (r : Register) (c : Comparator)
  /-- A word of memory, which is read without page tables and without being logged. -/
  | memory (a : PhysicalAddress) (c : Comparator)
  deriving DecidableEq

namespace Breakpoint

def check (b : Breakpoint) (regs : RegisterFile) (memory : Memory) : Bool :=
  match b with
  | instruction a => regs.eip == a
  | register r c => c.check (regs.read r)
  | .memory a c =>
    match memory.readWord a with
    | .ok w => c.check w
    | .error _ => false

def describe (b : Breakpoint) : String :=
  let condition := match b with
    | instruction a => s!"EIP == {a.display}"
    | register r c => s!"{r.display} {c.display}"
    | memory a c => s!"mem[{a.display}] {c.display}"
  s!"Breakpoint({condition})"

end Breakpoint

end Triword
