import Triword.Address
import Triword.Eflags
import Triword.Keystream
import Triword.Register

/-!
The contents of the registers. Operands see each register as a word: the flags are widened with zeros,
and a guest page table pointer that is absent reads as zero.
-/

namespace Triword

structure RegisterFile where
  eax : Word
  ebx : Word
  ecx : Word
  esp : VirtualAddress
  eip : VirtualAddress
  /-- The header word of the instruction fetched last. -/
  eir : Word
  eflags : Eflags
  /-- The table of interrupt handlers. -/
  itp : VirtualAddress
  /-- The page table. -/
  ptp : PhysicalAddress
  /-- The host page table. -/
  nptp : PhysicalAddress
  /-- The guest page table, present while the machine is virtualized. -/
  gptp : Option PhysicalAddress
  /-- The control structure of the virtual machine. -/
  vmptr : PhysicalAddress
  deriving DecidableEq

inductive Fill where
  | known (value : Word)
  | seeded (seed : BitVec 64)
  deriving DecidableEq

namespace Fill

def words : Fill → Word × Word × Word
  | known value => (value, value, value)
  | seeded seed =>
    let block := Keystream.block seed
    (block[0], block[1], block[2])

end Fill

namespace RegisterFile

def initial (fill : Fill) : RegisterFile :=
  let (a, b, c) := fill.words
  { eax := a, ebx := b, ecx := c, esp := .zero, eip := .zero, eir := 0, eflags := .clear
    itp := .zero, ptp := .zero, nptp := .zero, gptp := none, vmptr := .zero }

def read (regs : RegisterFile) : Register → Word
  | .eax => regs.eax
  | .ebx => regs.ebx
  | .ecx => regs.ecx
  | .esp => regs.esp.word
  | .eip => regs.eip.word
  | .eir => regs.eir
  | .eflags => regs.eflags.toWord
  | .itp => regs.itp.word
  | .ptp => regs.ptp.word
  | .nptp => regs.nptp.word
  | .gptp => (regs.gptp.map Address.word).getD 0
  | .vmptr => regs.vmptr.word

/-- The flags take the last byte of the word, and a guest page table pointer becomes present. -/
def write (regs : RegisterFile) (r : Register) (w : Word) : RegisterFile :=
  match r with
  | .eax => { regs with eax := w }
  | .ebx => { regs with ebx := w }
  | .ecx => { regs with ecx := w }
  | .esp => { regs with esp := ⟨w⟩ }
  | .eip => { regs with eip := ⟨w⟩ }
  | .eir => { regs with eir := w }
  | .eflags => { regs with eflags := .ofByte (Bits.lowByte w) }
  | .itp => { regs with itp := ⟨w⟩ }
  | .ptp => { regs with ptp := ⟨w⟩ }
  | .nptp => { regs with nptp := ⟨w⟩ }
  | .gptp => { regs with gptp := some ⟨w⟩ }
  | .vmptr => { regs with vmptr := ⟨w⟩ }

def describe (regs : RegisterFile) (r : Register) : String :=
  let named (content : String) := s!"{r.display} = {content}"
  match r with
  | .eax => named (Bits.describe regs.eax)
  | .ebx => named (Bits.describe regs.ebx)
  | .ecx => named (Bits.describe regs.ecx)
  | .esp => named regs.esp.describe
  | .eip => named regs.eip.describe
  | .eir => named (Bits.describe regs.eir)
  | .eflags => regs.eflags.describe
  | .itp => named regs.itp.describe
  | .ptp => named regs.ptp.describe
  | .nptp => named regs.nptp.describe
  | .gptp => (regs.gptp.map fun a => named a.describe).getD "absent"
  | .vmptr => named regs.vmptr.describe

end RegisterFile

end Triword
