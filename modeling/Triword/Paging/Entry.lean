import Triword.Address

/-!
Page table entries: twelve flags, of which six have a meaning, and then the frame that the page is
mapped to.
-/

namespace Triword

/-- The flags of an entry, from the left. -/
inductive PageFlag where
  | present
  | writable
  | executable
  | kernelOnly
  /-- The page stays in memory; the machine takes no notice. -/
  | pinned
  | changed
  deriving DecidableEq

namespace PageFlag

def all : List PageFlag :=
  [present, writable, executable, kernelOnly, pinned, changed]

def place : PageFlag → Nat
  | present => 0
  | writable => 1
  | executable => 2
  | kernelOnly => 3
  | pinned => 4
  | changed => 5

def letter : PageFlag → Char
  | present => 'P'
  | writable => 'W'
  | executable => 'X'
  | kernelOnly => 'K'
  | pinned => 'L'
  | changed => 'C'

end PageFlag

structure PageTableEntry where
  word : Word
  deriving DecidableEq

namespace PageTableEntry

def has (e : PageTableEntry) (flag : PageFlag) : Bool :=
  e.word.getMsbD flag.place

def put (e : PageTableEntry) (flag : PageFlag) (value : Bool) : PageTableEntry :=
  ⟨Bits.set e.word flag.place value⟩

def flags (e : PageTableEntry) : BitVec 12 :=
  Bits.field e.word 0 12

def frame (e : PageTableEntry) : BitVec 20 :=
  Bits.field e.word 12 20

def withFrame (e : PageTableEntry) (frame : BitVec 20) : PageTableEntry :=
  ⟨Bits.withField e.word 12 frame⟩

def mapped (frame : BitVec 20) : PageTableEntry :=
  (((PageTableEntry.mk 0).withFrame frame).put .present true).put .writable true
    |>.put .executable true

def describe (e : PageTableEntry) : String :=
  let letters := String.ofList (PageFlag.all.map fun f => if e.has f then f.letter else '-')
  s!"PageTableEntry({letters}, frame 0x{Text.upperHex 5 e.frame.toNat})"

end PageTableEntry

end Triword
