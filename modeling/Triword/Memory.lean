import Std.Data.ExtTreeMap
import Triword.Trap

/-!
Memory, of which only the bytes other than zero are kept. `Memory.byteAt` is the whole of it as a
function from addresses to bytes; two memories of one capacity that agree there are equal. Words lie in
memory with the most significant byte first.
-/

namespace Triword

structure Memory where
  capacity : PhysicalAddress
  /-- The bytes other than zero, by address. -/
  cells : Std.ExtTreeMap Word Byte
  cells_ne_zero : ∀ a : Word, cells[a]? ≠ some 0#8

namespace Memory

def empty (capacity : PhysicalAddress) : Memory where
  capacity := capacity
  cells := ∅
  cells_ne_zero := by simp

def byteAt (m : Memory) (a : PhysicalAddress) : Byte :=
  m.cells.getD a.word 0#8

def store (m : Memory) (a : PhysicalAddress) (b : Byte) : Memory where
  capacity := m.capacity
  cells := if b = 0#8 then m.cells.erase a.word else m.cells.insert a.word b
  cells_ne_zero := by
    intro x
    have := m.cells_ne_zero x
    split
    · rw [Std.ExtTreeMap.getElem?_erase]
      split <;> simp_all
    · rw [Std.ExtTreeMap.getElem?_insert]
      split <;> simp_all

def size (m : Memory) : Nat :=
  m.cells.size

def isEmpty (m : Memory) : Bool :=
  m.cells.isEmpty

def toList (m : Memory) : List (PhysicalAddress × Byte) :=
  m.cells.toList.map fun (a, b) => (⟨a⟩, b)

def clear (m : Memory) : Memory :=
  empty m.capacity

/-- An action on memory. What it has written before it fails stays written. -/
abbrev Action := EStateM BeyondMemory Memory

def holds (m : Memory) (a : PhysicalAddress) : Bool :=
  decide (a.word ≤ m.capacity.word)

def check (m : Memory) (a : PhysicalAddress) : Except BeyondMemory Unit :=
  if m.holds a then .ok () else .error ⟨a, m.capacity⟩

def readByte (m : Memory) (a : PhysicalAddress) : Except BeyondMemory Byte := do
  m.check a
  return m.byteAt a

def wordPlaces (a : PhysicalAddress) : List PhysicalAddress :=
  [a, a.add 1, a.add 2, a.add 3]

def readWord (m : Memory) (a : PhysicalAddress) : Except BeyondMemory Word := do
  return Bits.ofBytes (← (wordPlaces a).mapM m.readByte)

def writeByte (a : PhysicalAddress) (b : Byte) : Action Unit := do
  let m ← get
  ofExcept (m.check a)
  set (m.store a b)

/-- The last place of a word is checked before its first byte is written. -/
def writeWord (a : PhysicalAddress) (w : Word) : Action Unit := do
  ofExcept ((← get).check (a.add 3))
  ((wordPlaces a).zip (Bits.bytes w)).forM fun (a, b) => writeByte a b

end Memory

end Triword
