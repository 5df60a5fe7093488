import Triword.Adder
import Triword.Text.Hex

/-!
Addresses, which are words tagged with the space that they belong to, so that an address which a
program sees is never taken for a place in memory; and closed ranges of addresses.
-/

namespace Triword

inductive Space where
  | virtual
  | physical
  deriving DecidableEq

namespace Space

def name : Space → String
  | virtual => "virtual"
  | physical => "physical"

end Space

structure Address (space : Space) where
  word : Word
  deriving DecidableEq

abbrev VirtualAddress := Address .virtual

abbrev PhysicalAddress := Address .physical

namespace Address

variable {space : Space}

def zero : Address space := ⟨0#32⟩

instance : Inhabited (Address space) := ⟨zero⟩

/-- Addresses are unsigned, so a negative integer is none. -/
def ofInteger (v : Int) : Except OutOfRange (Address space) :=
  if v < 0 then .error ⟨v, 32⟩ else (Bits.ofUnsigned 32 v.toNat).map .mk

def toNat (a : Address space) : Nat :=
  a.word.toNat

def offset (a : Address space) (distance : Word) : Address space :=
  ⟨Adder.sum a.word distance false⟩

def add (a : Address space) (k : Nat) : Address space :=
  a.offset (BitVec.ofNat 32 k)

def identity (a : VirtualAddress) : PhysicalAddress :=
  ⟨a.word⟩

def display (a : Address space) : String :=
  s!"0x{Text.upperHex 8 a.toNat}"

def describe (a : Address space) : String :=
  s!"{space.name}({a.display})"

instance : Ord (Address space) where
  compare a b := compare a.word b.word

end Address

/-- All addresses from `low` to `high`, both included. -/
structure AddressRange (space : Space) where
  low : Address space
  high : Address space
  low_le_high : low.word ≤ high.word

namespace AddressRange

variable {space : Space}

def of? (low high : Address space) : Option (AddressRange space) :=
  if h : low.word ≤ high.word then some ⟨low, high, h⟩ else none

def size (r : AddressRange space) : Nat :=
  r.high.toNat - r.low.toNat + 1

def contains (r : AddressRange space) (a : Address space) : Bool :=
  decide (r.low.word ≤ a.word) && decide (a.word ≤ r.high.word)

def describe (r : AddressRange space) : String :=
  s!"AddressSpace \x7b low: {r.low.describe}, high: {r.high.describe} \x7d"

end AddressRange

end Triword
