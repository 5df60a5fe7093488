import Triword.Instruction
import Triword.LabelTable

/-!
Programs: words, the address of the first of them, and the labels.
-/

namespace Triword

structure Program where
  origin : VirtualAddress
  words : List Word
  labels : LabelTable
  deriving DecidableEq

namespace Program

def byteSize (p : Program) : Nat :=
  4 * p.words.length

/-- The addresses from the origin to the last byte, if there is a byte and the space does not end first. -/
def segment (p : Program) : Option (AddressRange .virtual) :=
  if p.byteSize = 0 ∨ Bits.bound 32 < p.byteSize then none
  else AddressRange.of? p.origin (p.origin.add (p.byteSize - 1))

def inThrees {α : Type} : List α → List (List α)
  | [] => []
  | [a] => [[a]]
  | [a, b] => [[a, b]]
  | a :: b :: c :: rest => [a, b, c] :: inThrees rest

def instructions (p : Program) : List (VirtualAddress × List Word) :=
  (inThrees p.words).mapIdx fun i words => (p.origin.add (Instruction.byteSize * i), words)

end Program

end Triword
