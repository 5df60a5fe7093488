import Triword.Bits

/-!
Ranges of characters by their bytes in UTF-8. A range is cut into parts such that the encodings of the
characters of a part are all the sequences with one byte from each of some ranges.
-/

namespace Triword.Text

abbrev ByteRanges := List (Nat × Nat)

/--
The parts of a range of numbers that are written as a byte on top of `lead` and `n` bytes behind it, each
of which has six of the bits.
-/
def byteRanges : (n lead low high : Nat) → List ByteRanges
  | 0, lead, low, high => [[(lead + low, lead + high)]]
  | n + 1, lead, low, high =>
    let size := Bits.bound (6 * (n + 1))
    let after (first last low high : Nat) : List ByteRanges :=
      (byteRanges n 0x80 low high).map ((lead + first, lead + last) :: ·)
    let first := low / size
    let last := high / size
    if first = last then after first last (low % size) (high % size)
    else
      let cutsFirst := low % size ≠ 0
      let cutsLast := high % size ≠ size - 1
      let next := if cutsFirst then first + 1 else first
      let stop := if cutsLast then last else last + 1
      (if cutsFirst then after first first (low % size) (size - 1) else []) ++
        (if next < stop then after next (stop - 1) 0 (size - 1) else []) ++
        (if cutsLast then after last last 0 (high % size) else [])

/-- For each range of characters: what is on top of their first byte, and how many bytes follow it. -/
def utf8Zones : List (Nat × Nat × Nat × Nat) :=
  [(0, 0, 0, 0x7F), (0xC0, 1, 0x80, 0x7FF), (0xE0, 2, 0x800, 0xD7FF), (0xE0, 2, 0xE000, 0xFFFF),
   (0xF0, 3, 0x10000, 0x10FFFF)]

def utf8Ranges (low high : Nat) : List ByteRanges :=
  utf8Zones.flatMap fun (lead, n, first, last) =>
    if first ≤ high ∧ low ≤ last then byteRanges n lead (Nat.max low first) (Nat.min high last) else []

end Triword.Text
