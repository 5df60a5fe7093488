import Triword.Bits

/-!
Vectors of any width and integers of 64 bits. The integers are vectors of 64 bits themselves, read by `toNat` where
they are unsigned and by `toInt` where they are signed. A vector is written from an integer place by place, and the
integer is read off it bit by bit; where a vector is wider than 64 bits, its last 64 bits are read.
-/

namespace Triword

namespace Bits

variable {n : Nat}

def ofPlaces (n : Nat) (bit : Nat → Bool) : BitVec n :=
  (BitVec.ofBoolListBE ((List.range n).map bit)).cast (by rw [List.length_map, List.length_range])

def ofUnsigned64 (n : Nat) (v : BitVec 64) : Except OutOfRange (BitVec n) :=
  if n < 64 ∧ v >>> n ≠ 0 then .error ⟨v.toNat, n⟩
  else
    .ok (ofPlaces n fun i =>
      let shift := n - 1 - i
      decide (shift < 64) && (v >>> shift).getLsbD 0)

/-- The vector that holds a signed integer in two's complement. Places above its 64 bits are copies of its sign. -/
def ofSigned64 (n : Nat) (v : BitVec 64) : Except OutOfRange (BitVec n) :=
  let half := Int.ofNat (bound (n - 1))
  if 64 ≤ n ∨ (-half ≤ v.toInt ∧ v.toInt < half) then
    .ok (ofPlaces n fun i =>
      let shift := min (n - 1 - i) 63
      (v.sshiftRight shift).getLsbD 0)
  else .error ⟨v.toInt, n⟩

def pushBit (v : BitVec 64) (b : Bool) : BitVec 64 :=
  v <<< 1 ||| (BitVec.ofBool b).setWidth 64

def toUnsigned64 (x : BitVec n) : BitVec 64 :=
  (toBools x).foldl pushBit 0

/--
The signed integer that a vector holds: below zero it is the unsigned one less `2 ^ n`, if neither this number nor the
difference leaves the 64 bits.
-/
def toSigned64? (x : BitVec n) : Option (BitVec 64) :=
  let v := toUnsigned64 x
  if x.msb then
    let weight := 1#64 <<< n
    if n < 64 ∧ ¬ v.ssubOverflow weight then some (v - weight) else none
  else some v

end Bits

end Triword
