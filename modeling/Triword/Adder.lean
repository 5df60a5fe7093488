import Triword.Bits

/-!
Addition one place at a time. All the carries of an addition form one vector, whose bit `k`, counted
from the right, is the carry into place `k` and whose top bit is the carry out; the sum is then the
exclusive or of the operands and the carries into their places.
-/

namespace Triword

namespace Adder

variable {n : Nat}

/-- The carries into places `0` to `k`, computed from the right. -/
def carriesUpTo (a b : BitVec n) (carryIn : Bool) : (k : Nat) → BitVec (k + 1)
  | 0 => BitVec.ofBool carryIn
  | k + 1 =>
    let carries := carriesUpTo a b carryIn k
    let x := a.getLsbD k
    let y := b.getLsbD k
    let c := carries.msb
    BitVec.cons (x && y || c && (x ^^ y)) carries

/-- The carry into every place, and at the top the carry out. -/
def carries (a b : BitVec n) (carryIn : Bool) : BitVec (n + 1) :=
  carriesUpTo a b carryIn n

def sum (a b : BitVec n) (carryIn : Bool) : BitVec n :=
  a ^^^ b ^^^ (carries a b carryIn).setWidth n

def negate (x : BitVec n) : BitVec n :=
  sum (~~~x) 0#n true

end Adder

end Triword
