import Triword.Adder
import Triword.Eflags

/-!
The arithmetic-logic unit. Each operation takes the flags and its operands and answers with the result
and the new flags. Sums come from the adder, products from Booth's algorithm and quotients from a
restoring division; subtraction adds the two's complement, and its carry is that of this addition.
-/

namespace Triword

abbrev Flagged (α : Type) := α × Eflags

namespace Alu

def evenParity (w : Word) : Bool :=
  Bits.ones (Bits.lowByte w) % 2 == 0

def withResult (f : Eflags) (result : Word) : Eflags :=
  { f with zero := result == 0#32, sign := result.msb, parity := evenParity result }

/-! ### Sums -/

/--
`a + b` with a carry in. The carry flag is the carry out; a sum overflows when the carries into and
out of its top place differ.
-/
def addWithCarry (f : Eflags) (a b : Word) (carryIn : Bool) : Flagged Word :=
  let carries := Adder.carries a b carryIn
  let result := Adder.sum a b carryIn
  let carryOut := carries.getLsbD 32
  (result, withResult { f with carry := carryOut, overflow := carryOut ^^ carries.getLsbD 31 } result)

def add (f : Eflags) (a b : Word) : Flagged Word :=
  addWithCarry f a b false

def adc (f : Eflags) (a b : Word) : Flagged Word :=
  addWithCarry f a b f.carry

def sub (f : Eflags) (a b : Word) : Flagged Word :=
  addWithCarry f a (Adder.negate b) false

def sbb (f : Eflags) (a b : Word) : Flagged Word :=
  addWithCarry f a (Adder.negate b) f.carry

def neg (f : Eflags) (a : Word) : Flagged Word :=
  addWithCarry f (~~~a) 1#32 false

def keepingCarry (f : Eflags) (r : Flagged Word) : Flagged Word :=
  (r.1, { r.2 with carry := f.carry })

def inc (f : Eflags) (a : Word) : Flagged Word :=
  keepingCarry f (add f a 1#32)

def dec (f : Eflags) (a : Word) : Flagged Word :=
  keepingCarry f (sub f a 1#32)

def cmp (f : Eflags) (a b : Word) : Eflags :=
  (sub f a b).2

/-! ### Bitwise operations -/

def logic (f : Eflags) (result : Word) : Flagged Word :=
  (result, withResult { f with carry := false, overflow := false } result)

def and (f : Eflags) (a b : Word) : Flagged Word :=
  logic f (a &&& b)

def or (f : Eflags) (a b : Word) : Flagged Word :=
  logic f (a ||| b)

def xor (f : Eflags) (a b : Word) : Flagged Word :=
  logic f (a ^^^ b)

def not (f : Eflags) (a : Word) : Flagged Word :=
  logic f (~~~a)

/-! ### Multiplication -/

/--
The register of Booth's algorithm: an accumulator with one guard bit, the multiplier, and the bit that
left the multiplier last.
-/
structure Booth where
  acc : BitVec 33
  multiplier : Word
  last : Bool

namespace Booth

def start (multiplier : Word) : Booth :=
  ⟨0#33, multiplier, false⟩

def accumulate (multiplicand : BitVec 33) (b : Booth) : BitVec 33 :=
  match b.multiplier.getLsbD 0, b.last with
  | false, true => Adder.sum b.acc multiplicand false
  | true, false => Adder.sum b.acc (Adder.negate multiplicand) false
  | _, _ => b.acc

def step (multiplicand : BitVec 33) (b : Booth) : Booth :=
  let acc := b.accumulate multiplicand
  { acc := Bits.shiftRight acc acc.msb
    multiplier := Bits.shiftRight b.multiplier (acc.getLsbD 0)
    last := b.multiplier.getLsbD 0 }

def steps (multiplicand : BitVec 33) (multiplier : Word) : Nat → Booth
  | 0 => start multiplier
  | k + 1 => (steps multiplicand multiplier k).step multiplicand

end Booth

/--
The low word of the signed product. The carry and overflow flags tell whether the high word is more
than the sign of the low one.
-/
def mul (f : Eflags) (a b : Word) : Flagged Word :=
  let product := Booth.steps (a.signExtend 33) b 32
  let low := product.multiplier
  let high : Word := product.acc.setWidth 32
  let truncated := high != BitVec.fill 32 low.msb
  (low, withResult { f with carry := truncated, overflow := truncated } low)

/-! ### Division -/

def magnitude (w : Word) : Word :=
  if w.msb then Adder.negate w else w

/-- The register of a restoring division: the remainder with one guard bit, and the quotient so far. -/
structure Restoring where
  remainder : BitVec 33
  quotient : Word

namespace Restoring

def step (divisor : BitVec 33) (r : Restoring) (bit : Bool) : Restoring :=
  let remainder := Bits.shiftLeft r.remainder bit
  let complement := Adder.negate divisor
  let fits := (Adder.carries remainder complement false).msb
  { remainder := if fits then Adder.sum remainder complement false else remainder
    quotient := Bits.shiftLeft r.quotient fits }

def steps (dividend : Word) (divisor : BitVec 33) : Nat → Restoring
  | 0 => ⟨0#33, 0#32⟩
  | k + 1 => (steps dividend divisor k).step divisor (dividend.getMsbD k)

end Restoring

/--
The quotient, truncated towards zero, and the remainder, which has the sign of the dividend. Nothing
for a divisor of zero. Only the zero, sign and parity flags change; they are those of the quotient.
-/
def div (f : Eflags) (a b : Word) : Option (Flagged (Word × Word)) :=
  if b = 0#32 then none
  else
    let unsigned := Restoring.steps (magnitude a) ((magnitude b).setWidth 33) 32
    let quotient := if a.msb != b.msb then Adder.negate unsigned.quotient else unsigned.quotient
    let rest : Word := unsigned.remainder.setWidth 32
    let remainder := if a.msb then Adder.negate rest else rest
    some ((quotient, remainder), withResult f quotient)

/-! ### Shifts -/

def shiftCount (count : Word) : Nat :=
  (Bits.field count 27 5).toNat

structure Shifted where
  word : Word
  out : Bool

def Shifted.steps (step : Word → Shifted) (w : Word) : Nat → Shifted
  | 0 => ⟨w, false⟩
  | k + 1 => step (steps step w k).word

def shlStep (w : Word) : Shifted :=
  ⟨Bits.shiftLeft w false, w.msb⟩

def shrStep (w : Word) : Shifted :=
  ⟨Bits.shiftRight w false, w.getLsbD 0⟩

def sarStep (w : Word) : Shifted :=
  ⟨Bits.shiftRight w w.msb, w.getLsbD 0⟩

/--
A shift by `count` places. The carry flag is the bit that left last, the overflow flag changes for a
shift by one place only, and a shift by no place changes nothing.
-/
def shift (f : Eflags) (a : Word) (count : Nat) (step : Word → Shifted) (overflow : Shifted → Bool) :
    Flagged Word :=
  if count = 0 then (a, f)
  else
    let s := Shifted.steps step a count
    let f := { f with
      carry := s.out
      overflow := if count = 1 then overflow s else f.overflow }
    (s.word, withResult f s.word)

def shl (f : Eflags) (a count : Word) : Flagged Word :=
  shift f a (shiftCount count) shlStep fun s => s.word.msb ^^ s.out

def shr (f : Eflags) (a count : Word) : Flagged Word :=
  shift f a (shiftCount count) shrStep fun _ => a.msb

def sar (f : Eflags) (a count : Word) : Flagged Word :=
  shift f a (shiftCount count) sarStep fun _ => false

end Alu

end Triword
