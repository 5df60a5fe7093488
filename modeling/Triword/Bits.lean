import Triword.Text.Quoted

/-!
Bit vectors read from the most significant end: bit `0` is the most significant one. The vectors are
those of `BitVec`; this module adds the readings, the fields and the written form that the machine
uses, together with the two ways in which a value can fail to fit.
-/

namespace Triword

/-- What a register, an operand and an instruction slot hold. -/
abbrev Word := BitVec 32

instance : Std.TransOrd Word := inferInstance

abbrev Byte := BitVec 8

structure OutOfRange where
  value : Int
  width : Nat
  deriving DecidableEq

structure WidthMismatch where
  expected : Nat
  found : Nat
  deriving DecidableEq

inductive DigitsError where
  | width (mismatch : WidthMismatch)
  | digit (c : Char)
  deriving DecidableEq

namespace OutOfRange

def message (e : OutOfRange) : String :=
  s!"{e.value} does not fit in {e.width} bits"

def hint (e : OutOfRange) : Option String :=
  if e.width = 32 then some "double words hold integers in [-2147483648, 4294967295]" else none

end OutOfRange

namespace WidthMismatch

def message (e : WidthMismatch) : String :=
  s!"expected a {e.expected}-bit value, found {e.found} bits"

def hint (e : WidthMismatch) : String :=
  s!"provide exactly {e.expected} bits"

end WidthMismatch

namespace DigitsError

def message : DigitsError → String
  | width e => e.message
  | digit c => s!"invalid binary digit {Text.quotedChar c}"

def hint : DigitsError → String
  | width e => e.hint
  | digit _ => "binary strings only consist of 0 and 1"

end DigitsError

namespace Bits

variable {n : Nat}

/-! ### Integers -/

def bound (n : Nat) : Nat :=
  Nat.pow 2 n

def ofUnsigned (n : Nat) (v : Nat) : Except OutOfRange (BitVec n) :=
  if v < bound n then .ok (BitVec.ofNat n v) else .error ⟨v, n⟩

def ofSigned (n : Nat) (v : Int) : Except OutOfRange (BitVec n) :=
  if -Int.ofNat (bound (n - 1)) ≤ v ∧ v < Int.ofNat (bound (n - 1)) then .ok (BitVec.ofInt n v) else .error ⟨v, n⟩

/-- A word holds the signed integers down to `-2^31` and the unsigned ones below `2^32`. -/
def ofInteger (v : Int) : Except OutOfRange Word :=
  if v < 0 then ofSigned 32 v else ofUnsigned 32 v.toNat

/-! ### Bits by their place from the left -/

def toBools (x : BitVec n) : List Bool :=
  (List.range n).map x.getMsbD

def ofBools (n : Nat) (bits : List Bool) : Except WidthMismatch (BitVec n) :=
  if h : bits.length = n then .ok ((BitVec.ofBoolListBE bits).cast h) else .error ⟨n, bits.length⟩

/-- Bit `i` from the left, if there is one. -/
def get? (x : BitVec n) (i : Nat) : Option Bool :=
  if i < n then some (x.getMsbD i) else none

def set (x : BitVec n) (i : Nat) (value : Bool) : BitVec n :=
  let mask := BitVec.twoPow n (n - 1 - i)
  if value then x ||| mask else x &&& ~~~mask

def set? (x : BitVec n) (i : Nat) (value : Bool) : Option (BitVec n) :=
  if i < n then some (set x i value) else none

def ones (x : BitVec n) : Nat :=
  (toBools x).countP id

/-! ### Fields -/

def field (x : BitVec n) (start m : Nat) : BitVec m :=
  x.extractLsb' (n - start - m) m

def withField {m : Nat} (x : BitVec n) (start : Nat) (value : BitVec m) : BitVec n :=
  let mask := (BitVec.allOnes m).setWidth n <<< (n - start - m)
  (x &&& ~~~mask) ||| (value.setWidth n <<< (n - start - m))

def field? (x : BitVec n) (start m : Nat) : Option (BitVec m) :=
  if start + m ≤ n then some (field x start m) else none

def withField? {m : Nat} (x : BitVec n) (start : Nat) (value : BitVec m) : Option (BitVec n) :=
  if start + m ≤ n then some (withField x start value) else none

def mostSignificant? (x : BitVec n) (m : Nat) : Option (BitVec m) :=
  field? x 0 m

def leastSignificant? (x : BitVec n) (m : Nat) : Option (BitVec m) :=
  if m ≤ n then some (field x (n - m) m) else none

def zeroExtend? (x : BitVec n) (m : Nat) : Option (BitVec m) :=
  if n ≤ m then some (x.setWidth m) else none

def signExtend? (x : BitVec n) (m : Nat) : Option (BitVec m) :=
  if n ≤ m then some (x.signExtend m) else none

/-! ### One place to the left or right -/

def shiftLeft (x : BitVec n) (fill : Bool) : BitVec n :=
  x.shiftConcat fill

def shiftRight (x : BitVec n) (fill : Bool) : BitVec n :=
  (BitVec.cons fill x).extractLsb' 1 n

/-! ### Bytes of a word -/

def bytes (w : Word) : List Byte :=
  [field w 0 8, field w 8 8, field w 16 8, field w 24 8]

def ofBytes (bs : List Byte) : Word :=
  bs.foldl (fun w b => w <<< 8 ||| b.setWidth 32) 0

def lowByte (w : Word) : Byte :=
  w.setWidth 8

/-! ### Written form -/

def toDigits (x : BitVec n) : String :=
  String.ofList ((toBools x).map fun b => if b then '1' else '0')

def bitOfDigit (c : Char) : Except DigitsError Bool :=
  if c = '0' then .ok false else if c = '1' then .ok true else .error (.digit c)

/--
Reads `n` digits from the left. A character that is no digit is reported before a wrong length.
-/
def ofDigits (n : Nat) (text : String) : Except DigitsError (BitVec n) := do
  let bits ← text.toList.mapM bitOfDigit
  (ofBools n bits).mapError .width

def describe (x : BitVec n) : String :=
  s!"Bits<{n}>({toDigits x})"

end Bits

end Triword
