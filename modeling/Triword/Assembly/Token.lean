import Triword.Register
import Triword.Text.Class
import Triword.Text.Numeral

/-!
Operands as they are written: `$5` is a number, `@5` an address, `%eax` a register, `*%eax` a register
that holds an address, and `loop` a label. Numbers are decimal, or after `0x` in base sixteen, or after
`0b` in base two; a minus may stand in front.
-/

namespace Triword.Assembly

inductive Token where
  | immediate (value : Int)
  | address (value : Word)
  | register (r : Register)
  | indirect (r : Register)
  | label (name : String)
  deriving DecidableEq

inductive TokenError where
  | immediateRange
  | addressRange
  | invalidHex
  | invalidBinary
  | invalidDecimal
  | noDigits
  /-- A number cannot be read for a reason that is not known. -/
  | unreadable
  | unknownRegister
  | indirectLiteral
  | unknownSymbol
  deriving DecidableEq

namespace TokenError

def message : TokenError → String
  | immediateRange => "immediate does not fit in a double word"
  | addressRange => "address does not fit in the address space"
  | invalidHex => "invalid hex literal"
  | invalidBinary => "invalid binary literal"
  | invalidDecimal => "invalid decimal literal"
  | noDigits => "literal has no digits"
  | unreadable => "could not parse integer"
  | unknownRegister => "invalid register"
  | indirectLiteral => "only registers can be used indirectly"
  | unknownSymbol => "unrecognized symbol"

def hint : TokenError → Option String
  | immediateRange => some "the range for an immediate is [-2147483648, 4294967295]"
  | addressRange => some "the range for an address is [0, 4294967295]"
  | invalidHex => some "a hex literal starts with '0x' and consists of 0-9, A-F"
  | invalidBinary => some "a binary literal starts with '0b' and consists of 0 and 1"
  | invalidDecimal => some "a decimal literal only consists of digits 0-9"
  | noDigits => some "there should be digits here"
  | unreadable => none
  | unknownRegister => some ("registers are " ++ ", ".intercalate (Register.all.map Register.display))
  | indirectLiteral => some "load the address into a register and use `*%reg`"
  | unknownSymbol => some "this char does not occur in any operand"

end TokenError

namespace Token

def readMagnitude (tooLarge : TokenError) : List Char → Except TokenError Nat
  | '0' :: 'x' :: digits | '0' :: 'X' :: digits => digitsIn 16 .invalidHex digits
  | '0' :: 'b' :: digits | '0' :: 'B' :: digits => digitsIn 2 .invalidBinary digits
  | digits => digitsIn 10 .invalidDecimal digits
where
  digitsIn (base : Nat) (invalid : TokenError) (digits : List Char) : Except TokenError Nat :=
    (Text.readNumeral base (Bits.bound 64) digits).mapError fun
      | .empty => .noDigits
      | .digit => invalid
      | .overflow => tooLarge

def readInteger (tooLarge : TokenError) : List Char → Except TokenError Int
  | '-' :: digits => return -(← readMagnitude tooLarge digits : Nat)
  | digits => return (← readMagnitude tooLarge digits : Nat)

def readImmediate (body : List Char) : Except TokenError Token := do
  let v ← readInteger .immediateRange body
  if -0x80000000 ≤ v ∧ v < 0x100000000 then return .immediate v else throw .immediateRange

def readAddress (body : List Char) : Except TokenError Token := do
  let v ← readInteger .addressRange body
  if 0 ≤ v ∧ v < 0x100000000 then return .address (BitVec.ofInt 32 v) else throw .addressRange

def readRegister (make : Register → Token) (name : List Char) : Except TokenError Token :=
  match Register.ofName? (String.ofList name) with
  | some r => .ok (make r)
  | none => .error .unknownRegister

def literalBody : List Char → List Char
  | '-' :: cs => '-' :: cs.takeWhile Text.isWordChar
  | cs => cs.takeWhile Text.isWordChar

def isLabelStart (c : Char) : Bool :=
  c.isAlpha || c == '_'

/-- Reads a token from the start, as far as it goes, and counts its characters. -/
def readLongest : List Char → Except TokenError (Token × Nat)
  | '*' :: '$' :: _ | '*' :: '@' :: _ => .error .indirectLiteral
  | '*' :: '%' :: cs =>
    let name := cs.takeWhile Text.isWordChar
    return (← readRegister .indirect name, name.length + 2)
  | '$' :: cs =>
    let body := literalBody cs
    return (← readImmediate body, body.length + 1)
  | '@' :: cs =>
    let body := literalBody cs
    return (← readAddress body, body.length + 1)
  | '%' :: cs =>
    let name := cs.takeWhile Text.isWordChar
    return (← readRegister .register name, name.length + 1)
  | c :: cs =>
    if isLabelStart c then
      let name := c :: cs.takeWhile Text.isWordChar
      return (.label (String.ofList name), name.length)
    else throw .unknownSymbol
  | [] => .error .unknownSymbol

def isGap (c : Char) : Bool :=
  c == ' ' || c == '\t'

def read (text : String) : Except TokenError Token := do
  let cs := text.toList.dropWhile isGap
  let (token, size) ← readLongest cs
  match (cs.drop size).dropWhile isGap with
  | [] => return token
  | rest =>
    -- What is left has the error that it would have at the start, if it has one.
    discard (readLongest rest)
    throw .unknownSymbol

end Token

end Triword.Assembly
