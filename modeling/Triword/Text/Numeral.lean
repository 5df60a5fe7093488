/-!
Reading natural numbers that lie below a bound, in a base of at most sixteen.
-/

namespace Triword.Text

inductive NumeralError where
  | empty
  | digit
  | overflow
  deriving DecidableEq

def digitValue? (base : Nat) (c : Char) : Option Nat :=
  let value? :=
    if c.isDigit then some (c.toNat - '0'.toNat)
    else if 'a' ≤ c.toLower ∧ c.toLower ≤ 'f' then some (c.toLower.toNat - 'a'.toNat + 10)
    else none
  value?.filter (· < base)

/-- Goes on from a number that the digits before have given; the first thing that is wrong counts. -/
def readDigits (base bound : Nat) : Nat → List Char → Except NumeralError Nat
  | n, [] => .ok n
  | n, c :: cs =>
    match digitValue? base c with
    | none => .error .digit
    | some d =>
      let next := n * base + d
      if next < bound then readDigits base bound next cs else .error .overflow

def readNumeral (base bound : Nat) : List Char → Except NumeralError Nat
  | [] => .error .empty
  | cs => readDigits base bound 0 cs

def readSigned? (base bound : Nat) (cs : List Char) : Option Nat :=
  match cs with
  | '+' :: digits => (readNumeral base bound digits).toOption
  | digits => (readNumeral base bound digits).toOption

end Triword.Text
