/-!
Natural numbers in base sixteen, padded with zeros to a least number of digits.
-/

namespace Triword.Text

def hexDigits (width n : Nat) : List Char :=
  let digits := Nat.toDigits 16 n
  List.replicate (width - digits.length) '0' ++ digits

def lowerHex (width n : Nat) : String :=
  String.ofList (hexDigits width n)

def upperHex (width n : Nat) : String :=
  String.ofList ((hexDigits width n).map Char.toUpper)

end Triword.Text
