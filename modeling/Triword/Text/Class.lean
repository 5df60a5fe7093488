import Triword.Text.DigitRanges
import Triword.Text.HiddenRanges
import Triword.Text.LetterRanges
import Triword.Text.NumberRanges
import Triword.Text.WordRanges

/-!
Classes of characters, each by its ASCII part and a table of ranges.
-/

namespace Triword.Text

def inRanges (ranges : List (Nat × Nat)) (n : Nat) : Bool :=
  ranges.any fun (low, high) => decide (low ≤ n) && decide (n ≤ high)

def blankRanges : List (Nat × Nat) :=
  [(0x9, 0xD), (0x20, 0x20), (0x85, 0x85), (0xA0, 0xA0), (0x1680, 0x1680), (0x2000, 0x200A),
   (0x2028, 0x2029), (0x202F, 0x202F), (0x205F, 0x205F), (0x3000, 0x3000)]

def isBlank (c : Char) : Bool :=
  inRanges blankRanges c.toNat

def isDecimalDigit (c : Char) : Bool :=
  if c.toNat < 128 then c.isDigit else inRanges digitRanges c.toNat

def isWordChar (c : Char) : Bool :=
  if c.toNat < 128 then c.isAlphanum || c == '_' else inRanges wordRanges c.toNat

def isLetter (c : Char) : Bool :=
  if c.toNat < 128 then c.isAlpha else inRanges letterRanges c.toNat

def isNumeric (c : Char) : Bool :=
  if c.toNat < 128 then c.isDigit else inRanges numberRanges c.toNat

/-- Whether a character does not show as itself, so that it is written by its number. -/
def isHidden (c : Char) : Bool :=
  if c.toNat < 128 then decide (c.toNat < 0x20) || c.toNat == 0x7F else inRanges hiddenRanges c.toNat

def trimStartList (cs : List Char) : List Char :=
  cs.dropWhile isBlank

def trimEndList (cs : List Char) : List Char :=
  (cs.reverse.dropWhile isBlank).reverse

def trimList (cs : List Char) : List Char :=
  trimEndList (trimStartList cs)

def trim (s : String) : String :=
  String.ofList (trimList s.toList)

end Triword.Text
