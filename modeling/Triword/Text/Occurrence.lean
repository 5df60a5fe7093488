/-!
Occurrences of one list of characters in another.
-/

namespace Triword.Text

def occursIn (needle : List Char) : List Char → Bool
  | [] => needle.isEmpty
  | c :: cs => needle.isPrefixOf (c :: cs) || occursIn needle cs

/-- Leaves out the first `skip` characters and then puts `by_` for each `needle`, from the left. -/
def replaceFrom (needle by_ : List Char) : (skip : Nat) → List Char → List Char
  | _, [] => []
  | skip + 1, _ :: cs => replaceFrom needle by_ skip cs
  | 0, c :: cs =>
    if needle.isPrefixOf (c :: cs) then by_ ++ replaceFrom needle by_ (needle.length - 1) cs
    else c :: replaceFrom needle by_ 0 cs

def replaceAll (needle by_ : String) (s : String) : String :=
  String.ofList (replaceFrom needle.toList by_.toList 0 s.toList)

def takeBefore (needle : List Char) : List Char → List Char
  | [] => []
  | c :: cs => if needle.isPrefixOf (c :: cs) then [] else c :: takeBefore needle cs

def splitAtFirst? (needle : List Char) (cs : List Char) : Option (List Char × List Char) :=
  if occursIn needle cs then
    let before := takeBefore needle cs
    some (before, cs.drop (before.length + needle.length))
  else none

end Triword.Text
