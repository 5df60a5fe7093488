import Triword.Regex.Reader
import Triword.Regex.Search
import Triword.Regex.Size

/-!
Regular expressions with their written form, and what they match in texts.
-/

namespace Triword.Regex

structure Expression where
  source : String
  node : Node
  names : List (String × Nat)
  code : Array Step := node.code.toArray
  code_eq : code = node.code.toArray := by rfl

namespace Expression

def read? (properties : Properties) (source : String) (ignoreCase : Bool) : Option Expression := do
  let (node, names) ← Regex.read? properties source.toList ignoreCase
  if node.fits then return { source, node, names } else failure

structure Captures where
  text : List Char
  /-- Where groups begin and end, the last mark first. -/
  marks : List Mark
  names : List (String × Nat)

def captures? (e : Expression) (text : String) : Option Captures :=
  (Search.first? e.code (.start text.toList)).map fun m => ⟨text.toList, m.marks, e.names⟩

def isMatch (e : Expression) (text : String) : Bool :=
  (Search.first? e.code (.start text.toList)).isSome

def erase (e : Expression) (text : String) : String :=
  let cs := text.toList
  String.ofList (Search.without 0 cs (Search.all e.code cs))

namespace Captures

def pos? (c : Captures) (number : Nat) (isOpen : Bool) : Option Nat :=
  (c.marks.find? fun m => m.group == number && m.isOpen == isOpen).map Mark.pos

def numbered? (c : Captures) (number : Nat) : Option String := do
  let start ← c.pos? number true
  let stop ← c.pos? number false
  return String.ofList ((c.text.drop start).take (stop - start))

def named? (c : Captures) (name : String) : Option String :=
  (c.names.lookup name).bind c.numbered?

end Captures

end Expression

end Triword.Regex
