import Std.Data.ExtTreeMap
import Triword.Address

/-!
The addresses of labels, in the order of the labels.
-/

namespace Triword

structure LabelTable where
  entries : Std.ExtTreeMap String VirtualAddress
  deriving DecidableEq

namespace LabelTable

def empty : LabelTable := ⟨∅⟩

def lookup? (t : LabelTable) (label : String) : Option VirtualAddress :=
  t.entries[label]?

def insert? (t : LabelTable) (label : String) (a : VirtualAddress) : Option LabelTable :=
  if t.entries.contains label then none else some ⟨t.entries.insert label a⟩

def ofList? (bindings : List (String × VirtualAddress)) : Option LabelTable :=
  bindings.foldlM (fun t (label, a) => t.insert? label a) empty

def toList (t : LabelTable) : List (String × VirtualAddress) :=
  t.entries.toList

/-- The first label, in label order, that is bound to an address. -/
def labelAt? (t : LabelTable) (a : VirtualAddress) : Option String :=
  (t.toList.find? fun (_, b) => b == a).map Prod.fst

def size (t : LabelTable) : Nat :=
  t.entries.size

def isEmpty (t : LabelTable) : Bool :=
  t.entries.isEmpty

end LabelTable

end Triword
