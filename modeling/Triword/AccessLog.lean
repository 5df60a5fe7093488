import Std.Data.ExtTreeMap
import Triword.Address

/-!
A log of the accesses to memory, by place.
-/

namespace Triword

structure AccessSet where
  read : Bool
  written : Bool
  /-- Written with another byte than before. -/
  modified : Bool
  deriving DecidableEq

namespace AccessSet

def none : AccessSet := ⟨false, false, false⟩

def reading : AccessSet := ⟨true, false, false⟩

def writing : AccessSet := ⟨false, true, false⟩

def modifying : AccessSet := ⟨false, false, true⟩

def union (s t : AccessSet) : AccessSet :=
  ⟨s.read || t.read, s.written || t.written, s.modified || t.modified⟩

def accessed (s : AccessSet) : Bool :=
  s.read || s.written || s.modified

def describe (s : AccessSet) : String :=
  s!"AccessSet \x7b read: {s.read}, written: {s.written}, modified: {s.modified} \x7d"

end AccessSet

/-- What each place has seen since the log was cleared. -/
structure AccessLog where
  places : Std.ExtTreeMap Word AccessSet

namespace AccessLog

def empty : AccessLog := ⟨∅⟩

def get (log : AccessLog) (a : PhysicalAddress) : AccessSet :=
  log.places.getD a.word .none

def add (log : AccessLog) (a : PhysicalAddress) (s : AccessSet) : AccessLog :=
  ⟨log.places.insert a.word ((log.get a).union s)⟩

def toList (log : AccessLog) : List (PhysicalAddress × AccessSet) :=
  log.places.toList.map fun (a, s) => (⟨a⟩, s)

end AccessLog

end Triword
