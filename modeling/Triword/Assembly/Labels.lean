import Triword.Assembly.Error
import Triword.Assembly.Source
import Triword.Instruction
import Triword.LabelTable

/-!
The addresses of the labels that a source text declares. A label stands for the instruction that comes
next; a declaration takes up no space.
-/

namespace Triword.Assembly

def instructionAddress (origin : VirtualAddress) (k : Nat) : VirtualAddress :=
  origin.add (Instruction.byteSize * k)

/-- Adds the labels of the lines, before which there are `k` instructions. -/
def locateLabelsFrom (l : Language) (origin : VirtualAddress) (t : LabelTable) (k : Nat) :
    List SourceLine → Except Error LabelTable
  | [] => .ok t
  | line :: lines =>
    match l.declaredLabel? line.text with
    | some label =>
      match t.insert? label (instructionAddress origin k) with
      | some t => locateLabelsFrom l origin t k lines
      | none => .error ⟨.duplicateLabel label, line.number⟩
    | none => locateLabelsFrom l origin t (k + 1) lines

def locateLabels (l : Language) (origin : VirtualAddress) (lines : List SourceLine) :
    Except Error LabelTable :=
  locateLabelsFrom l origin .empty 0 lines

end Triword.Assembly
