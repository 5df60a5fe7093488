import Triword.Program

/-!
Object files hold programs in blocks: one for the words and one for each label.
-/

namespace Triword.Object

inductive Block where
  | code (origin : VirtualAddress) (words : List Word)
  | label (name : String) (address : VirtualAddress)
  deriving DecidableEq

namespace Block

def code? : Block → Option (VirtualAddress × List Word)
  | code origin words => some (origin, words)
  | label _ _ => none

def label? : Block → Option (String × VirtualAddress)
  | code _ _ => none
  | label name address => some (name, address)

end Block

def blocks (p : Program) : List Block :=
  .code p.origin p.words :: p.labels.toList.map fun (name, address) => .label name address

/-- The program with the given blocks, of which one holds code and no two hold the same label. -/
def ofBlocks? (bs : List Block) : Option Program :=
  match bs.filterMap Block.code? with
  | [(origin, words)] =>
    (LabelTable.ofList? (bs.filterMap Block.label?)).map fun labels => ⟨origin, words, labels⟩
  | _ => none

end Triword.Object
