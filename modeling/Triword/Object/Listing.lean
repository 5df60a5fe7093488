import Triword.Object.Block
import Triword.Text.Lines
import Triword.Text.Numeral
import Triword.Text.Occurrence

/-!
Object files as text. After a title come sections, each with its name in the first line: code is the
origin, the number of words, and the words in binary digits; symbols are a table of addresses and labels.
Two slashes begin a comment, and empty lines do not count.
-/

namespace Triword.Object.Listing

def title : List Char :=
  "SIM32 OBJ FILE".toList

def codeName : List Char :=
  ".TEXT".toList

def symbolName : List Char :=
  ".SYMBOL".toList

def divider : List Char :=
  " | ".toList

def addressColumn : List Char :=
  "ADDR".toList

def labelColumn : List Char :=
  "LABEL".toList

def writeAddress (a : VirtualAddress) : List Char :=
  (Text.upperHex 8 a.toNat).toList

def codeLines (origin : VirtualAddress) (words : List Word) : List (List Char) :=
  codeName :: writeAddress origin :: (toString words.length).toList
    :: words.map fun w => (Bits.toDigits w).toList

/-- The columns of a table are eight characters apart, besides the divider. -/
def symbolLines : List (String × VirtualAddress) → List (List Char)
  | [] => []
  | labels =>
    symbolName :: (addressColumn ++ List.replicate 4 ' ' ++ divider ++ labelColumn)
      :: labels.map fun (label, a) => writeAddress a ++ divider ++ label.toList

def write (p : Program) : String :=
  let lines := title :: [] :: codeLines p.origin p.words ++ [] :: symbolLines p.labels.toList
  String.ofList (lines.flatMap (· ++ ['\n']))

def content (line : List Char) : List Char :=
  Text.trimEndList (Text.takeBefore ['/', '/'] line)

def contentLines (text : String) : List (List Char) :=
  ((Text.linesList (Text.trimList text.toList)).map content).filter (!·.isEmpty)

/-- A line that begins with a dot and the lines up to the next one of them. -/
structure Section where
  name : List Char
  rows : List (List Char)

def sections : List (List Char) → List (List Char) × List Section
  | [] => ([], [])
  | line :: lines =>
    let (rows, rest) := sections lines
    if line.head? = some '.' then ([], ⟨line, rows⟩ :: rest) else (line :: rows, rest)

/-- Eight digits in base sixteen with blanks around them; the first one may be a plus sign. -/
def readAddress? (cs : List Char) : Option VirtualAddress :=
  let cs := Text.trimList cs
  if cs.length = 8 then (Text.readSigned? 16 (Bits.bound 32) cs).map fun n => ⟨BitVec.ofNat 32 n⟩ else none

def readWord? (cs : List Char) : Option Word :=
  (Bits.ofDigits 32 (String.ofList (Text.trimList cs))).toOption

def readRow? (row : List Char) : Option (List Char × List Char) :=
  (Text.splitAtFirst? divider row).map fun (a, b) => (Text.trimList a, Text.trimList b)

def readCode? : List (List Char) → Option (List Block)
  | origin :: count :: rows => do
    let origin ← readAddress? origin
    let count ← Text.readSigned? 10 (Bits.bound 64) (Text.trimList count)
    if rows.length ≠ count then failure
    return [.code origin (← rows.mapM readWord?)]
  | _ => none

def readLabel? (row : List Char) : Option Block := do
  let (address, label) ← readRow? row
  return .label (String.ofList label) (← readAddress? address)

/-- The names of the columns, unless there is no row at all, and the labels. -/
def readSymbols? : List (List Char) → Option (List Block)
  | [] => some []
  | header :: rows => do
    if readRow? header ≠ some (addressColumn, labelColumn) then failure
    rows.mapM readLabel?

def readSection? (s : Section) : Option (List Block) :=
  if s.name = codeName then readCode? s.rows
  else if s.name = symbolName then readSymbols? s.rows
  else none

def read? (text : String) : Option Program := do
  let first :: lines := contentLines text | none
  let (stray, sections) := sections lines
  if first ≠ title ∨ stray ≠ [] then failure
  ofBlocks? (← sections.mapM readSection?).flatten

end Triword.Object.Listing
