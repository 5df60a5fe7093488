import Triword.Assembly.Labels
import Triword.Language.Bundled
import Triword.Program

/-!
From source text to programs. A line that declares no label is one instruction, of the one variant that
matches it, and becomes three words.
-/

namespace Triword

namespace Assembly

def encodeToken (t : LabelTable) : Token → Except Fault (AddressingMode × Word)
  | .immediate v =>
    match Bits.ofInteger v with
    | .ok w => .ok (.direct, w)
    | .error _ => .error (.token .immediateRange)
  | .address w => .ok (.direct, w)
  | .register r => .ok (.direct, r.code)
  | .indirect r => .ok (.indirect, r.code)
  | .label name =>
    match t.lookup? name with
    | some a => .ok (.direct, a.word)
    | none => .error (.undefinedLabel name)

def encodeOperand (t : LabelTable) (kind : OperandKind) (text : String) : Except Fault Operand := do
  let token ← (Token.read text).mapError .token
  let (mode, value) ← encodeToken t token
  return ⟨kind, mode, value⟩

def encodeVariant (v : Language.Variant) (operands : List Operand) : List Word :=
  let first := operands[0]?.getD .absent
  let second := operands[1]?.getD .absent
  let header : Header := {
    type := v.type.code
    opcode := v.opcode
    first := ⟨first.mode.code, first.kind.code⟩
    second := ⟨second.mode.code, second.kind.code⟩ }
  [header.encode, first.value, second.value]

def encodeMatch (t : LabelTable) (m : Language.Match) : Except Fault (List Word) := do
  let operands ← m.variant.operands.mapM fun o =>
    encodeOperand t o.kind ((m.captures.named? o.name).getD "")
  return encodeVariant m.variant operands

def encodeText (l : Language) (t : LabelTable) (text : String) : Except Fault (List Word) :=
  match l.variantsMatching text with
  | [] => .error (.unrecognized text)
  | [m] => encodeMatch t m
  | several => .error (.ambiguous (several.map fun m => m.variant.mnemonic))

def encodeLine (l : Language) (t : LabelTable) (line : SourceLine) : Except Error (List Word) :=
  match l.declaredLabel? line.text with
  | some _ => .ok []
  | none => (encodeText l t line.text).mapError fun fault => ⟨fault, line.number⟩

def encodeLines (l : Language) (t : LabelTable) (lines : List SourceLine) : Except Error (List Word) :=
  List.flatten <$> lines.mapM (encodeLine l t)

end Assembly

/-- The program of a source text, which starts at `origin`. -/
def assemble (l : Language) (origin : VirtualAddress) (source : String) :
    Except Assembly.Error Program := do
  let lines := Assembly.sourceLines l source
  let labels ← Assembly.locateLabels l origin lines
  let words ← Assembly.encodeLines l labels lines
  return ⟨origin, words, labels⟩

end Triword
