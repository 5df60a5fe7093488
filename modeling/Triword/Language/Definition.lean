import Triword.Instruction.Operation
import Triword.Language.Json

/-!
Definitions of an assembly language: the written forms of comments and labels, the types of operand, and
the instructions, all by regular expressions. A definition is written as a JSON document, in which the
fields of each part stand under their names in an object or in order in an array.
-/

namespace Triword.Language

structure OperandType where
  name : String
  code : String
  regex : String
  deriving DecidableEq

structure OperandRule where
  name : String
  allowedTypes : List String
  deriving DecidableEq

structure InstructionRule where
  mnemonic : String
  opcode : String
  type : InstructionType
  operands : List OperandRule
  /-- Types, one for each operand, that do not go together. -/
  illegalCombinations : List (List String)
  /-- The whole instruction, with a placeholder for each operand. -/
  regex : String
  deriving DecidableEq

structure LabelFormats where
  /-- A line that declares a label, whose name is the first group. -/
  declaration : String
  usage : String
  deriving DecidableEq

structure Definition where
  commentFormat : String
  labelFormats : LabelFormats
  operandTypes : List OperandType
  instructions : List InstructionRule
  deriving DecidableEq

namespace Definition

/--
The values of named fields in order. An object may hold other members, but none of these twice; an array
holds exactly these.
-/
def fields? (names : List String) : Json → Option (List (Option Json))
  | .object members =>
    let keys := members.map Prod.fst
    if keys.all Option.isSome && names.all fun n => decide (keys.count (some n) ≤ 1) then
      some (names.map fun n => members.lookup (some n))
    else none
  | .array items => if items.length = names.length then some (items.map some) else none
  | _ => none

def string? : Json → Option String
  | .string s => s
  | _ => none

def list? {α : Type} (read? : Json → Option α) : Json → Option (List α)
  | .array items => items.mapM read?
  | _ => none

def listOrNone? {α : Type} (read? : Json → Option α) : Option Json → Option (List α)
  | some v => list? read? v
  | none => some []

/-- A letter, which may also be the key of an object that holds nothing more. -/
def type? : Json → Option InstructionType
  | .string s => s.bind InstructionType.ofLetter?
  | .object [(s, .null)] => s.bind InstructionType.ofLetter?
  | _ => none

def operandType? (v : Json) : Option OperandType := do
  match ← fields? ["name", "code", "regex"] v with
  | [name, code, regex] => return ⟨← name >>= string?, ← code >>= string?, ← regex >>= string?⟩
  | _ => failure

def operandRule? (v : Json) : Option OperandRule := do
  match ← fields? ["name", "allowed_types"] v with
  | [name, types] => return ⟨← name >>= string?, ← types >>= list? string?⟩
  | _ => failure

def instructionRule? (v : Json) : Option InstructionRule := do
  match ← fields? ["mnemonic", "opcode", "type", "operands", "illegal_combinations_of_operand_types",
      "regex"] v with
  | [mnemonic, opcode, type, operands, illegal, regex] =>
    return {
      mnemonic := ← mnemonic >>= string?
      opcode := ← opcode >>= string?
      type := ← type >>= type?
      operands := ← listOrNone? operandRule? operands
      illegalCombinations := ← listOrNone? (list? string?) illegal
      regex := ← regex >>= string? }
  | _ => failure

def labelFormats? (v : Json) : Option LabelFormats := do
  match ← fields? ["declaration", "usage"] v with
  | [declaration, usage] => return ⟨← declaration >>= string?, ← usage >>= string?⟩
  | _ => failure

def ofJson? (v : Json) : Option Definition := do
  match ← fields? ["comment_format", "label_formats", "operand_types", "instructions"] v with
  | [comment, labels, types, instructions] =>
    return {
      commentFormat := ← comment >>= string?
      labelFormats := ← labels >>= labelFormats?
      operandTypes := ← types >>= list? operandType?
      instructions := ← instructions >>= list? instructionRule? }
  | _ => failure

def read? (text : String) : Option Definition :=
  Json.read? text >>= ofJson?

def writeStrings (ss : List String) : String :=
  Json.writeArray (ss.map Json.writeString)

def writeOperandType (t : OperandType) : String :=
  Json.writeObject [("name", Json.writeString t.name), ("code", Json.writeString t.code),
    ("regex", Json.writeString t.regex)]

def writeOperandRule (r : OperandRule) : String :=
  Json.writeObject [("name", Json.writeString r.name), ("allowed_types", writeStrings r.allowedTypes)]

def writeInstructionRule (r : InstructionRule) : String :=
  Json.writeObject [("mnemonic", Json.writeString r.mnemonic), ("opcode", Json.writeString r.opcode),
    ("type", Json.writeString r.type.letter),
    ("operands", Json.writeArray (r.operands.map writeOperandRule)),
    ("illegal_combinations_of_operand_types",
      Json.writeArray (r.illegalCombinations.map writeStrings)),
    ("regex", Json.writeString r.regex)]

def write (d : Definition) : String :=
  Json.writeObject [("comment_format", Json.writeString d.commentFormat),
    ("label_formats", Json.writeObject [("declaration", Json.writeString d.labelFormats.declaration),
      ("usage", Json.writeString d.labelFormats.usage)]),
    ("operand_types", Json.writeArray (d.operandTypes.map writeOperandType)),
    ("instructions", Json.writeArray (d.instructions.map writeInstructionRule))]

end Definition

end Triword.Language
