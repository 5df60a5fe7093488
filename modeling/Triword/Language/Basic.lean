import Triword.Instruction.Operand
import Triword.Language.Definition
import Triword.Language.Error
import Triword.Regex.Expression
import Triword.Text.Occurrence

/-!
Languages, which are made from definitions. An instruction whose operands may have several types becomes
several variants, one for each combination of types that is not ruled out; the expression of a variant
is that of the instruction with a named group in the place of each operand. Expressions are read with a table
of the properties of characters.
-/

namespace Triword

namespace Language

/-- An operand of a variant, whose text is that of the group with its name. -/
structure VariantOperand where
  name : String
  kind : OperandKind

structure Variant where
  mnemonic : String
  type : InstructionType
  opcode : BitVec 7
  operands : List VariantOperand
  regex : Regex.Expression

end Language

structure Language where
  comment : Regex.Expression
  declaration : Regex.Expression
  usage : Regex.Expression
  variants : List Language.Variant

namespace Language

section

variable (properties : Regex.Properties)

def readRegex (pattern : String) (ignoreCase : Bool) : Except DefinitionError Regex.Expression :=
  match Regex.Expression.read? properties pattern ignoreCase with
  | some e => .ok e
  | none => .error (.regex pattern)

def whole (pattern : String) : String :=
  s!"^(?:{pattern})$"

structure KnownType where
  name : String
  kind : OperandKind
  regex : String

def knownType (t : OperandType) : Except DefinitionError KnownType := do
  let some kind := (Bits.ofDigits 7 t.code).toOption.bind OperandKind.ofCode?
    | throw (.invalidOperandCode t.name t.code)
  discard (readRegex properties t.regex true)
  return ⟨t.name, kind, t.regex⟩

def typeNamed (types : List KnownType) (mnemonic name : String) : Except DefinitionError KnownType :=
  match types.find? fun t => t.name == name with
  | some t => .ok t
  | none => .error (.unknownOperandType mnemonic name)

def isIdentifier (name : String) : Bool :=
  match name.toList with
  | [] => false
  | c :: cs => (c.isAlpha || c == '_') && cs.all fun c => c.isAlphanum || c == '_'

def placeholder (name : String) : String :=
  s!"__{name.toUpper}__"

/-- The types that an operand may have, once its name and its placeholder have been looked at. -/
def allowedTypes (types : List KnownType) (r : InstructionRule) (o : OperandRule) :
    Except DefinitionError (List KnownType) := do
  if !isIdentifier o.name then
    throw (.invalidOperandName r.mnemonic o.name)
  if !Text.occursIn (placeholder o.name).toList r.regex.toList then
    throw (.missingPlaceholder r.mnemonic (placeholder o.name))
  o.allowedTypes.mapM (typeNamed types r.mnemonic)

/-- All ways to choose an item from each list; those that differ in the last choice come together. -/
def choices {α : Type} : List (List α) → List (List α)
  | [] => [[]]
  | xs :: rest => xs.flatMap fun x => (choices rest).map (x :: ·)

def fillTemplate (template : String) (operands : List (String × KnownType)) : String :=
  operands.foldl (fun pattern (name, t) =>
    Text.replaceAll (placeholder name) s!"(?P<{name}>{t.regex})" pattern) template

def variant (r : InstructionRule) (opcode : BitVec 7) (types : List KnownType) :
    Except DefinitionError Variant := do
  let operands := (r.operands.map OperandRule.name).zip types
  return {
    mnemonic := r.mnemonic
    type := r.type
    opcode := opcode
    operands := operands.map fun (name, t) => ⟨name, t.kind⟩
    regex := ← readRegex properties (whole (fillTemplate r.regex operands)) true }

def instructionVariants (types : List KnownType) (r : InstructionRule) :
    Except DefinitionError (List Variant) := do
  let opcode ← (Bits.ofDigits 7 r.opcode).mapError fun _ => .invalidOpcode r.mnemonic r.opcode
  if r.operands.length > maxOperands then
    throw (.tooManyOperands r.mnemonic)
  let allowed ← r.operands.mapM (allowedTypes types r)
  let illegal ← r.illegalCombinations.mapM (·.mapM (typeNamed types r.mnemonic))
  let illegalNames := illegal.map (·.map KnownType.name)
  let legal := (choices allowed).filter fun combination =>
    !illegalNames.contains (combination.map KnownType.name)
  legal.mapM (variant properties r opcode)

def ofDefinition (d : Definition) : Except DefinitionError Language := do
  let comment ← readRegex properties d.commentFormat false
  let declaration ← readRegex properties d.labelFormats.declaration false
  let usage ← readRegex properties (whole d.labelFormats.usage) false
  let types ← d.operandTypes.mapM (knownType properties)
  let variants ← d.instructions.mapM (instructionVariants properties types)
  return ⟨comment, declaration, usage, variants.flatten⟩

end

def read (text : String) : Except DefinitionError Language :=
  match Definition.read? text with
  | some d => ofDefinition .standard d
  | none => .error .document

def stripComments (l : Language) (line : String) : String :=
  l.comment.erase line

def declaredLabel? (l : Language) (line : String) : Option String := do
  let name ← (← l.declaration.captures? line).numbered? 1
  if l.usage.isMatch name then return name else failure

structure Match where
  variant : Variant
  captures : Regex.Expression.Captures

def variantsMatching (l : Language) (line : String) : List Match :=
  l.variants.filterMap fun v => (v.regex.captures? line).map (⟨v, ·⟩)

end Language

end Triword
