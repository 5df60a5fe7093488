import Triword.Instruction.Operand
import Triword.Text.Quoted

/-!
What can be wrong with the definition of a language.
-/

namespace Triword.Language

inductive DefinitionError where
  | document
  | regex (pattern : String)
  | invalidOpcode (mnemonic opcode : String)
  | invalidOperandCode (name code : String)
  | unknownOperandType (mnemonic name : String)
  | missingPlaceholder (mnemonic placeholder : String)
  | invalidOperandName (mnemonic name : String)
  | tooManyOperands (mnemonic : String)
  deriving DecidableEq

def maxOperands : Nat := 2

namespace DefinitionError

def message : DefinitionError → String
  | document => "invalid language definition"
  | regex pattern => s!"invalid regex {Text.quoted pattern}"
  | invalidOpcode mnemonic opcode => s!"invalid opcode {Text.quoted opcode} for {mnemonic}"
  | invalidOperandCode name code => s!"invalid code {Text.quoted code} for operand type {name}"
  | unknownOperandType mnemonic name => s!"{mnemonic} refers to unknown operand type {name}"
  | missingPlaceholder mnemonic placeholder => s!"template for {mnemonic} is missing {placeholder}"
  | invalidOperandName mnemonic name => s!"invalid operand name {Text.quoted name} in {mnemonic}"
  | tooManyOperands mnemonic => s!"{mnemonic} has more than {maxOperands} operands"

def hint : DefinitionError → Option String
  | invalidOpcode _ _ => some "opcodes are 7 binary digits, such as \"0000111\""
  | invalidOperandCode _ _ =>
    let codes := ", ".intercalate (OperandKind.all.map fun k => Bits.toDigits k.code)
    some s!"operand type codes are one of {codes}"
  | unknownOperandType _ _ => some "declare the type in `operand_types`"
  | missingPlaceholder _ _ => some "every operand needs its placeholder in the template"
  | invalidOperandName _ _ => some "operand names consist of letters, digits and underscores"
  | _ => none

end DefinitionError

end Triword.Language
