import Triword.Assembly.Token
import Triword.Text.Quoted

/-!
What can be wrong with a source text, and in which line.
-/

namespace Triword.Assembly

inductive Fault where
  | unrecognized (line : String)
  | ambiguous (mnemonics : List String)
  | duplicateLabel (label : String)
  | undefinedLabel (label : String)
  | token (e : TokenError)
  deriving DecidableEq

namespace Fault

def message : Fault → String
  | unrecognized line => s!"unrecognized instruction {Text.quoted line}"
  | ambiguous mnemonics => "ambiguous instruction, could be any of " ++ ", ".intercalate mnemonics
  | duplicateLabel label => s!"label {label} was defined multiple times"
  | undefinedLabel label => s!"label {label} was never defined"
  | token e => e.message

def hint : Fault → Option String
  | unrecognized _ => some "check the mnemonic and that every operand has a type the instruction allows"
  | ambiguous _ => some "the language definition has overlapping instructions"
  | duplicateLabel _ =>
    some "labels must be unique within a file, try renaming one of the labels"
  | undefinedLabel _ => some "declare the label with `.name:` before an instruction"
  | token e => e.hint

end Fault

/-- A fault with the number of the line in which it is; the first line has the number one. -/
structure Error where
  fault : Fault
  line : Nat
  deriving DecidableEq

namespace Error

def message (e : Error) : String :=
  s!"line {e.line}: {e.fault.message}"

def hint (e : Error) : Option String :=
  e.fault.hint

def cause (e : Error) : Option String :=
  match e.fault with
  | .token t => some t.message
  | _ => none

end Error

end Triword.Assembly
