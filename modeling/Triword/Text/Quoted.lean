import Triword.Text.Class
import Triword.Text.Hex

/-!
Text and characters between quotes, as messages show them: with short escapes for the common controls,
for the backslash and for the quote itself, and with the number of every other hidden character.
-/

namespace Triword.Text

def escaped (quote c : Char) : List Char :=
  match c with
  | '\x00' => ['\\', '0']
  | '\t' => ['\\', 't']
  | '\r' => ['\\', 'r']
  | '\n' => ['\\', 'n']
  | '\\' => ['\\', '\\']
  | _ =>
    if c = quote then ['\\', c]
    else if isHidden c then
      ['\\', 'u', '\x7b'] ++ hexDigits 1 c.toNat ++ ['\x7d']
    else [c]

def quoted (s : String) : String :=
  String.ofList ('"' :: s.toList.flatMap (escaped '"') ++ ['"'])

def quotedChar (c : Char) : String :=
  String.ofList ('\'' :: escaped '\'' c ++ ['\''])

end Triword.Text
