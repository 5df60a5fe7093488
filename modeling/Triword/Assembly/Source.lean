import Triword.Language.Basic
import Triword.Text.Lines

/-!
The lines of a source text that say something, once comments and the blanks around them are gone.
-/

namespace Triword.Assembly

structure SourceLine where
  number : Nat
  text : String
  deriving DecidableEq

namespace SourceLine

def ofText? (l : Language) (number : Nat) (text : String) : Option SourceLine :=
  let text := Text.trim (l.stripComments text)
  if text.isEmpty then none else some ⟨number, text⟩

end SourceLine

def sourceLines (l : Language) (source : String) : List SourceLine :=
  ((Text.lines source).zipIdx 1).filterMap fun (text, number) => SourceLine.ofText? l number text

end Triword.Assembly
