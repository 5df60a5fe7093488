import Triword.Bits

/-!
Texts as bytes.
-/

namespace Triword.Text

def utf8 (s : String) : List Byte :=
  s.toUTF8.data.toList.map UInt8.toBitVec

def ofUtf8? (bytes : List Byte) : Option String :=
  String.fromUTF8? ⟨(bytes.map UInt8.ofBitVec).toArray⟩

end Triword.Text
