import Triword.Object.Block
import Triword.Text.Utf8

/-!
Object files as bytes. After the mark and the version come the blocks, each with a byte in front that
tells its kind: for code the origin, the number of words and the words, for a label its address, the
number of its bytes and the bytes. The most significant byte of a number comes first.
-/

namespace Triword.Object.Binary

/-- What every file begins with: `obj2` and a space. -/
def mark : List Byte :=
  [0x6F, 0x62, 0x6A, 0x32, 0x20]

def version : List Byte :=
  [0x00, 0x01]

def codeTag : Byte := 0x00

def labelTag : Byte := 0x01

/-- A number as the given count of bytes; what does not fit is lost. -/
def writeNumber (count n : Nat) : List Byte :=
  (List.range count).reverse.map fun i => BitVec.ofNat 8 (n >>> (8 * i))

def writeBlock : Block → List Byte
  | .code origin words =>
    codeTag :: Bits.bytes origin.word ++ writeNumber 4 words.length ++ words.flatMap Bits.bytes
  | .label name address =>
    let text := Text.utf8 name
    labelTag :: Bits.bytes address.word ++ writeNumber 8 text.length ++ text

def write (p : Program) : List Byte :=
  mark ++ version ++ (blocks p).flatMap writeBlock

def take? (count : Nat) (bs : List Byte) : Option (List Byte × List Byte) :=
  if count ≤ bs.length then some (bs.splitAt count) else none

def readNumber (bs : List Byte) : Nat :=
  bs.foldl (fun n b => n * 256 + b.toNat) 0

def readWords : List Byte → List Word
  | a :: b :: c :: d :: rest => Bits.ofBytes [a, b, c, d] :: readWords rest
  | _ => []

def readBlock? : List Byte → Option (Block × List Byte)
  | [] => none
  | tag :: bs =>
    if tag = codeTag then do
      let (origin, bs) ← take? 4 bs
      let (count, bs) ← take? 4 bs
      let (words, bs) ← take? (4 * readNumber count) bs
      return (.code ⟨Bits.ofBytes origin⟩ (readWords words), bs)
    else if tag = labelTag then do
      let (address, bs) ← take? 4 bs
      let (count, bs) ← take? 8 bs
      let (text, bs) ← take? (readNumber count) bs
      return (.label (← Text.ofUtf8? text) ⟨Bits.ofBytes address⟩, bs)
    else none

theorem length_of_take? {count : Nat} {bs taken rest : List Byte} (h : take? count bs = some (taken, rest)) :
    rest.length ≤ bs.length := by
  unfold take? at h
  split at h
  · simp at h
    simp [← h.2]
  · contradiction

theorem length_of_readBlock? {bs rest : List Byte} {b : Block} (h : readBlock? bs = some (b, rest)) :
    rest.length < bs.length := by
  match bs with
  | [] => simp [readBlock?] at h
  | tag :: bs =>
    simp only [readBlock?] at h
    split at h
    · simp only [Option.bind_eq_bind, Option.bind_eq_some_iff, Option.pure_def, Option.some.injEq,
        Prod.mk.injEq] at h
      obtain ⟨⟨_, r⟩, hr, ⟨_, s⟩, hs, ⟨_, t⟩, ht, _, rfl⟩ := h
      have := length_of_take? hr
      have := length_of_take? hs
      have := length_of_take? ht
      simp_all
      omega
    · split at h
      · simp only [Option.bind_eq_bind, Option.bind_eq_some_iff, Option.pure_def, Option.some.injEq,
          Prod.mk.injEq] at h
        obtain ⟨⟨_, r⟩, hr, ⟨_, s⟩, hs, ⟨_, t⟩, ht, _, _, _, rfl⟩ := h
        have := length_of_take? hr
        have := length_of_take? hs
        have := length_of_take? ht
        simp_all
        omega
      · contradiction

def readBlocks? (bs : List Byte) : Option (List Block) :=
  if bs.isEmpty then some []
  else
    match _h : readBlock? bs with
    | some (b, rest) => (readBlocks? rest).map (b :: ·)
    | none => none
termination_by bs.length
decreasing_by exact length_of_readBlock? _h

def skip? (expected bs : List Byte) : Option (List Byte) :=
  if expected.isPrefixOf bs then some (bs.drop expected.length) else none

def read? (bs : List Byte) : Option Program := do
  let bs ← skip? (mark ++ version) bs
  ofBlocks? (← readBlocks? bs)

end Triword.Object.Binary
