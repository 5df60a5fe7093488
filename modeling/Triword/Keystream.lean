import Triword.Bits

/-!
The words that a seed stands for: the seed is spread over a key of eight words, and the words drawn
are those of the cipher stream under this key, with twelve rounds, from counter and nonce zero.
-/

namespace Triword.Keystream

abbrev State := Vector Word 16

def spreadStep (s : BitVec 64) : BitVec 64 :=
  s * 6364136223846793005#64 + 11634580027462260723#64

def spreadWord (s : BitVec 64) : Word :=
  let mixed : Word := (((s >>> 18) ^^^ s) >>> 27).setWidth 32
  mixed.rotateRight (s >>> 59).toNat

def spread : Nat → BitVec 64 → List Word
  | 0, _ => []
  | k + 1, s =>
    let s := spreadStep s
    spreadWord s :: spread k s

def quarter (s : State) (i j k l : Fin 16) : State :=
  let a := s[i] + s[j]
  let d := (s[l] ^^^ a).rotateLeft 16
  let c := s[k] + d
  let b := (s[j] ^^^ c).rotateLeft 12
  let a := a + b
  let d := (d ^^^ a).rotateLeft 8
  let c := c + d
  let b := (b ^^^ c).rotateLeft 7
  (((s.set i a).set j b).set k c).set l d

/-- Two rounds: down the columns of the square that the words form, then along its diagonals. -/
def twoRounds (s : State) : State :=
  let s := quarter s 0 4 8 12
  let s := quarter s 1 5 9 13
  let s := quarter s 2 6 10 14
  let s := quarter s 3 7 11 15
  let s := quarter s 0 5 10 15
  let s := quarter s 1 6 11 12
  let s := quarter s 2 7 8 13
  quarter s 3 4 9 14

/-- The square before the rounds: four constants, the key, and zeros for counter and nonce. -/
def start (seed : BitVec 64) : State :=
  let key := spread 8 seed
  let word (i : Nat) : Word := key.getD i 0
  #v[0x61707865, 0x3320646e, 0x79622d32, 0x6b206574,
    word 0, word 1, word 2, word 3, word 4, word 5, word 6, word 7, 0, 0, 0, 0]

def block (seed : BitVec 64) : State :=
  let before := start seed
  let after := twoRounds (twoRounds (twoRounds (twoRounds (twoRounds (twoRounds before)))))
  after.zipWith (· + ·) before

end Triword.Keystream
