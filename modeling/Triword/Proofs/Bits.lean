import Triword.Bits

/-!
The bytes of a word and the digits of a vector. A word is its four bytes one after the other, the most
significant one first; and every vector is found again in its digits.
-/

namespace Triword

namespace Bits

theorem toNat_append_byte {n : Nat} (x : BitVec n) (b : Byte)
    : (x ++ b).toNat = x.toNat * 256 + b.toNat := by
  rw [BitVec.toNat_append, ← Nat.shiftLeft_add_eq_or_of_lt b.isLt, Nat.shiftLeft_eq]

theorem shiftLeft_or (w : Word) (b : Byte) : w <<< 8 ||| b.setWidth 32 = w.setWidth 24 ++ b := by
  apply BitVec.eq_of_getLsbD_eq
  intro i hi
  simp only [BitVec.getLsbD_or, BitVec.getLsbD_shiftLeft, BitVec.getLsbD_setWidth, BitVec.getLsbD_append]
  by_cases hlow : i < 8
  . simp [hi, hlow]
  . have hbyte : b.getLsbD i = false := BitVec.getLsbD_of_ge b i (by omega)
    have hrest : i - 8 < 24 := by omega
    simp [hi, hlow, hbyte, hrest]

theorem ofBytes_four (b₀ b₁ b₂ b₃ : Byte) : ofBytes [b₀, b₁, b₂, b₃] = b₀ ++ b₁ ++ b₂ ++ b₃ := by
  have h₀ := b₀.isLt
  have h₁ := b₁.isLt
  have h₂ := b₂.isLt
  apply BitVec.eq_of_toNat_eq
  simp only [ofBytes, List.foldl_cons, List.foldl_nil, shiftLeft_or, toNat_append_byte,
    BitVec.toNat_setWidth]
  omega

theorem ofBytes_bytes (w : Word) : ofBytes (bytes w) = w := by
  have hw := w.isLt
  apply BitVec.eq_of_toNat_eq
  unfold bytes
  rw [ofBytes_four]
  simp only [toNat_append_byte, field, BitVec.extractLsb'_toNat, Nat.shiftRight_eq_div_pow]
  omega

theorem bytes_append (b₀ b₁ b₂ b₃ : Byte) : bytes (b₀ ++ b₁ ++ b₂ ++ b₃) = [b₀, b₁, b₂, b₃] := by
  have h₀ := b₀.isLt
  have h₁ := b₁.isLt
  have h₂ := b₂.isLt
  have h₃ := b₃.isLt
  unfold bytes field
  simp only [List.cons.injEq, and_true]
  refine ⟨?_, ?_, ?_, ?_⟩
  all_goals
    apply BitVec.eq_of_toNat_eq
    simp only [BitVec.extractLsb'_toNat, toNat_append_byte, Nat.shiftRight_eq_div_pow]
    omega

theorem length_flatMap_bytes (words : List Word) : (words.flatMap Bits.bytes).length = 4 * words.length := by
  induction words with
  | nil => rfl
  | cons w words ih =>
    rw [List.flatMap_cons, List.length_append, ih, List.length_cons, Nat.mul_succ, Nat.add_comm]
    rfl

variable {n : Nat}

theorem length_toBools (x : BitVec n) : (toBools x).length = n := by
  unfold toBools
  rw [List.length_map, List.length_range]

theorem ofBools_toBools (x : BitVec n) : ofBools n (toBools x) = .ok x := by
  unfold ofBools
  rw [dif_pos (length_toBools x), Except.ok.injEq]
  apply BitVec.eq_of_getMsbD_eq
  intro i hi
  rw [BitVec.getMsbD_cast, BitVec.getMsbD_ofBoolListBE]
  simp [toBools, hi]

theorem mapM_bitOfDigit (bits : List Bool)
    : (bits.map fun b => if b then '1' else '0').mapM bitOfDigit = .ok bits := by
  induction bits with
  | nil => rfl
  | cons b bits ih =>
    rw [List.map_cons, List.mapM_cons, ih]
    cases b <;> rfl

theorem toList_toDigits (x : BitVec n)
    : (toDigits x).toList = (toBools x).map fun b => if b then '1' else '0' :=
  String.toList_ofList

theorem ofDigits_toDigits (x : BitVec n) : ofDigits n (toDigits x) = .ok x := by
  unfold ofDigits
  rw [toList_toDigits, mapM_bitOfDigit]
  show (ofBools n (toBools x)).mapError DigitsError.width = .ok x
  rw [ofBools_toBools]
  rfl

end Bits

end Triword
