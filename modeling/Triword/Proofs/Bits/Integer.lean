import Mathlib.Algebra.Ring.Int.Defs
import Mathlib.Algebra.Ring.Nat
import Triword.Bits.Integer
import Triword.Proofs.Bits.Field

/-!
Integers of 64 bits as vectors of any width. Written place by place, a vector is the integer cut off, or widened with
zeros or its sign, so it holds the integer wherever the width admits it. Read bit by bit from the left, the number so
far is always what stands in front of the bits that are left, so at the end it is the one that the vector holds. From
both follows that integers and vectors that fit are found again in each other.
-/

namespace Triword

namespace Bits

variable {n : Nat}

theorem bound_eq (n : Nat) : bound n = 2 ^ n :=
  rfl

/-! ### Vectors that hold a number -/

theorem ofUnsigned_eq_ok_iff {v : Nat} {x : BitVec n} : ofUnsigned n v = .ok x ↔ x.toNat = v := by
  unfold ofUnsigned
  rw [bound_eq]
  constructor
  case mp =>
    intro h
    split at h
    next hv =>
      rw [← Except.ok.inj h, BitVec.toNat_ofNat, Nat.mod_eq_of_lt hv]
    next => contradiction
  case mpr =>
    rintro rfl
    rw [if_pos x.isLt, BitVec.ofNat_toNat, BitVec.setWidth_eq]

theorem ofSigned_eq_ok_iff (hn : 0 < n) {v : Int} {x : BitVec n} : ofSigned n v = .ok x ↔ x.toInt = v := by
  unfold ofSigned
  rw [bound_eq, Int.ofNat_eq_natCast, Int.natCast_pow]
  constructor
  case mp =>
    intro h
    split at h
    next hv =>
      rw [← Except.ok.inj h]
      exact BitVec.toInt_ofInt_eq_self hn hv.1 hv.2
    next => contradiction
  case mpr =>
    rintro rfl
    rw [if_pos ⟨BitVec.le_toInt x, BitVec.toInt_lt⟩, BitVec.ofInt_toInt]

/-! ### Place by place -/

theorem getMsbD_ofPlaces {bit : Nat → Bool} {i : Nat} (hi : i < n) : (ofPlaces n bit).getMsbD i = bit i := by
  unfold ofPlaces
  rw [BitVec.getMsbD_cast, BitVec.getMsbD_ofBoolListBE]
  simp [hi]

theorem ofPlaces_ushiftRight (n : Nat) (v : BitVec 64)
    : ofPlaces n (fun i => decide (n - 1 - i < 64) && (v >>> (n - 1 - i)).getLsbD 0) = v.setWidth n := by
  apply BitVec.eq_of_getMsbD_eq
  intro i hi
  have hplace : n - 1 - i < n := by omega
  rw [getMsbD_ofPlaces hi, BitVec.getMsbD_eq_getLsbD, BitVec.getLsbD_setWidth, BitVec.getLsbD_ushiftRight]
  by_cases hlong : n - 1 - i < 64
  . simp [hi, hplace, hlong]
  . have hbit : v.getLsbD (n - 1 - i) = false := BitVec.getLsbD_of_ge v _ (by omega)
    simp [hlong, hbit]

theorem ofPlaces_sshiftRight (n : Nat) (v : BitVec 64)
    : ofPlaces n (fun i => (v.sshiftRight (min (n - 1 - i) 63)).getLsbD 0) = v.signExtend n := by
  apply BitVec.eq_of_getMsbD_eq
  intro i hi
  have hplace : n - 1 - i < n := by omega
  rw [getMsbD_ofPlaces hi, BitVec.getMsbD_eq_getLsbD, BitVec.getLsbD_signExtend, BitVec.getLsbD_sshiftRight]
  by_cases hlong : n - 1 - i < 64
  . have hshift : min (n - 1 - i) 63 = n - 1 - i := by omega
    simp [hi, hplace, hlong, hshift]
  . have hshift : min (n - 1 - i) 63 = 63 := by omega
    simp [hi, hplace, hlong, hshift, BitVec.msb_eq_getLsbD_last]

theorem ushiftRight_ne_zero_iff {w : Nat} (v : BitVec w) (k : Nat) : v >>> k ≠ 0 ↔ 2 ^ k ≤ v.toNat := by
  have hpos : 0 < 2 ^ k := Nat.two_pow_pos k
  rw [ne_eq, ← BitVec.toNat_inj, BitVec.toNat_ushiftRight, Nat.shiftRight_eq_div_pow]
  show ¬ v.toNat / 2 ^ k = 0 ↔ _
  rw [Nat.div_eq_zero_iff_lt hpos, Nat.not_lt]

theorem ofUnsigned64_eq (n : Nat) (v : BitVec 64) : ofUnsigned64 n v = ofUnsigned n v.toNat := by
  unfold ofUnsigned64 ofUnsigned
  rw [ofPlaces_ushiftRight, BitVec.ofNat_toNat, bound_eq]
  by_cases hv : v.toNat < 2 ^ n
  . have hguard : ¬ (n < 64 ∧ v >>> n ≠ 0) := fun h => Nat.not_le.mpr hv ((ushiftRight_ne_zero_iff v n).mp h.2)
    rw [if_pos hv, if_neg hguard]
  . -- From 64 bits on the guard is not asked, but there no integer is too large.
    have hle : 2 ^ n ≤ v.toNat := Nat.not_lt.mp hv
    have hn : n < 64 := (Nat.pow_lt_pow_iff_right (by decide)).mp (Nat.lt_of_le_of_lt hle v.isLt)
    rw [if_neg hv, if_pos ⟨hn, (ushiftRight_ne_zero_iff v n).mpr hle⟩]

theorem ofSigned64_eq (n : Nat) (v : BitVec 64) : ofSigned64 n v = ofSigned n v.toInt := by
  unfold ofSigned64
  rw [ofPlaces_sshiftRight]
  by_cases hlong : 64 ≤ n
  . have hheld : ofSigned n v.toInt = .ok (v.signExtend n) :=
      (ofSigned_eq_ok_iff (by omega)).mpr (BitVec.toInt_signExtend_of_le hlong)
    rw [if_pos (Or.inl hlong), hheld]
  . simp only [hlong, false_or]
    rfl

/-! ### Bit by bit -/

theorem pushBit_setWidth (x : BitVec n) {k : Nat} (hk : k < n)
    : pushBit ((x >>> (n - k)).setWidth 64) (x.getMsbD k) = (x >>> (n - (k + 1))).setWidth 64 := by
  apply BitVec.eq_of_getLsbD_eq
  intro i hi
  unfold pushBit
  rw [BitVec.getLsbD_or, BitVec.getLsbD_shiftLeft, BitVec.getLsbD_setWidth, BitVec.getLsbD_setWidth,
    BitVec.getLsbD_setWidth, BitVec.getLsbD_ushiftRight, BitVec.getLsbD_ushiftRight, BitVec.getLsbD_ofBool]
  cases i with
  | zero =>
    have hplace : n - 1 - k = n - (k + 1) := by omega
    simp [BitVec.getMsbD_eq_getLsbD, hk, hplace]
  | succ i =>
    have hplace : n - (k + 1) + (i + 1) = n - k + i := by omega
    have hbelow : i < 64 := by omega
    simp [hi, hplace, hbelow]

/-- The number read so far is what stands in front of the bits that are left. -/
theorem foldl_pushBit (x : BitVec n) {k : Nat} (hk : k ≤ n)
    : ((List.range k).map x.getMsbD).foldl pushBit 0 = (x >>> (n - k)).setWidth 64 := by
  induction k with
  | zero =>
    have hgone : x >>> n = 0 := BitVec.ushiftRight_eq_zero (Nat.le_refl n)
    rw [Nat.sub_zero, hgone]
    simp
  | succ k ih =>
    have hlt : k < n := by omega
    rw [List.range_succ, List.map_append, List.foldl_append, ih (Nat.le_of_lt hlt)]
    exact pushBit_setWidth x hlt

theorem toUnsigned64_eq (x : BitVec n) : toUnsigned64 x = x.setWidth 64 := by
  unfold toUnsigned64 toBools
  rw [foldl_pushBit x (Nat.le_refl n), Nat.sub_self, BitVec.ushiftRight_zero]

theorem toNat_toUnsigned64 (x : BitVec n) : (toUnsigned64 x).toNat = x.toNat % 2 ^ 64 := by
  rw [toUnsigned64_eq, BitVec.toNat_setWidth]

theorem sub_eq_of_toInt_eq {w : Nat} {a b y : BitVec w} (h : a.toInt - b.toInt = y.toInt)
    : ¬ a.ssubOverflow b ∧ a - b = y := by
  have hlow : -2 ^ (w - 1) ≤ y.toInt := BitVec.le_toInt y
  have hhigh : y.toInt < 2 ^ (w - 1) := BitVec.toInt_lt
  have hfits : ¬ a.ssubOverflow b := by
    unfold BitVec.ssubOverflow
    rw [h]
    simp [hlow, hhigh]
  refine ⟨hfits, BitVec.eq_of_toInt_eq ?_⟩
  rw [BitVec.toInt_sub_of_not_ssubOverflow hfits, h]

theorem toInt_one_shiftLeft (hn : n ≤ 62) : (1#64 <<< n).toInt = 2 ^ n := by
  rw [← BitVec.twoPow_eq, BitVec.toInt_twoPow, if_neg (by omega), if_neg (by omega)]

/-- Less the weight of its width, the number of a vector that begins with a one is its signed number. -/
theorem toInt_setWidth_sub (x : BitVec n) (hn : n ≤ 62) (hsign : x.msb = true)
    : (x.setWidth 64).toInt - (1#64 <<< n).toInt = (x.signExtend 64).toInt := by
  have hx := x.isLt
  have hpow : 2 ^ n ≤ 2 ^ 62 := Nat.pow_le_pow_right (by decide) hn
  have hnumber : (x.setWidth 64).toNat = x.toNat := BitVec.toNat_setWidth_of_le (by omega)
  have hpositive : (x.setWidth 64).toInt = (x.setWidth 64).toNat := BitVec.toInt_eq_toNat_of_lt (by omega)
  rw [hpositive, hnumber, toInt_one_shiftLeft hn, BitVec.toInt_signExtend_of_le (by omega), BitVec.toInt_eq_msb_cond,
    if_pos hsign, Int.natCast_pow]
  rfl

theorem toSigned64?_eq (x : BitVec n) (hn : n ≤ 62) : toSigned64? x = some (x.signExtend 64) := by
  unfold toSigned64?
  rw [toUnsigned64_eq]
  cases hsign : x.msb with
  | false =>
    rw [BitVec.signExtend_eq_setWidth_of_msb_false hsign]
    rfl
  | true =>
    obtain ⟨hfits, hsub⟩ := sub_eq_of_toInt_eq (toInt_setWidth_sub x hn hsign)
    have hlt : n < 64 := by omega
    rw [if_pos rfl, if_pos ⟨hlt, hfits⟩, hsub]

/-- With 63 bits the weight of the sign is no signed integer of 64 bits any more. -/
example : toSigned64? (BitVec.twoPow 63 62) = none := by cbv

/-! ### Integers and the vectors that hold them -/

section Held

variable {x : BitVec n} {v : BitVec 64}

theorem ofUnsigned64_eq_ok_iff : ofUnsigned64 n v = .ok x ↔ x.toNat = v.toNat := by
  rw [ofUnsigned64_eq, ofUnsigned_eq_ok_iff]

theorem ofSigned64_eq_ok_iff (hn : 0 < n) : ofSigned64 n v = .ok x ↔ x.toInt = v.toInt := by
  rw [ofSigned64_eq, ofSigned_eq_ok_iff hn]

theorem toUnsigned64_eq_iff (hn : n ≤ 64) : toUnsigned64 x = v ↔ x.toNat = v.toNat := by
  rw [toUnsigned64_eq, ← BitVec.toNat_inj, BitVec.toNat_setWidth_of_le hn]

theorem toSigned64?_eq_some_iff (hn : n ≤ 62) : toSigned64? x = some v ↔ x.toInt = v.toInt := by
  rw [toSigned64?_eq x hn, Option.some.injEq, ← BitVec.toInt_inj, BitVec.toInt_signExtend_of_le (by omega)]

end Held

theorem exists_ofUnsigned64_iff (v : BitVec 64) : (∃ x, ofUnsigned64 n v = .ok x) ↔ v.toNat < 2 ^ n := by
  constructor
  case mp =>
    rintro ⟨x, hx⟩
    rw [← ofUnsigned64_eq_ok_iff.mp hx]
    exact x.isLt
  case mpr =>
    intro hv
    refine ⟨BitVec.ofNat n v.toNat, ofUnsigned64_eq_ok_iff.mpr ?_⟩
    rw [BitVec.toNat_ofNat, Nat.mod_eq_of_lt hv]

theorem exists_ofSigned64_iff (hn : 0 < n) (v : BitVec 64)
    : (∃ x, ofSigned64 n v = .ok x) ↔ -2 ^ (n - 1) ≤ v.toInt ∧ v.toInt < 2 ^ (n - 1) := by
  constructor
  case mp =>
    rintro ⟨x, hx⟩
    rw [← (ofSigned64_eq_ok_iff hn).mp hx]
    exact ⟨BitVec.le_toInt x, BitVec.toInt_lt⟩
  case mpr =>
    rintro ⟨hlow, hhigh⟩
    exact ⟨BitVec.ofInt n v.toInt, (ofSigned64_eq_ok_iff hn).mpr (BitVec.toInt_ofInt_eq_self hn hlow hhigh)⟩

/-! ### Widened vectors -/

theorem exists_zeroExtend? (x : BitVec n) {m : Nat} (hm : n ≤ m)
    : ∃ y, zeroExtend? x m = some y ∧ y.toNat = x.toNat ∧ toUnsigned64 y = toUnsigned64 x := by
  have hnumber : (x.setWidth m).toNat = x.toNat := BitVec.toNat_setWidth_of_le hm
  refine ⟨x.setWidth m, if_pos hm, hnumber, ?_⟩
  rw [← BitVec.toNat_inj, toNat_toUnsigned64, toNat_toUnsigned64, hnumber]

theorem exists_signExtend? (x : BitVec n) {m : Nat} (hm : n ≤ m)
    : ∃ y, signExtend? x m = some y ∧ y.toInt = x.toInt ∧ (m ≤ 62 → toSigned64? y = toSigned64? x) := by
  have hnumber : (x.signExtend m).toInt = x.toInt := BitVec.toInt_signExtend_of_le hm
  refine ⟨x.signExtend m, if_pos hm, hnumber, ?_⟩
  intro hshort
  rw [toSigned64?_eq x (Nat.le_trans hm hshort), toSigned64?_eq_some_iff hshort, hnumber,
    BitVec.toInt_signExtend_of_le (by omega)]

/--
An integer has a vector of `n` bits exactly when it lies in the range of this width, and it is read off this vector
again; a vector is the one written for the integer that is read off it; a wider vector is read as the same number; and
a field that is written is read again, with every bit around it as before.
-/
theorem integers_and_fields_read_back (hn : 0 < n)
    : (∀ v : BitVec 64, ((∃ x, ofUnsigned64 n v = .ok x) ↔ v.toNat < 2 ^ n)
          ∧ ∀ x, ofUnsigned64 n v = .ok x → x.toNat = v.toNat ∧ (n ≤ 64 → toUnsigned64 x = v))
        ∧ (∀ v : BitVec 64, ((∃ x, ofSigned64 n v = .ok x) ↔ -2 ^ (n - 1) ≤ v.toInt ∧ v.toInt < 2 ^ (n - 1))
          ∧ ∀ x, ofSigned64 n v = .ok x → x.toInt = v.toInt ∧ (n ≤ 62 → toSigned64? x = some v))
        ∧ (∀ x : BitVec n, (n ≤ 64 → ofUnsigned64 n (toUnsigned64 x) = .ok x)
          ∧ (n ≤ 62 → ∃ v, toSigned64? x = some v ∧ ofSigned64 n v = .ok x))
        ∧ (∀ (x : BitVec n) (m : Nat), n ≤ m →
          (∃ y, zeroExtend? x m = some y ∧ y.toNat = x.toNat ∧ toUnsigned64 y = toUnsigned64 x)
            ∧ ∃ y, signExtend? x m = some y ∧ y.toInt = x.toInt ∧ (m ≤ 62 → toSigned64? y = toSigned64? x))
        ∧ ∀ (m start : Nat) (x : BitVec n) (value : BitVec m), start + m ≤ n →
          ∃ y, withField? x start value = some y ∧ field? y start m = some value
            ∧ (∀ i < m, get? y (start + i) = get? value i)
            ∧ ∀ i, i < start ∨ start + m ≤ i → get? y i = get? x i := by
  refine ⟨?unsigned, ?signed, ?read, ?widened, ?fields⟩
  case unsigned =>
    intro v
    refine ⟨exists_ofUnsigned64_iff v, ?_⟩
    intro x hx
    have hnumber : x.toNat = v.toNat := ofUnsigned64_eq_ok_iff.mp hx
    exact ⟨hnumber, fun hshort => (toUnsigned64_eq_iff hshort).mpr hnumber⟩
  case signed =>
    intro v
    refine ⟨exists_ofSigned64_iff hn v, ?_⟩
    intro x hx
    have hnumber : x.toInt = v.toInt := (ofSigned64_eq_ok_iff hn).mp hx
    exact ⟨hnumber, fun hshort => (toSigned64?_eq_some_iff hshort).mpr hnumber⟩
  case read =>
    intro x
    constructor
    . intro hshort
      exact ofUnsigned64_eq_ok_iff.mpr ((toUnsigned64_eq_iff hshort).mp rfl)
    . intro hshort
      have hread := toSigned64?_eq x hshort
      exact ⟨_, hread, (ofSigned64_eq_ok_iff hn).mpr ((toSigned64?_eq_some_iff hshort).mp hread)⟩
  case widened =>
    intro x m hm
    exact ⟨exists_zeroExtend? x hm, exists_signExtend? x hm⟩
  case fields =>
    intro m start x value hinside
    exact exists_withField? x value hinside

/-- The largest unsigned and the least signed integer of 33 bits, the latter widened, and a field up to the end. -/
theorem integers_and_fields_read_back_at_33
    : 0 < 33
        ∧ (∃ x, ofUnsigned64 33 0x1FFFFFFFF#64 = .ok x ∧ toUnsigned64 x = 0x1FFFFFFFF#64)
        ∧ (∃ x, ofSigned64 33 0xFFFFFFFF00000000#64 = .ok x ∧ toSigned64? x = some 0xFFFFFFFF00000000#64)
        ∧ ofUnsigned64 33 (toUnsigned64 0x100000000#33) = .ok 0x100000000#33
        ∧ (∃ v, toSigned64? 0x100000000#33 = some v ∧ ofSigned64 33 v = .ok 0x100000000#33)
        ∧ (∃ y, signExtend? 0x100000000#33 62 = some y ∧ toSigned64? y = toSigned64? 0x100000000#33)
        ∧ ∃ y, withField? 0x100000000#33 13 0xFFFFF#20 = some y ∧ field? y 13 20 = some 0xFFFFF#20
          ∧ get? y 13 = get? 0xFFFFF#20 0 ∧ get? y 12 = get? 0x100000000#33 12 := by
  obtain ⟨hunsigned, hsigned, hread, hwidened, hfields⟩ := integers_and_fields_read_back (n := 33) (by decide)
  refine ⟨by decide, ?_, ?_, ?_, ?_, ?_, ?_⟩
  . obtain ⟨x, hx⟩ := (hunsigned 0x1FFFFFFFF#64).1.mpr (by decide)
    exact ⟨x, hx, ((hunsigned _).2 x hx).2 (by decide)⟩
  . obtain ⟨x, hx⟩ := (hsigned 0xFFFFFFFF00000000#64).1.mpr (by decide)
    exact ⟨x, hx, ((hsigned _).2 x hx).2 (by decide)⟩
  . exact (hread _).1 (by decide)
  . exact (hread _).2 (by decide)
  . obtain ⟨y, hy, -, hsame⟩ := (hwidened 0x100000000#33 62 (by decide)).2
    exact ⟨y, hy, hsame (by decide)⟩
  . obtain ⟨y, hy, hfield, hinside, houtside⟩ := hfields 20 13 0x100000000#33 0xFFFFF#20 (by decide)
    exact ⟨y, hy, hfield, hinside 0 (by decide), houtside 12 (Or.inl (by decide))⟩

end Bits

end Triword
