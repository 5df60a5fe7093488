import Triword.Bits

/-!
Fields and widened vectors, bit by bit from the left. A field holds the bits from its place on; a field that is written
holds the value, and all around it the vector is as before. A widened vector is one written into the last places of
zeros, or of copies of its first bit.
-/

namespace Triword

namespace Bits

variable {n m : Nat} {start i : Nat}

theorem getMsbD_field (x : BitVec n) (hinside : start + m ≤ n) (hi : i < m)
    : (field x start m).getMsbD i = x.getMsbD (start + i) := by
  have hend : n - start - m + m - i ≤ n := by omega
  have hplace : n - (n - start - m + m - i) = start + i := by omega
  unfold field
  rw [BitVec.getMsbD_extractLsb', decide_eq_true hi, decide_eq_true hend, hplace, Bool.true_and, Bool.true_and]

theorem getMsbD_setWidth_shiftLeft (value : BitVec m) (hinside : start + m ≤ n)
    : (value.setWidth n <<< (n - start - m)).getMsbD i
        =
      (decide (start ≤ i) && value.getMsbD (i - start)) := by
  have hplace : i + (n - start - m) + m - n = i - start := by omega
  have hstart : n - m ≤ i + (n - start - m) ↔ start ≤ i := by omega
  rw [BitVec.getMsbD_shiftLeft, BitVec.getMsbD_setWidth, hplace, decide_eq_decide.mpr hstart]

theorem getMsbD_withField (x : BitVec n) (value : BitVec m) (hinside : start + m ≤ n) (i : Nat)
    : (withField x start value).getMsbD i
        =
      if start ≤ i ∧ i < start + m then value.getMsbD (i - start) else x.getMsbD i := by
  unfold withField
  simp only [BitVec.getMsbD_or, BitVec.getMsbD_and, BitVec.getMsbD_not, getMsbD_setWidth_shiftLeft _ hinside,
    BitVec.getMsbD_allOnes]
  by_cases hin : i < n
  . by_cases hlow : start ≤ i
    . by_cases hhigh : i < start + m
      . have hfield : i - start < m := by omega
        simp [hin, hlow, hhigh, hfield]
      . have hvalue : value.getMsbD (i - start) = false := BitVec.getMsbD_of_ge value _ (by omega)
        have hfield : ¬ i - start < m := by omega
        simp [hin, hlow, hhigh, hfield, hvalue]
    . simp [hin, hlow]
  . have hx : x.getMsbD i = false := BitVec.getMsbD_of_ge x i (by omega)
    have hvalue : value.getMsbD (i - start) = false := BitVec.getMsbD_of_ge value _ (by omega)
    simp [hx, hvalue]

theorem field_withField (x : BitVec n) (value : BitVec m) (hinside : start + m ≤ n)
    : field (withField x start value) start m = value := by
  apply BitVec.eq_of_getMsbD_eq
  intro i hi
  have hfield : start ≤ start + i ∧ start + i < start + m := by omega
  rw [getMsbD_field _ hinside hi, getMsbD_withField _ _ hinside, if_pos hfield, Nat.add_sub_cancel_left]

theorem getMsbD_withField_of_outside (x : BitVec n) (value : BitVec m) (hinside : start + m ≤ n)
    (hi : i < start ∨ start + m ≤ i)
    : (withField x start value).getMsbD i = x.getMsbD i := by
  have hfield : ¬ (start ≤ i ∧ i < start + m) := by omega
  rw [getMsbD_withField _ _ hinside, if_neg hfield]

/-- A written field is read again, bit by bit as a whole, and all bits around it are as before. -/
theorem exists_withField? (x : BitVec n) (value : BitVec m) (hinside : start + m ≤ n)
    : ∃ y, withField? x start value = some y ∧ field? y start m = some value
        ∧ (∀ i < m, get? y (start + i) = get? value i)
        ∧ ∀ i, i < start ∨ start + m ≤ i → get? y i = get? x i := by
  refine ⟨withField x start value, if_pos hinside, ?whole, ?bits, ?outside⟩
  case whole =>
    unfold field?
    rw [if_pos hinside, field_withField x value hinside]
  case bits =>
    intro i hi
    have hlt : start + i < n := by omega
    unfold get?
    rw [if_pos hlt, if_pos hi, ← getMsbD_field _ hinside hi, field_withField x value hinside]
  case outside =>
    intro i hi
    unfold get?
    rw [getMsbD_withField_of_outside x value hinside hi]

/-- What stands in the last places of a fill is a vector that is widened with this fill. -/
theorem withField?_last (fill : BitVec m) (x : BitVec n) {y : BitVec m}
    (hy : ∀ i < m, y.getMsbD i = if m - n ≤ i then x.getMsbD (i + n - m) else fill.getMsbD i)
    : withField? fill (m - n) x = if n ≤ m then some y else none := by
  unfold withField?
  by_cases hm : n ≤ m
  . have hend : m - n + n = m := Nat.sub_add_cancel hm
    rw [if_pos hm, if_pos (Nat.le_of_eq hend), Option.some.injEq]
    apply BitVec.eq_of_getMsbD_eq
    intro i hi
    have hplace : i - (m - n) = i + n - m := by omega
    rw [getMsbD_withField _ _ (Nat.le_of_eq hend), hy i hi, hend, hplace]
    simp [hi]
  . have hend : ¬ m - n + n ≤ m := by omega
    rw [if_neg hm, if_neg hend]

theorem zeroExtend?_eq_withField? (x : BitVec n) (m : Nat)
    : zeroExtend? x m = withField? (0 : BitVec m) (m - n) x := by
  rw [withField?_last]
  . rfl
  . intro i hi
    rw [BitVec.getMsbD_setWidth]
    simp

theorem signExtend?_eq_withField? (x : BitVec n) (m : Nat)
    : signExtend? x m = withField? (if x.msb then BitVec.allOnes m else 0) (m - n) x := by
  rw [withField?_last]
  . rfl
  . intro i hi
    rw [BitVec.getMsbD_signExtend, decide_eq_true hi, Bool.true_and]
    cases hsign : x.msb <;> simp [hi]

end Bits

end Triword
