import Triword.Proofs.Assembly.Shown

/-!
Literals. A literal is an optional minus, the mark of a base and digits of that base, as many as one likes. Behind a
dollar sign it is read as the number that it writes if a word holds that number with or without a sign, and behind an
at sign if a word holds it without one. That the digits are first read as a magnitude of 64 bits makes no difference.
-/

namespace Triword

namespace Assembly

inductive Base where
  | decimal
  | hexadecimal
  | binary
  deriving DecidableEq

namespace Base

def radix : Base → Nat
  | decimal => 10
  | hexadecimal => 16
  | binary => 2

def mark : Base → (capital : Bool) → List Char
  | decimal, _ => []
  | hexadecimal, capital => ['0', if capital then 'X' else 'x']
  | binary, capital => ['0', if capital then 'B' else 'b']

end Base

structure Digit (base : Base) where
  value : Fin base.radix
  capital : Bool

namespace Digit

variable {base : Base}

def char (d : Digit base) : Char :=
  if d.capital then d.value.val.digitChar.toUpper else d.value.val.digitChar

def weight (d : Digit base) : Nat :=
  d.value.val

theorem digitValue?_char (d : Digit base) : Text.digitValue? base.radix d.char = some d.weight := by
  have hall : ∀ (v : Fin base.radix) (capital : Bool),
      Text.digitValue? base.radix (if capital then v.val.digitChar.toUpper else v.val.digitChar) = some v.val := by
    cases base <;> decide
  exact hall d.value d.capital

theorem isWordChar_char (d : Digit base) : Text.isWordChar d.char := by
  have hall : ∀ (v : Fin base.radix) (capital : Bool),
      Text.isWordChar (if capital then v.val.digitChar.toUpper else v.val.digitChar) := by
    cases base <;> decide
  exact hall d.value d.capital

theorem char_not_mem_of_decimal (d : Digit .decimal) : d.char ∉ ['x', 'X', 'b', 'B'] := by
  have hall : ∀ (v : Fin 10) (capital : Bool),
      (if capital then v.val.digitChar.toUpper else v.val.digitChar) ∉ ['x', 'X', 'b', 'B'] := by
    decide
  exact hall d.value d.capital

end Digit

structure Literal where
  negative : Bool
  base : Base
  capitalMark : Bool
  /-- The digits, the most significant one first. -/
  digits : List (Digit base)
  digits_ne_nil : digits ≠ []

namespace Literal

def magnitude (l : Literal) : Nat :=
  Nat.ofDigits l.base.radix (l.digits.map Digit.weight).reverse

def value (l : Literal) : Int :=
  if l.negative then -(l.magnitude : Int) else l.magnitude

def unsignedChars (l : Literal) : List Char :=
  l.base.mark l.capitalMark ++ l.digits.map Digit.char

def chars (l : Literal) : List Char :=
  if l.negative then '-' :: l.unsignedChars else l.unsignedChars

theorem isWordChar_of_mem {l : Literal} {c : Char} (h : c ∈ l.unsignedChars) : Text.isWordChar c := by
  have hmark : ∀ base capital, ∀ c ∈ Base.mark base capital, Text.isWordChar c := by
    intro base capital
    refine List.all_eq_true.mp ?_
    cases base <;> cases capital <;> decide
  obtain h | h := List.mem_append.mp h
  . exact hmark _ _ c h
  . obtain ⟨d, -, rfl⟩ := List.mem_map.mp h
    exact d.isWordChar_char

/-! ### The number of a literal -/

theorem digitsIn_digits (l : Literal) (e invalid : TokenError)
    : Token.readMagnitude.digitsIn e l.base.radix invalid (l.digits.map Digit.char)
        =
      if l.magnitude < Bits.bound 64 then .ok l.magnitude else .error e := by
  have hradix : 0 < l.base.radix := by
    cases l.base <;> decide
  unfold Token.readMagnitude.digitsIn magnitude
  rw [Text.readNumeral_map hradix (by decide) Digit.digitValue?_char l.digits_ne_nil]
  split <;> rfl

theorem readMagnitude_unsignedChars (l : Literal) (e : TokenError)
    : Token.readMagnitude e l.unsignedChars = if l.magnitude < Bits.bound 64 then .ok l.magnitude else .error e := by
  have hdigits := l.digitsIn_digits e
  unfold unsignedChars
  obtain ⟨negative, base, capital, digits, hne⟩ := l
  cases base with
  | hexadecimal =>
    have h := hdigits .invalidHex
    cases capital <;> exact h
  | binary =>
    have h := hdigits .invalidBinary
    cases capital <;> exact h
  | decimal =>
    have hmark : ∀ c ∈ digits.map Digit.char, c ∉ ['x', 'X', 'b', 'B'] := by
      intro c hc
      obtain ⟨d, -, rfl⟩ := List.mem_map.mp hc
      exact d.char_not_mem_of_decimal
    show Token.readMagnitude e (digits.map Digit.char) = _
    rw [Token.readMagnitude_eq_digitsIn e hmark]
    exact hdigits .invalidDecimal

theorem exists_unsignedChars_eq_cons (l : Literal) : ∃ c cs, l.unsignedChars = c :: cs ∧ c ≠ '-' := by
  have hne : l.unsignedChars ≠ [] :=
    List.append_ne_nil_of_right_ne_nil _ (mt List.map_eq_nil_iff.mp l.digits_ne_nil)
  obtain ⟨c, cs, hcons⟩ := List.exists_cons_of_ne_nil hne
  refine ⟨c, cs, hcons, ?_⟩
  rintro rfl
  have hminus : Text.isWordChar '-' := by
    apply isWordChar_of_mem (l := l)
    rw [hcons]
    exact List.mem_cons_self
  exact absurd hminus (by decide)

theorem readInteger_chars (l : Literal) (e : TokenError)
    : Token.readInteger e l.chars = if l.magnitude < Bits.bound 64 then .ok l.value else .error e := by
  have hmagnitude := l.readMagnitude_unsignedChars e
  unfold chars value
  cases l.negative with
  | true =>
    rw [if_pos rfl, if_pos rfl, Token.readInteger_minus, hmagnitude]
    split <;> rfl
  | false =>
    obtain ⟨c, cs, hcons, hc⟩ := l.exists_unsignedChars_eq_cons
    rw [if_neg Bool.false_ne_true, if_neg Bool.false_ne_true, hcons, Token.readInteger_of_ne hc, ← hcons, hmagnitude]
    split <;> rfl

theorem value_eq (l : Literal) : l.value = -(l.magnitude : Int) ∨ l.value = l.magnitude := by
  unfold value
  split
  . exact .inl rfl
  . exact .inr rfl

/-- A magnitude of more than 64 bits is noticed early, but the number is out of range all the same. -/
theorem readInteger_bind_chars (l : Literal) {e : TokenError} {f : Int → Except TokenError Token}
    (hf : ∀ v : Int, v ≤ -2 ^ 64 ∨ 2 ^ 64 ≤ v → f v = .error e) : (Token.readInteger e l.chars >>= f) = f l.value := by
  rw [readInteger_chars]
  by_cases hmagnitude : l.magnitude < Bits.bound 64
  . rw [if_pos hmagnitude]
    rfl
  . have hlarge : 2 ^ 64 ≤ l.magnitude := Nat.le_of_not_lt hmagnitude
    have hvalue := l.value_eq
    rw [if_neg hmagnitude, hf l.value (by omega)]
    rfl

theorem readImmediate_chars (l : Literal)
    : Token.readImmediate l.chars
        =
      if -2 ^ 31 ≤ l.value ∧ l.value < 2 ^ 32 then .ok (.immediate l.value) else .error .immediateRange := by
  unfold Token.readImmediate
  apply l.readInteger_bind_chars
  intro v hv
  rw [if_neg (by omega)]
  rfl

theorem readAddress_chars (l : Literal)
    : Token.readAddress l.chars
        =
      if 0 ≤ l.value ∧ l.value < 2 ^ 32 then .ok (.address (BitVec.ofInt 32 l.value)) else .error .addressRange := by
  unfold Token.readAddress
  apply l.readInteger_bind_chars
  intro v hv
  rw [if_neg (by omega)]
  rfl

/-! ### Literals between blanks -/

theorem takeWhile_isWordChar {cs after : List Char} (hcs : ∀ c ∈ cs, Text.isWordChar c)
    (hafter : ∀ c ∈ after, Token.isGap c) : (cs ++ after).takeWhile Text.isWordChar = cs := by
  have hstop : after.takeWhile Text.isWordChar = [] := by
    cases after with
    | nil => rfl
    | cons c after =>
      have hgap := hafter c List.mem_cons_self
      have hblank : c = ' ' ∨ c = '\t' := by
        simpa [Token.isGap] using hgap
      obtain rfl | rfl := hblank <;> rfl
  rw [List.takeWhile_append_of_pos hcs, hstop, List.append_nil]

theorem literalBody_chars (l : Literal) {after : List Char} (hafter : ∀ c ∈ after, Token.isGap c)
    : Token.literalBody (l.chars ++ after) = l.chars := by
  have hbody := takeWhile_isWordChar (fun c hc => isWordChar_of_mem (l := l) hc) hafter
  unfold chars
  cases l.negative with
  | true =>
    rw [if_pos rfl]
    exact congrArg ('-' :: ·) hbody
  | false =>
    obtain ⟨c, cs, hcons, hc⟩ := l.exists_unsignedChars_eq_cons
    rw [hcons] at hbody
    rw [if_neg Bool.false_ne_true, hcons, List.cons_append, Token.literalBody_of_ne hc]
    exact hbody

variable {before after : List Char}

theorem read_dollar (l : Literal) (hbefore : ∀ c ∈ before, Token.isGap c) (hafter : ∀ c ∈ after, Token.isGap c)
    : Token.read (String.ofList (before ++ '$' :: l.chars ++ after)) = Token.readImmediate l.chars := by
  have hlongest := Token.readLongest_dollar (l.chars ++ after)
  rw [l.literalBody_chars hafter] at hlongest
  exact Token.read_between String.toList_ofList hbefore hafter rfl hlongest

theorem read_at (l : Literal) (hbefore : ∀ c ∈ before, Token.isGap c) (hafter : ∀ c ∈ after, Token.isGap c)
    : Token.read (String.ofList (before ++ '@' :: l.chars ++ after)) = Token.readAddress l.chars := by
  have hlongest := Token.readLongest_at (l.chars ++ after)
  rw [l.literalBody_chars hafter] at hlongest
  exact Token.read_between String.toList_ofList hbefore hafter rfl hlongest

end Literal

/-! ### Literals as operands -/

theorem ofInteger_of_fits {v : Int} (hv : -2 ^ 31 ≤ v ∧ v < 2 ^ 32) : Bits.ofInteger v = .ok (BitVec.ofInt 32 v) := by
  unfold Bits.ofInteger
  split
  . unfold Bits.ofSigned Bits.bound
    simp only [Nat.pow_eq]
    rw [if_pos ⟨by simp; omega, by simp; omega⟩]
  . unfold Bits.ofUnsigned Bits.bound
    simp only [Nat.pow_eq]
    rw [if_pos (by omega), ← BitVec.ofInt_natCast, Int.toNat_of_nonneg (by omega)]

theorem toNat_ofInt (v : Int) : ((BitVec.ofInt 32 v).toNat : Int) = v % 2 ^ 32 := by
  rw [BitVec.toNat_ofInt, Int.toNat_of_nonneg (Int.emod_nonneg v (by decide))]
  rfl

/--
A literal behind a dollar sign is read as its number, and the operand holds that number up to multiples of `2 ^ 32`, if
the number is from `-2 ^ 31` to below `2 ^ 32`. Behind an at sign it is read as the address of that number if the number
is from zero to below `2 ^ 32`. All others are refused as out of range, and blanks around a literal do not matter.
-/
theorem read_and_encodeOperand_literal (l : Literal) {before after : List Char} (hbefore : ∀ c ∈ before, Token.isGap c)
    (hafter : ∀ c ∈ after, Token.isGap c) (t : LabelTable) (kind : OperandKind)
    : let immediate := String.ofList (before ++ '$' :: l.chars ++ after)
      let address := String.ofList (before ++ '@' :: l.chars ++ after)
      (-2 ^ 31 ≤ l.value ∧ l.value < 2 ^ 32
        → Token.read immediate = .ok (.immediate l.value)
          ∧ ∃ w : Word, encodeOperand t kind immediate = .ok ⟨kind, .direct, w⟩ ∧ (w.toNat : Int) = l.value % 2 ^ 32)
      ∧ (¬(-2 ^ 31 ≤ l.value ∧ l.value < 2 ^ 32)
        → Token.read immediate = .error .immediateRange
          ∧ encodeOperand t kind immediate = .error (.token .immediateRange))
      ∧ (0 ≤ l.value ∧ l.value < 2 ^ 32
        → ∃ w : Word, Token.read address = .ok (.address w) ∧ (w.toNat : Int) = l.value)
      ∧ (¬(0 ≤ l.value ∧ l.value < 2 ^ 32) → Token.read address = .error .addressRange) := by
  have himmediate := l.read_dollar hbefore hafter
  have haddress := l.read_at hbefore hafter
  rw [l.readImmediate_chars] at himmediate
  rw [l.readAddress_chars] at haddress
  dsimp only
  unfold encodeOperand
  rw [himmediate, haddress]
  refine ⟨?_, ?_, ?_, ?_⟩
  . intro hfits
    rw [if_pos hfits]
    refine ⟨rfl, BitVec.ofInt 32 l.value, ?_, toNat_ofInt l.value⟩
    show (do let x ← encodeToken t (.immediate l.value); return ⟨kind, x.1, x.2⟩ : Except Fault Operand) = _
    unfold encodeToken
    dsimp only
    rw [ofInteger_of_fits hfits]
    rfl
  . intro hfits
    rw [if_neg hfits]
    exact ⟨rfl, rfl⟩
  . intro hfits
    rw [if_pos hfits]
    refine ⟨BitVec.ofInt 32 l.value, rfl, ?_⟩
    rw [toNat_ofInt, Int.emod_eq_of_lt hfits.1 hfits.2]
  . intro hfits
    exact if_neg hfits

def lowest : Literal where
  negative := true
  base := .hexadecimal
  capitalMark := true
  digits := [0, 8, 0, 0, 0, 0, 0, 0, 0].map fun v => ⟨⟨v % 16, Nat.mod_lt v (Nat.succ_pos 15)⟩, true⟩
  digits_ne_nil := List.cons_ne_nil _ _

def endless : Literal where
  negative := false
  base := .decimal
  capitalMark := false
  digits := ([1, 8, 4, 4, 6, 7, 4, 4, 0, 7, 3, 7, 0, 9, 5, 5, 1, 6, 1, 6] : List (Fin 10)).map fun v => ⟨v, false⟩
  digits_ne_nil := List.cons_ne_nil _ _

/-- One end of the range is read, and a number that passes 64 bits is refused as one that passes the range. -/
theorem read_and_encodeOperand_literal_lowest
    : lowest.chars = "-0X080000000".toList
        ∧ endless.chars = "18446744073709551616".toList
        ∧ (∀ c ∈ ['\t', ' '], Token.isGap c)
        ∧ (∀ c ∈ [' '], Token.isGap c)
        ∧ Token.read (String.ofList (['\t', ' '] ++ '$' :: lowest.chars ++ [' '])) = .ok (.immediate (-2147483648))
        ∧ encodeOperand LabelTable.empty .immediate (String.ofList (['\t', ' '] ++ '$' :: lowest.chars ++ [' ']))
          = .ok ⟨.immediate, .direct, 0x80000000⟩
        ∧ Token.read (String.ofList (['\t', ' '] ++ '@' :: lowest.chars ++ [' '])) = .error .addressRange
        ∧ Token.read (String.ofList (['\t', ' '] ++ '@' :: endless.chars ++ [' '])) = .error .addressRange := by
  have hbefore : ∀ c ∈ ['\t', ' '], Token.isGap c := List.all_iff_forall_prop.mp (by decide)
  have hafter : ∀ c ∈ [' '], Token.isGap c := List.all_iff_forall_prop.mp (by decide)
  obtain ⟨hfits, -, -, haddress⟩ := read_and_encodeOperand_literal lowest hbefore hafter LabelTable.empty .immediate
  obtain ⟨-, -, -, hendless⟩ := read_and_encodeOperand_literal endless hbefore hafter LabelTable.empty .immediate
  obtain ⟨hread, w, hencode, hw⟩ := hfits (by decide)
  have hword : w = 0x80000000 := by
    apply BitVec.eq_of_toNat_eq
    have hvalue : lowest.value % 2 ^ 32 = 0x80000000 := by decide
    rw [hvalue] at hw
    exact Int.ofNat.inj hw
  rw [hword] at hencode
  exact ⟨by decide, by decide, hbefore, hafter, hread, hencode, haddress (by decide), hendless (by decide)⟩

end Assembly

end Triword
