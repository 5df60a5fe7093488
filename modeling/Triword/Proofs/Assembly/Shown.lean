import Mathlib.Data.Bool.AllAny
import Mathlib.Data.List.TakeWhile
import Triword.Proofs.Assembly.Token
import Triword.Proofs.Instruction
import Triword.Proofs.Regex.Accepts
import Triword.Proofs.Text.Numeral

/-!
Operands as they are shown. What is shown of an operand is written as operands of its kind are in the bundled
language, and it is read as the operand itself.
-/

namespace Triword

/-- Operands that are shown in full: the others are labels, name no register or are used in another mode. -/
inductive Operand.IsShown : Operand → Prop where
  | immediate (w : Word) : IsShown ⟨.immediate, .direct, w⟩
  | memory (w : Word) : IsShown ⟨.memory, .direct, w⟩
  | direct (r : Register) : IsShown ⟨.register, .direct, r.code⟩
  | indirect (r : Register) : IsShown ⟨.register, .indirect, r.code⟩

namespace Assembly

open Regex (Node CharSet)
open Language.Bundled (operandNode optional numeral row anyCase)

/-! ### Digits -/

theorem toList_toString (i : Int)
    : (toString i).toList = if i < 0 then '-' :: Nat.toDigits 10 i.natAbs else Nat.toDigits 10 i.natAbs := by
  cases i with
  | ofNat n =>
    show (Nat.repr n).toList = _
    rw [if_neg (by simp)]
    simp
  | negSucc n =>
    show ("-" ++ Nat.repr (n + 1)).toList = _
    rw [if_pos (Int.negSucc_lt_zero n)]
    simp

theorem holds_decimalDigits : ∀ d < 10, d.digitChar ∉ ['-', 'x', 'X', 'b', 'B']
    ∧ Text.isWordChar d.digitChar
    ∧ (CharSet.ofRanges [(0x30, 0x39)]).foldCase.contains d.digitChar := by
  decide +kernel

theorem holds_capitalDigits : ∀ c ∈ Text.capitalDigits, Text.isWordChar c
    ∧ (CharSet.ofRanges [(0x30, 0x39), (0x61, 0x66)]).foldCase.contains c :=
  List.all_iff_forall_prop.mp (by decide +kernel)

theorem not_mem_toDigits {n : Nat} {c : Char} (hc : c ∈ ['-', 'x', 'X', 'b', 'B']) : c ∉ Nat.toDigits 10 n := by
  intro h
  obtain ⟨d, hd, rfl⟩ := Text.exists_of_mem_toDigits (by decide) h
  exact (holds_decimalDigits d hd).1 hc

theorem isWordChar_of_mem_toDigits {n : Nat} {c : Char} (h : c ∈ Nat.toDigits 10 n) : Text.isWordChar c := by
  obtain ⟨d, hd, rfl⟩ := Text.exists_of_mem_toDigits (by decide) h
  exact (holds_decimalDigits d hd).2.1

theorem upperHex_ne_nil (n : Nat) : (Text.upperHex 1 n).toList ≠ [] := by
  rw [Text.toList_upperHex]
  exact List.append_ne_nil_of_right_ne_nil _ (mt List.map_eq_nil_iff.mp Nat.toDigits_ne_nil)

/-! ### Spelling -/

theorem accepts_decimal (n : Nat) : numeral.Accepts (Nat.toDigits 10 n) := by
  have hrow : (row [(0x30, 0x39)]).Accepts (Nat.toDigits 10 n) := by
    apply Node.accepts_row
    . intro c hc
      obtain ⟨d, hd, rfl⟩ := Text.exists_of_mem_toDigits (by decide) hc
      exact (holds_decimalDigits d hd).2.2
    . exact List.length_pos_iff.mpr Nat.toDigits_ne_nil
  exact hrow.alt (by simp)

theorem accepts_hexadecimal (n : Nat) : numeral.Accepts ('0' :: 'x' :: (Text.upperHex 1 n).toList) := by
  have hx : (anyCase 'x').Accepts ['x'] := Node.accepts_set (by decide +kernel)
  have hrow : (row [(0x30, 0x39), (0x61, 0x66)]).Accepts (Text.upperHex 1 n).toList := by
    apply Node.accepts_row
    . exact fun c hc => (holds_capitalDigits c (Text.mem_capitalDigits_of_mem_upperHex hc)).2
    . exact List.length_pos_iff.mpr (upperHex_ne_nil n)
  have hcat := (Node.accepts_literal ['0']).cat_cons (hx.cat_cons (Node.accepts_cat_singleton hrow))
  exact Node.Accepts.alt hcat (by simp)

theorem accepts_register : ∀ r ∈ Register.all, r.name.toList ≠ []
    ∧ r.name.toList.all (CharSet.ofRanges [(0x61, 0x7A)]).foldCase.contains := by
  decide +kernel

theorem mem_all (r : Register) : r ∈ Register.all := by
  cases r <;> decide

theorem accepts_sigil {star sigil : Char} (before : List Char) {cs : List Char} {as : List Node}
    (hbefore : before = [] ∨ before = [star]) (h : (Node.cat as).Accepts cs)
    : (Node.cat (optional star :: .literal [sigil] :: as)).Accepts (before ++ sigil :: cs) := by
  have hsigil : (Node.cat (.literal [sigil] :: as)).Accepts (sigil :: cs) :=
    (Node.accepts_literal [sigil]).cat_cons h
  obtain rfl | rfl := hbefore
  . exact (Node.accepts_optional_nil _ _).cat_cons hsigil
  . exact (Node.accepts_literal [star]).optional.cat_cons hsigil

/-! ### What is shown -/

theorem toList_display_immediate (w : Word)
    : (Operand.mk .immediate .direct w).display.toList = '$' :: (toString w.toInt).toList := by
  simp [Operand.display, toString]

theorem toList_display_memory (w : Word)
    : (Operand.mk .memory .direct w).display.toList = '@' :: '0' :: 'x' :: (Text.upperHex 1 w.toNat).toList := by
  simp [Operand.display, toString]

theorem display_direct (r : Register) : (Operand.mk .register .direct r.code).display = r.display := by
  simp [Operand.display, Operand.register?]

theorem display_indirect (r : Register) : (Operand.mk .register .indirect r.code).display = "*" ++ r.display := by
  simp [Operand.display, Operand.register?]

theorem toList_display_register (r : Register) : r.display.toList = '%' :: r.name.toList := by
  simp [Register.display, toString]

theorem accepts_of_isShown {o : Operand} (h : o.IsShown) : (operandNode o.kind).Accepts o.display.toList := by
  have hname : ∀ r : Register, (Node.cat [row [(0x61, 0x7A)]]).Accepts r.name.toList := by
    intro r
    obtain ⟨hne, hletters⟩ := accepts_register r (mem_all r)
    exact Node.accepts_cat_singleton (Node.accepts_row (List.all_eq_true.mp hletters) (List.length_pos_iff.mpr hne))
  cases h with
  | immediate w =>
    rw [toList_display_immediate, toList_toString]
    apply accepts_sigil [] (.inl rfl)
    have hdigits := Node.accepts_cat_singleton (accepts_decimal w.toInt.natAbs)
    split
    . exact (Node.accepts_literal ['-']).optional.cat_cons hdigits
    . exact (Node.accepts_optional_nil _ _).cat_cons hdigits
  | memory w =>
    rw [toList_display_memory]
    exact accepts_sigil [] (.inl rfl) (Node.accepts_cat_singleton (accepts_hexadecimal w.toNat))
  | direct r =>
    rw [display_direct, toList_display_register]
    exact accepts_sigil [] (.inl rfl) (hname r)
  | indirect r =>
    rw [display_indirect, String.toList_append, toList_display_register]
    exact accepts_sigil ['*'] (.inr rfl) (hname r)

/-! ### Reading -/

namespace Token

theorem digitsIn_of_readDigits {e invalid : TokenError} {base n : Nat} {cs : List Char} (hne : cs ≠ [])
    (h : Text.readDigits base (Bits.bound 64) 0 cs = .ok n)
    : readMagnitude.digitsIn e base invalid cs = .ok n := by
  obtain ⟨c, cs, rfl⟩ := List.exists_cons_of_ne_nil hne
  unfold readMagnitude.digitsIn Text.readNumeral
  dsimp only
  rw [h]
  rfl

/-- Digits are decimal if no mark of another base comes before them. -/
theorem readMagnitude_eq_digitsIn {cs : List Char} (e : TokenError) (hmark : ∀ c ∈ cs, c ∉ ['x', 'X', 'b', 'B'])
    : readMagnitude e cs = readMagnitude.digitsIn e 10 .invalidDecimal cs := by
  have hne : ∀ c ∈ ['x', 'X', 'b', 'B'], ∀ digits, cs ≠ '0' :: c :: digits := by
    intro c hc digits heq
    refine hmark c ?_ hc
    rw [heq]
    exact List.mem_cons_of_mem _ List.mem_cons_self
  unfold readMagnitude
  split
  . next heq => exact absurd rfl (hne _ (by simp) _)
  . next heq => exact absurd rfl (hne _ (by simp) _)
  . next heq => exact absurd rfl (hne _ (by simp) _)
  . next heq => exact absurd rfl (hne _ (by simp) _)
  . rfl

theorem readMagnitude_toDigits {e : TokenError} {n : Nat} (hn : n < Bits.bound 64)
    : readMagnitude e (Nat.toDigits 10 n) = .ok n := by
  have hread : Text.readDigits 10 (Bits.bound 64) 0 ((Nat.toDigits 10 n).map id) = .ok n :=
    Text.readDigits_toDigits (by decide) Text.digitValue?_ten hn
  rw [List.map_id] at hread
  have hmark : ∀ c ∈ Nat.toDigits 10 n, c ∉ ['x', 'X', 'b', 'B'] :=
    fun c hc hmem => not_mem_toDigits (List.mem_cons_of_mem _ hmem) hc
  rw [readMagnitude_eq_digitsIn e hmark]
  exact digitsIn_of_readDigits Nat.toDigits_ne_nil hread

theorem readMagnitude_upperHex {e : TokenError} {n : Nat} (hn : n < Bits.bound 64)
    : readMagnitude e ('0' :: 'x' :: (Text.upperHex 1 n).toList) = .ok n := by
  apply digitsIn_of_readDigits (upperHex_ne_nil n)
  rw [Text.toList_upperHex, Text.readDigits_replicate (by decide) (by decide)]
  exact Text.readDigits_toDigits (by decide) Text.digitValue?_sixteen hn

theorem readInteger_minus (e : TokenError) (digits : List Char)
    : readInteger e ('-' :: digits) = (do return -(← readMagnitude e digits : Nat)) := rfl

theorem readInteger_of_ne {e : TokenError} {c : Char} {digits : List Char} (hc : c ≠ '-')
    : readInteger e (c :: digits) = (do return (← readMagnitude e (c :: digits) : Nat)) := by
  unfold readInteger
  split
  . next heq => exact absurd (List.head_eq_of_cons_eq heq) hc
  . rfl

theorem readInteger_toString {e : TokenError} {i : Int} (hi : i.natAbs < Bits.bound 64)
    : readInteger e (toString i).toList = .ok i := by
  have hread := readMagnitude_toDigits (e := e) hi
  rw [toList_toString]
  split
  . next hneg =>
    rw [readInteger_minus, hread]
    show (Except.ok (-(i.natAbs : Int)) : Except TokenError Int) = .ok i
    congr 1
    omega
  . next hnonneg =>
    unfold readInteger
    split
    . next heq =>
      have hminus : '-' ∈ Nat.toDigits 10 i.natAbs := by
        rw [heq]
        exact List.mem_cons_self
      exact absurd hminus (not_mem_toDigits (by simp))
    . rw [hread]
      show (Except.ok (i.natAbs : Int) : Except TokenError Int) = .ok i
      congr 1
      omega

theorem read_between {text : String} {before after : List Char} {c : Char} {cs : List Char}
    {x : Except TokenError Token} (htext : text.toList = before ++ c :: cs ++ after) (hbefore : ∀ c ∈ before, isGap c)
    (hafter : ∀ c ∈ after, isGap c) (hc : isGap c = false)
    (h : readLongest (c :: cs ++ after) = (do return (← x, cs.length + 1))) : read text = x := by
  have hstart : text.toList.dropWhile isGap = c :: cs ++ after := by
    rw [htext, List.append_assoc, List.dropWhile_append, List.dropWhile_eq_nil_iff.mpr hbefore, List.isEmpty_nil,
      if_pos rfl, List.cons_append, List.dropWhile_cons, hc]
    rfl
  have hrest : (c :: cs ++ after).drop (c :: cs).length = after := List.drop_left
  have hend : after.dropWhile isGap = [] := List.dropWhile_eq_nil_iff.mpr hafter
  unfold read
  dsimp only
  rw [hstart, h]
  cases x with
  | error e => rfl
  | ok t =>
    dsimp only [bind, Except.bind, pure, Except.pure]
    rw [← List.length_cons, hrest, hend]

theorem read_of_readLongest {text : String} {c : Char} {cs : List Char} {t : Token} (htext : text.toList = c :: cs)
    (hc : isGap c = false) (h : readLongest (c :: cs) = .ok (t, cs.length + 1)) : read text = .ok t := by
  have hnone : ∀ c ∈ [], isGap c := by simp
  rw [← List.append_nil (c :: cs)] at htext h
  exact read_between htext hnone hnone hc h

theorem literalBody_minus {cs : List Char} (h : ∀ c ∈ cs, Text.isWordChar c)
    : literalBody ('-' :: cs) = '-' :: cs :=
  congrArg ('-' :: ·) (List.takeWhile_eq_self_iff.mpr h)

theorem literalBody_of_ne {c : Char} {cs : List Char} (hc : c ≠ '-')
    : literalBody (c :: cs) = (c :: cs).takeWhile Text.isWordChar := by
  unfold literalBody
  split
  . next heq => exact absurd (List.head_eq_of_cons_eq heq) hc
  . rfl

theorem literalBody_eq_self {cs : List Char} (h : ∀ c ∈ cs, Text.isWordChar c)
    : literalBody cs = cs := by
  cases cs with
  | nil => rfl
  | cons c cs =>
    have hc : c ≠ '-' := by
      rintro rfl
      exact absurd (h '-' List.mem_cons_self) (by decide)
    rw [literalBody_of_ne hc]
    exact List.takeWhile_eq_self_iff.mpr h

theorem literalBody_toString (i : Int) : literalBody (toString i).toList = (toString i).toList := by
  rw [toList_toString]
  split
  . exact literalBody_minus fun _ => isWordChar_of_mem_toDigits
  . exact literalBody_eq_self fun _ => isWordChar_of_mem_toDigits

theorem readLongest_dollar (cs : List Char)
    : readLongest ('$' :: cs) = (do return (← readImmediate (literalBody cs), (literalBody cs).length + 1)) := rfl

theorem readLongest_at (cs : List Char)
    : readLongest ('@' :: cs) = (do return (← readAddress (literalBody cs), (literalBody cs).length + 1)) := rfl

theorem read_immediate {text : String} (w : Word) (htext : text.toList = '$' :: (toString w.toInt).toList)
    : read text = .ok (.immediate w.toInt) := by
  have hlow : -(2 ^ 31 : Int) ≤ w.toInt := BitVec.le_toInt w
  have hhigh : w.toInt < 2 ^ 31 := BitVec.toInt_lt
  have hinteger : readInteger .immediateRange (toString w.toInt).toList = .ok w.toInt :=
    readInteger_toString (by unfold Bits.bound; simp only [Nat.pow_eq]; omega)
  have himmediate : readImmediate (toString w.toInt).toList = .ok (.immediate w.toInt) := by
    unfold readImmediate
    rw [hinteger]
    exact if_pos ⟨by omega, by omega⟩
  apply read_of_readLongest htext rfl
  rw [readLongest_dollar, literalBody_toString, himmediate]
  rfl

theorem readAddress_of_readInteger {body : List Char} {v : Int} (h : readInteger .addressRange body = .ok v)
    (hv : 0 ≤ v ∧ v < 0x100000000) : readAddress body = .ok (.address (BitVec.ofInt 32 v)) := by
  unfold readAddress
  rw [h]
  exact if_pos hv

theorem read_address {text : String} (w : Word)
    (htext : text.toList = '@' :: '0' :: 'x' :: (Text.upperHex 1 w.toNat).toList)
    : read text = .ok (.address w) := by
  have hword : ∀ c ∈ '0' :: 'x' :: (Text.upperHex 1 w.toNat).toList, Text.isWordChar c := by
    refine List.forall_mem_cons.mpr ⟨by decide, List.forall_mem_cons.mpr ⟨by decide, ?_⟩⟩
    exact fun c hc => (holds_capitalDigits c (Text.mem_capitalDigits_of_mem_upperHex hc)).1
  have hlt : w.toNat < 2 ^ 32 := w.isLt
  have hmagnitude : readMagnitude .addressRange ('0' :: 'x' :: (Text.upperHex 1 w.toNat).toList) = .ok w.toNat :=
    readMagnitude_upperHex (by unfold Bits.bound; simp only [Nat.pow_eq]; omega)
  have hinteger : readInteger .addressRange ('0' :: 'x' :: (Text.upperHex 1 w.toNat).toList)
      = .ok (w.toNat : Int) := by
    rw [readInteger_of_ne (by decide), hmagnitude]
    rfl
  have hvalue : BitVec.ofInt 32 w.toNat = w := by
    rw [BitVec.ofInt_natCast, BitVec.ofNat_toNat, BitVec.setWidth_eq]
  have haddress : readAddress ('0' :: 'x' :: (Text.upperHex 1 w.toNat).toList) = .ok (.address w) := by
    rw [readAddress_of_readInteger hinteger ⟨by omega, by omega⟩, hvalue]
  apply read_of_readLongest htext rfl
  rw [readLongest_at, literalBody_eq_self hword, haddress]
  rfl

theorem read_register : ∀ r ∈ Register.all, read r.display = .ok (.register r)
    ∧ read ("*" ++ r.display) = .ok (.indirect r) := by
  decide +kernel

end Token

theorem ofInteger_toInt (w : Word) : Bits.ofInteger w.toInt = .ok w := by
  have hlow : -(2 ^ 31 : Int) ≤ w.toInt := BitVec.le_toInt w
  have hhigh : w.toInt < 2 ^ 31 := BitVec.toInt_lt
  unfold Bits.ofInteger
  split
  . unfold Bits.ofSigned Bits.bound
    simp only [Nat.pow_eq]
    rw [if_pos ⟨by simp; omega, by simp; omega⟩, BitVec.ofInt_toInt]
  . unfold Bits.ofUnsigned Bits.bound
    simp only [Nat.pow_eq]
    rw [if_pos (by omega), ← BitVec.ofInt_natCast, Int.toNat_of_nonneg (by omega), BitVec.ofInt_toInt]

theorem encodeOperand_of_isShown {o : Operand} (h : o.IsShown) (t : LabelTable)
    : encodeOperand t o.kind o.display = .ok o := by
  cases h with
  | immediate w =>
    have htoken : encodeToken t (.immediate w.toInt) = .ok (.direct, w) := by
      unfold encodeToken
      dsimp only
      rw [ofInteger_toInt]
    unfold encodeOperand
    rw [Token.read_immediate w (toList_display_immediate w)]
    show (do let x ← encodeToken t (.immediate w.toInt); return ⟨.immediate, x.1, x.2⟩ : Except Fault Operand) = _
    rw [htoken]
    rfl
  | memory w =>
    unfold encodeOperand
    rw [Token.read_address w (toList_display_memory w)]
    rfl
  | direct r =>
    unfold encodeOperand
    rw [display_direct, (Token.read_register r (mem_all r)).1]
    rfl
  | indirect r =>
    unfold encodeOperand
    rw [display_indirect, (Token.read_register r (mem_all r)).2]
    rfl

end Assembly

end Triword
