import Triword.Proofs.Action
import Triword.Proofs.Alu.Logic
import Triword.Proofs.Alu.Product
import Triword.Proofs.Alu.Quotient
import Triword.Proofs.Alu.Shift
import Triword.Proofs.Alu.Sum
import Triword.Proofs.Control
import Triword.Proofs.Cpu.Effect

/-!
The operations of the arithmetic-logic unit: which function each of them stands for, what comes of their operands, and
that all of them keep the privilege bits and the interrupt flag.
-/

namespace Triword

namespace Operation

open Alu
open Cpu (total quotient)

/-- What an operation makes of the flags, the target and the source. -/
def binary? : Operation → Option (Eflags → Word → Word → Except Trap (Flagged Word))
  | add => some (total Alu.add)
  | adc => some (total Alu.adc)
  | sub => some (total Alu.sub)
  | sbb => some (total Alu.sbb)
  | mul => some (total Alu.mul)
  | div => some quotient
  | and => some (total Alu.and)
  | or => some (total Alu.or)
  | xor => some (total Alu.xor)
  | shl => some (total Alu.shl)
  | shr => some (total Alu.shr)
  | sar => some (total Alu.sar)
  | _ => none

def unary? : Operation → Option (Eflags → Word → Flagged Word)
  | not => some Alu.not
  | neg => some Alu.neg
  | inc => some Alu.inc
  | dec => some Alu.dec
  | _ => none

variable {o : Operation}

theorem sameControl_of_binary? {f : Eflags → Word → Word → Except Trap (Flagged Word)} (hf : o.binary? = some f)
    {flags : Eflags} {a b : Word} {r : Flagged Word} (hr : f flags a b = .ok r) : flags.SameControl r.2 := by
  cases o with
  | add | adc | sub | sbb =>
    cases hf
    cases hr
    apply Alu.sameControl_addWithCarry
  | mul =>
    cases hf
    cases hr
    apply Alu.sameControl_mul
  | div =>
    cases hf
    unfold quotient at hr
    split at hr
    . next hdiv =>
      cases hr
      exact Alu.sameControl_div hdiv
    . cases hr
  | and | or | xor =>
    cases hf
    cases hr
    apply Alu.sameControl_logic
  | shl | shr | sar =>
    cases hf
    cases hr
    apply Alu.sameControl_shift
  | _ => cases hf

theorem sameControl_of_unary? {f : Eflags → Word → Flagged Word} (hf : o.unary? = some f) (flags : Eflags)
    (a : Word) : flags.SameControl (f flags a).2 := by
  cases o with
  | not =>
    cases hf
    apply Alu.sameControl_logic
  | neg =>
    cases hf
    apply Alu.sameControl_addWithCarry
  | inc =>
    cases hf
    apply Alu.sameControl_inc
  | dec =>
    cases hf
    apply Alu.sameControl_dec
  | _ => cases hf

/-! ### Results -/

/-- The result of an operation on a target `a` and a source `b`. A shift by no place leaves the flags as well. -/
def Gives (f : Eflags) (a b : Word) (r : Flagged Word) : Operation → Prop
  | add => Checks f (a.toInt + b.toInt) r ∧ r.2.carry = decide (2 ^ 32 ≤ a.toNat + b.toNat)
  | adc =>
    Checks f (a.toInt + b.toInt + f.carry.toNat) r
      ∧ r.2.carry = decide (2 ^ 32 ≤ a.toNat + b.toNat + f.carry.toNat)
  | sub => Yields f (a.toInt - b.toInt) r ∧ r.2.carry = decide (b ≠ 0 ∧ b.toNat ≤ a.toNat)
  | sbb => Yields f (a.toInt - b.toInt + f.carry.toNat) r
  | mul => Checks f (a.toInt * b.toInt) r ∧ r.2.carry = r.2.overflow
  | div =>
    b ≠ 0 ∧ r.1 = a.sdiv b ∧ Yields f (a.toInt.tdiv b.toInt) r
      ∧ r.2.carry = f.carry ∧ r.2.overflow = f.overflow
  | and => Clears f (a &&& b) r
  | or => Clears f (a ||| b) r
  | xor => Clears f (a ^^^ b) r
  | shl =>
    let c := b.toNat % 32
    (c = 0 → r = (a, f))
      ∧ (0 < c → Shifts f c (a.toNat * 2 ^ c) (a.getLsbD (32 - c)) (r.1.msb ^^ a.getLsbD (32 - c)) r)
  | shr =>
    let c := b.toNat % 32
    (c = 0 → r = (a, f)) ∧ (0 < c → Shifts f c (a.toNat / 2 ^ c) (a.getLsbD (c - 1)) a.msb r)
  | sar =>
    let c := b.toNat % 32
    (c = 0 → r = (a, f)) ∧ (0 < c → Shifts f c (a.toInt / 2 ^ c) (a.getLsbD (c - 1)) false r)
  | _ => False

/-- The result of an operation on its only operand. -/
def GivesAlone (f : Eflags) (a : Word) (r : Flagged Word) : Operation → Prop
  | not => Clears f (~~~a) r
  | neg => Checks f (-a.toInt) r
  | inc => Checks f (a.toInt + 1) r ∧ r.2.carry = f.carry
  | dec => Checks f (a.toInt - 1) r ∧ r.2.carry = f.carry
  | _ => False

theorem shift_zero (f : Eflags) (a : Word) {count : Word} (hcount : count.toNat % 32 = 0) (step : Word → Shifted)
    (overflow : Shifted → Bool) : shift f a (shiftCount count) step overflow = (a, f) := by
  rw [shiftCount_eq, hcount]
  rfl

theorem gives_sub (f : Eflags) (a b : Word) : sub.Gives f a b (Alu.sub f a b) :=
  ⟨yields_sub f a b, carry_sub f a b⟩

theorem gives_div {flags : Eflags} {a b : Word} {r : Flagged Word} (hr : quotient flags a b = .ok r)
    : div.Gives flags a b r := by
  by_cases hb : b = 0#32
  . unfold quotient at hr
    rw [(div_eq_none_iff flags a b).mpr hb] at hr
    cases hr
  . unfold quotient at hr
    rw [div_eq flags a hb] at hr
    cases hr
    exact ⟨hb, rfl, yields_withResult_sdiv flags a b, rfl, rfl⟩

theorem gives_of_binary? {f : Eflags → Word → Word → Except Trap (Flagged Word)} (hf : o.binary? = some f)
    {flags : Eflags} {a b : Word} {r : Flagged Word} (hr : f flags a b = .ok r) : o.Gives flags a b r := by
  cases o with
  | add =>
    cases hf
    cases hr
    exact ⟨checks_add flags a b, carry_addWithCarry flags a b false⟩
  | adc =>
    cases hf
    cases hr
    exact ⟨checks_addWithCarry flags a b flags.carry, carry_addWithCarry flags a b flags.carry⟩
  | sub =>
    cases hf
    cases hr
    exact gives_sub flags a b
  | sbb =>
    cases hf
    cases hr
    exact yields_addWithCarry_negate flags a b flags.carry
  | mul =>
    cases hf
    cases hr
    exact ⟨checks_mul flags a b, rfl⟩
  | div =>
    cases hf
    exact gives_div hr
  | and =>
    cases hf
    cases hr
    exact clears_and flags a b
  | or =>
    cases hf
    cases hr
    exact clears_or flags a b
  | xor =>
    cases hf
    cases hr
    exact clears_xor flags a b
  | shl =>
    cases hf
    cases hr
    exact ⟨fun hc => shift_zero flags a hc _ _, fun hc => (shifts_shl flags a rfl hc).2⟩
  | shr =>
    cases hf
    cases hr
    exact ⟨fun hc => shift_zero flags a hc _ _, fun hc => (shifts_shr flags a rfl hc).2⟩
  | sar =>
    cases hf
    cases hr
    exact ⟨fun hc => shift_zero flags a hc _ _, fun hc => (shifts_sar flags a rfl hc).2⟩
  | _ => cases hf

theorem givesAlone_of_unary? {f : Eflags → Word → Flagged Word} (hf : o.unary? = some f) (flags : Eflags) (a : Word)
    : o.GivesAlone flags a (f flags a) := by
  cases o with
  | not =>
    cases hf
    exact clears_not flags a
  | neg =>
    cases hf
    exact checks_neg flags a
  | inc =>
    cases hf
    exact ⟨checks_inc flags a, rfl⟩
  | dec =>
    cases hf
    exact ⟨checks_dec flags a, rfl⟩
  | _ => cases hf

end Operation

namespace Cpu.Snapshot

variable {i : Instruction}

theorem effect_of_binary? {f : Eflags → Word → Word → Except Trap (Flagged Word)}
    (h : i.operation.binary? = some f) (s : Snapshot) : s.effect i = s.binary i f := by
  obtain ⟨operation, first, second⟩ := i
  cases operation with
  | add | adc | sub | sbb | mul | div | and | or | xor | shl | shr | sar =>
    cases h
    rfl
  | _ => cases h

theorem effect_of_unary? {f : Eflags → Word → Flagged Word} (h : i.operation.unary? = some f) (s : Snapshot)
    : s.effect i = s.unary i f := by
  obtain ⟨operation, first, second⟩ := i
  cases operation with
  | not | neg | inc | dec =>
    cases h
    rfl
  | _ => cases h

end Cpu.Snapshot

end Triword
