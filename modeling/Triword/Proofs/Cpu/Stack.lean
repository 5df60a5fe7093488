import Mathlib.Data.List.Induction
import Triword.Proofs.Cpu.Load

/-!
The stack without paging. Words that are pushed lie one below the other; as long as they do not come round to the
first of them, popping as many gives them back in reverse order and moves the stack pointer back to where it was.
-/

namespace Triword

namespace Address

variable {space : Space}

def below (a : Address space) (slots : Nat) : Address space :=
  ⟨a.word - BitVec.ofNat 32 (4 * slots)⟩

theorem below_zero (a : Address space) : a.below 0 = a := by
  apply congrArg Address.mk
  apply BitVec.sub_zero

theorem below_succ (a : Address space) (m : Nat) : (a.below m).below 1 = a.below (m + 1) := by
  apply congrArg Address.mk
  unfold below
  dsimp only
  bv_omega

theorem below_add {a : Address space} {m n : Nat} (h : n ≤ m) : (a.below m).add (4 * n) = a.below (m - n) := by
  rw [add, offset_eq]
  apply congrArg Address.mk
  unfold below
  dsimp only
  bv_omega

/-- The bytes of a number of slots that lie one below the other are those that follow the lowest one. -/
theorem exists_slot_of_lt (a : Address space) {m n : Nat} (h : n < 4 * m)
    : ∃ k < m, ∃ j < 4, (a.below m).add n = (a.below (k + 1)).add j := by
  refine ⟨m - 1 - n / 4, by omega, n % 4, by omega, ?_⟩
  have hslot : m - 1 - n / 4 + 1 = m - n / 4 := by omega
  rw [hslot, ← below_add (by omega), add_add, Nat.div_add_mod]

end Address

namespace Cpu

open Triword.Address (below_succ below_add)

variable {cpu cpu' before : Cpu} {w : Word} {words : List Word}

theorem slotBelow_eq (a : VirtualAddress) : slotBelow a = a.below 1 := by
  unfold slotBelow
  rw [Address.offset_eq, Adder.negate_eq_neg, ← BitVec.sub_eq_add_neg]
  rfl

def pushAll (words : List Word) : Action Unit :=
  words.forM push

def popAll : Nat → Action (List Word)
  | 0 => return []
  | n + 1 => do
    let w ← pop
    return w :: (← popAll n)

def withStackPointer (cpu : Cpu) (a : VirtualAddress) : Cpu :=
  { cpu with regs := { cpu.regs with esp := a } }

/-! ### Pushing -/

theorem exists_of_push_ok (h : push w cpu = .ok () cpu')
    : ∃ mmu, Mmu.writeWord (cpu.regs.esp.below 1) w (cpu.context .write) cpu.mmu = .ok () mmu
        ∧ cpu' = { cpu with mmu, regs := { cpu.regs with esp := cpu.regs.esp.below 1 } } := by
  rw [← slotBelow_eq]
  unfold push at h
  rw [Action.get_bind_apply] at h
  obtain ⟨u, cpu₁, hwrite, hdone⟩ := Action.bind_eq_ok_iff.mp h
  obtain ⟨mmu, hword, rfl⟩ := exists_of_onMmu_ok hwrite
  cases hdone
  exact ⟨mmu, hword, rfl⟩

theorem pushAll_append_eq_ok_iff {more : List Word}
    : pushAll (words ++ more) cpu = .ok () cpu'
        ↔
      ∃ between, pushAll words cpu = .ok () between ∧ pushAll more between = .ok () cpu' := by
  induction words generalizing cpu with
  | nil =>
    constructor
    . intro h
      exact ⟨cpu, rfl, h⟩
    . rintro ⟨between, hnone, hmore⟩
      cases hnone
      exact hmore
  | cons w words ih =>
    unfold pushAll at ih ⊢
    rw [List.cons_append, Action.forM_cons, Action.forM_cons]
    cases hpush : push w cpu with
    | error t cpu₁ =>
      rw [Action.bind_of_error hpush, Action.bind_of_error hpush]
      simp
    | ok u cpu₁ =>
      rw [Action.bind_of_ok hpush, Action.bind_of_ok hpush]
      exact ih

/-- The machine with words pushed on its stack, which go as far as they go once round the space. -/
structure Pushed (cpu cpu' : Cpu) (words : List Word) : Prop where
  regs : cpu'.regs = { cpu.regs with esp := cpu.regs.esp.below words.length }
  real : cpu'.mmu.paging = false
  carries : cpu'.mmu.memory.Carries cpu'.regs.esp.identity (words.reverse.flatMap Bits.bytes)
  byteAt_other : ∀ q, (∀ n < 4 * words.length, q ≠ cpu'.regs.esp.identity.add n) →
    cpu'.mmu.memory.byteAt q = cpu.mmu.memory.byteAt q

/-- One more word lies below the others and touches none of them. -/
theorem pushed_of_push (hpushed : cpu.Pushed before words) (hroom : 4 * (words.length + 1) ≤ 4294967296)
    (h : push w before = .ok () cpu') : cpu.Pushed cpu' (words ++ [w]) := by
  obtain ⟨mmu, hwrite, rfl⟩ := exists_of_push_ok h
  obtain ⟨hreal, hcapacity, hcarries, hother⟩ := Mmu.carries_of_writeWord hpushed.real rfl hwrite
  have hlength : (words ++ [w]).length = words.length + 1 := List.length_append
  have hesp : before.regs.esp = cpu.regs.esp.below words.length := by
    rw [hpushed.regs]
  -- The bytes pushed before are those behind the four of the new word.
  have habove (n : Nat) : before.regs.esp.identity.add n = (before.regs.esp.below 1).identity.add (4 + n) := by
    have hslot := below_add (a := before.regs.esp) (Nat.le_refl 1)
    rw [Address.below_zero] at hslot
    conv_lhs => rw [← hslot]
    exact Address.add_add _ 4 n
  constructor
  case regs =>
    show { before.regs with esp := before.regs.esp.below 1 } = _
    rw [hlength, ← below_succ cpu.regs.esp, ← hesp, hpushed.regs]
  case real => exact hreal
  case carries =>
    rw [List.reverse_append, List.reverse_singleton, List.singleton_append, List.flatMap_cons]
    apply hcarries.append
    have hstart : (before.regs.esp.below 1).identity.add (Bits.bytes w).length = before.regs.esp.identity.add 0 :=
      (habove 0).symm
    rw [Address.add_zero] at hstart
    show mmu.memory.Carries ((before.regs.esp.below 1).identity.add _) _
    rw [hstart]
    apply hpushed.carries.congr hcapacity
    intro n hn
    rw [Bits.length_flatMap_bytes, List.length_reverse] at hn
    apply hother
    intro m hm heq
    rw [habove] at heq
    have hsame := Address.add_injective (by omega) (by omega) heq
    omega
  case byteAt_other =>
    intro q hq
    rw [hlength] at hq
    show mmu.memory.byteAt q = _
    rw [hother q, hpushed.byteAt_other q]
    . intro n hn
      rw [habove]
      apply hq
      omega
    . intro n hn
      apply hq
      omega

theorem pushed_of_pushAll (hreal : cpu.mmu.paging = false) (hroom : 4 * words.length ≤ 4294967296)
    (h : pushAll words cpu = .ok () cpu') : cpu.Pushed cpu' words := by
  induction words using List.reverseRecOn generalizing cpu' with
  | nil =>
    cases h
    constructor
    case regs =>
      rw [List.length_nil, Address.below_zero]
    case real => exact hreal
    case carries =>
      intro n b hb
      cases hb
    case byteAt_other =>
      intro q _
      rfl
  | append_singleton words w ih =>
    rw [List.length_append] at hroom
    obtain ⟨between, hwords, hlast⟩ := pushAll_append_eq_ok_iff.mp h
    unfold pushAll at hlast
    rw [Action.forM_cons] at hlast
    obtain ⟨u, cpu₁, hpush, hnone⟩ := Action.bind_eq_ok_iff.mp hlast
    cases hnone
    exact pushed_of_push (ih (by omega) hwords) hroom hpush

/-! ### Popping -/

theorem pop_of_carries {rest : List Byte} (hreal : cpu.mmu.paging = false)
    (h : cpu.mmu.memory.Carries cpu.regs.esp.identity (Bits.bytes w ++ rest))
    : ∃ log, pop cpu = .ok w ((cpu.withStackPointer (cpu.regs.esp.add 4)).withLog log) := by
  obtain ⟨log, -, hread⟩ := reads_readMemory cpu cpu.regs.esp cpu.mmu.log
  have hword : cpu.snapshot.word cpu.regs.esp = .ok w := Mmu.peek_of_real hreal h
  rw [hword] at hread
  refine ⟨log, ?_⟩
  unfold pop
  rw [Action.get_bind_apply]
  apply Action.bind_of_ok hread

theorem popAll_of_carries (hreal : cpu.mmu.paging = false)
    (h : cpu.mmu.memory.Carries cpu.regs.esp.identity (words.flatMap Bits.bytes)) {n : Nat} (hn : n ≤ words.length)
    : ∃ log, popAll n cpu
        =
      .ok (words.take n) ((cpu.withStackPointer (cpu.regs.esp.add (4 * n))).withLog log) := by
  induction n generalizing cpu words with
  | zero =>
    refine ⟨cpu.mmu.log, ?_⟩
    rw [Nat.mul_zero, Address.add_zero]
    rfl
  | succ n ih =>
    cases words with
    | nil => cases hn
    | cons w words =>
      rw [List.flatMap_cons] at h
      obtain ⟨log, hpop⟩ := pop_of_carries hreal h
      let cpu₁ := (cpu.withStackPointer (cpu.regs.esp.add 4)).withLog log
      have hrest : cpu₁.mmu.memory.Carries cpu₁.regs.esp.identity (words.flatMap Bits.bytes) := h.drop 4
      have hreal₁ : cpu₁.mmu.paging = false := hreal
      obtain ⟨log', hpops⟩ := ih hreal₁ hrest (Nat.le_of_succ_le_succ hn)
      refine ⟨log', ?_⟩
      rw [popAll, Action.bind_of_ok hpop, Action.bind_of_ok hpops]
      show EStateM.Result.ok _ ((cpu.withStackPointer ((cpu.regs.esp.add 4).add (4 * n))).withLog log') = _
      rw [Address.add_add, Nat.mul_succ, Nat.add_comm 4]
      rfl

/-! ### There and back -/

theorem Pushed.popAll_eq (h : cpu.Pushed cpu' words) {n : Nat} (hn : n ≤ words.length)
    : ∃ popped, popAll n cpu' = .ok (words.reverse.take n) popped
        ∧ popped.regs = { cpu.regs with esp := cpu.regs.esp.below (words.length - n) }
        ∧ popped.mmu.memory = cpu'.mmu.memory := by
  have hesp : cpu'.regs.esp = cpu.regs.esp.below words.length := by
    rw [h.regs]
  rw [← List.length_reverse] at hn
  obtain ⟨log, hpops⟩ := popAll_of_carries h.real h.carries hn
  rw [List.length_reverse] at hn
  refine ⟨_, hpops, ?_, rfl⟩
  show { cpu'.regs with esp := cpu'.regs.esp.add (4 * n) } = _
  rw [hesp, below_add hn, h.regs]

/--
Words that are pushed without paging lower the stack pointer by four for each and change no byte outside their slots.
Popping as many gives them back in reverse order and moves the stack pointer back to where it was. After each word, on
the way there and on the way back, all other registers are what they were.
-/
theorem popAll_of_pushAll (hreal : cpu.mmu.paging = false) (hlength : words.length ≤ Bits.bound 30)
    (h : pushAll words cpu = .ok () cpu')
    : cpu'.regs.esp.word = cpu.regs.esp.word - BitVec.ofNat 32 (4 * words.length)
        ∧ (∀ q, (∀ k < words.length, q ∉ Memory.wordPlaces (cpu.regs.esp.below (k + 1)).identity)
            → cpu'.mmu.memory.byteAt q = cpu.mmu.memory.byteAt q)
        ∧ (∃ popped, popAll words.length cpu' = .ok words.reverse popped ∧ popped.regs = cpu.regs)
        ∧ (∀ n ≤ words.length, ∃ between, pushAll (words.take n) cpu = .ok () between
            ∧ between.regs = { cpu.regs with esp := cpu.regs.esp.below n })
        ∧ (∀ n ≤ words.length, ∃ popped, popAll n cpu' = .ok (words.reverse.take n) popped
            ∧ popped.regs = { cpu.regs with esp := cpu.regs.esp.below (words.length - n) }
            ∧ popped.mmu.memory = cpu'.mmu.memory) := by
  have hroom : 4 * words.length ≤ 4294967296 := Nat.mul_le_mul_left 4 hlength
  have hpushed := pushed_of_pushAll hreal hroom h
  refine ⟨?esp, ?byteAt, ?back, ?pushing, ?popping⟩
  case esp =>
    rw [hpushed.regs]
    rfl
  case byteAt =>
    intro q hq
    apply hpushed.byteAt_other
    intro n hn heq
    obtain ⟨k, hk, j, hj, hslot⟩ := Address.exists_slot_of_lt cpu.regs.esp hn
    apply hq k hk
    rw [heq, hpushed.regs, Memory.wordPlaces_eq_ofFn, List.mem_ofFn]
    exact ⟨⟨j, hj⟩, congrArg Address.identity hslot.symm⟩
  case back =>
    obtain ⟨popped, hpops, hregs, -⟩ := hpushed.popAll_eq (Nat.le_refl words.length)
    rw [← List.length_reverse, List.take_length, List.length_reverse] at hpops
    rw [Nat.sub_self, Address.below_zero] at hregs
    exact ⟨popped, hpops, hregs⟩
  case pushing =>
    intro n hn
    rw [← List.take_append_drop n words] at h
    obtain ⟨between, hfirst, -⟩ := pushAll_append_eq_ok_iff.mp h
    have hlen : (words.take n).length = n := List.length_take_of_le hn
    have hsome := pushed_of_pushAll hreal (by omega) hfirst
    refine ⟨between, hfirst, ?_⟩
    rw [hsome.regs, hlen]
  case popping =>
    intro n hn
    apply hpushed.popAll_eq hn

/-- A stack at an odd place near the start of the space, so that what is pushed goes round to the end of it. -/
def roundStack : Cpu :=
  initial { Settings.standard with capacity := ⟨0xFFFFFFFF⟩, stackPointer := ⟨6⟩, fill := .known 7 }

theorem popAll_of_pushAll_roundStack
    : roundStack.mmu.paging = false
        ∧ [0x01020304, 0xCAFEBABE, 0x80000001].length ≤ Bits.bound 30
        ∧ ∃ pushed, pushAll [0x01020304, 0xCAFEBABE, 0x80000001] roundStack = .ok () pushed
          ∧ pushed.regs.esp.word = 0xFFFFFFFA
          ∧ ∃ popped, popAll 3 pushed = .ok [0x80000001, 0xCAFEBABE, 0x01020304] popped
            ∧ popped.regs = roundStack.regs := by
  have hpush : Action.outcome (pushAll [0x01020304, 0xCAFEBABE, 0x80000001] roundStack) = .ok () := by
    decide +kernel
  replace hpush := Action.eq_ok_of_outcome hpush
  obtain ⟨hesp, -, hback, -⟩ := popAll_of_pushAll rfl (by decide) hpush
  exact ⟨rfl, by decide, _, hpush, hesp, hback⟩

end Cpu

end Triword
