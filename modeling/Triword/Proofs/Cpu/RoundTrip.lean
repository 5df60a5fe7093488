import Triword.Proofs.Cpu.Load

/-!
Instructions against the words in which they lie. An instruction is fetched from its three words, and
what is fetched from any three words has these words again, but for what no operand makes use of: the
mode and the value of a slot that is empty.
-/

namespace Triword

/-- The word is the header of the instruction, up to the modes of operands that are absent. -/
def Instruction.AgreesWith (i : Instruction) (header : Word) : Prop :=
  ∀ k, (i.first.kind = .absent → k ≠ 14 ∧ k ≠ 15)
    → (i.second.kind = .absent → k ≠ 23 ∧ k ≠ 24)
    → i.header.encode.getMsbD k = header.getMsbD k

namespace Cpu

variable {cpu : Cpu} {a : VirtualAddress} {i : Instruction} {w : Word}

def Fetches (cpu : Cpu) (a : VirtualAddress) (w : Word) : Prop :=
  ∃ mmu, Mmu.readWord a (cpu.context .execute) cpu.mmu = .ok w mmu

theorem fetches_iff : cpu.Fetches a w ↔ cpu.code a = .ok w := by
  have haccess : (cpu.context .execute).access ≠ .write := by simp [context]
  obtain ⟨log, -, hread⟩ := Mmu.readWord_eq haccess cpu.mmu a
  unfold Fetches code
  rw [hread]
  cases cpu.mmu.peek a (cpu.context .execute) with
  | error t => simp
  | ok w' => simp

theorem exists_fetch_of_carries (hfirst : i.first.IsStored) (hsecond : i.second.IsStored)
    (hreal : cpu.mmu.paging = false)
    (h : cpu.mmu.memory.Carries a.identity (i.encode.flatMap Bits.bytes))
    : ∃ cpu', fetch a cpu = .ok (some i) cpu' := by
  apply exists_fetch_of_code hfirst hsecond
  intro j hj
  have hinside : j < i.encode.length := hj
  exact ⟨_, List.getElem?_eq_getElem hinside, code_of_carries hreal h (List.getElem?_eq_getElem hinside)⟩

theorem of_slotOperand_eq_ok {slot : Slot} {word : Except Trap Word} {o : Operand}
    (h : slotOperand slot word = .ok o)
    : o.kind = slot.kind ∧ o.IsStored ∧ (o.kind ≠ .absent → o.mode = slot.mode ∧ word = .ok o.value) := by
  unfold slotOperand at h
  split at h
  . next habsent =>
    cases h
    exact ⟨habsent.symm, .inl rfl, fun hpresent => absurd rfl hpresent⟩
  . next hpresent =>
    split at h
    . cases h
    . next hmode =>
      obtain ⟨value, hvalue, h⟩ := Outcome.bind_eq_ok_iff.mp h
      dsimp only at h
      split at h
      . cases h
      . next hnamed =>
        cases h
        refine ⟨rfl, .inr ⟨hpresent, ?_, ?_⟩, fun _ => ⟨rfl, hvalue⟩⟩
        . intro hindirect
          exact Decidable.not_not.mp fun hkind => hmode ⟨hindirect, hkind⟩
        . intro hkind
          -- The register has a name, or the slot would have been refused.
          have hregister : Operand.register? ⟨slot.kind, slot.mode, value⟩ ≠ none :=
            fun hnone => hnamed ⟨hkind, hnone⟩
          unfold Operand.register? at hregister
          rw [if_pos hkind] at hregister
          exact Option.ne_none_iff_exists'.mp hregister

theorem words_of_instructionAt {header : Word} (h : cpu.instructionAt a header = .ok (some i))
    : i.AgreesWith header
        ∧ i.first.IsStored
        ∧ i.second.IsStored
        ∧ (i.first.kind ≠ .absent → cpu.code (a.add 4) = .ok i.first.value)
        ∧ (i.second.kind ≠ .absent → cpu.code (a.add 8) = .ok i.second.value) := by
  unfold instructionAt at h
  split at h
  . cases h
  . obtain ⟨shape, hshape, h⟩ := Outcome.bind_eq_ok_iff.mp h
    obtain ⟨first, hfirst, h⟩ := Outcome.bind_eq_ok_iff.mp h
    obtain ⟨second, hsecond, h⟩ := Outcome.bind_eq_ok_iff.mp h
    cases h
    obtain ⟨hd, hdecode, hresolve⟩ := Outcome.bind_eq_ok_iff.mp hshape
    obtain ⟨hkind₁, hstored₁, hpresent₁⟩ := of_slotOperand_eq_ok hfirst
    obtain ⟨hkind₂, hstored₂, hpresent₂⟩ := of_slotOperand_eq_ok hsecond
    refine ⟨?_, hstored₁, hstored₂, fun hp => (hpresent₁ hp).2, fun hp => (hpresent₂ hp).2⟩
    -- What was decoded keeps every bit but those of modes, which are lost where there is no operand.
    intro k hk₁ hk₂
    rw [← Header.encode_of_decode hdecode, Header.eq_of_resolve hresolve]
    apply Header.getMsbD_encode_congr
    . rfl
    . rfl
    . exact congrArg OperandKind.code hkind₁
    . exact congrArg OperandKind.code hkind₂
    . intro hk
      have hp : first.kind ≠ .absent := by
        intro habsent
        have hne := hk₁ habsent
        omega
      exact congrArg AddressingMode.code (hpresent₁ hp).1
    . intro hk
      have hp : second.kind ≠ .absent := by
        intro habsent
        have hne := hk₂ habsent
        omega
      exact congrArg AddressingMode.code (hpresent₂ hp).1

/--
An instruction whose operands can be stored is fetched from its three words wherever they lie, and its
header does not halt. Whatever is fetched can be stored, has the header that was read up to the modes of
absent operands, and has the values that were read as those of the operands that are present.
-/
theorem fetch_encode (cpu : Cpu) (a : VirtualAddress)
    : (∀ i : Instruction, i.first.IsStored → i.second.IsStored
          → cpu.mmu.paging = false
          → cpu.mmu.memory.Carries a.identity (i.encode.flatMap Bits.bytes)
          → ∃ cpu', fetch a cpu = .ok (some i) cpu')
        ∧ (∀ i : Instruction, i.header.encode ≠ 0)
        ∧ ∀ i cpu', fetch a cpu = .ok (some i) cpu'
          → (i.first.IsStored ∧ i.second.IsStored)
            ∧ (∃ header, cpu.Fetches a header ∧ i.AgreesWith header)
            ∧ (i.first.kind ≠ .absent → cpu.Fetches (a.add 4) i.first.value)
            ∧ (i.second.kind ≠ .absent → cpu.Fetches (a.add 8) i.second.value) := by
  refine ⟨?_, ?_, ?_⟩
  . intro i hfirst hsecond hreal hcarries
    exact exists_fetch_of_carries hfirst hsecond hreal hcarries
  . intro i
    exact i.header.encode_ne_zero
  . intro i cpu' hfetch
    obtain ⟨header, log, hcode, hdecode, -⟩ := exists_of_fetch_ok hfetch
    obtain ⟨hagrees, hstored₁, hstored₂, hvalue₁, hvalue₂⟩ := words_of_instructionAt hdecode
    refine ⟨⟨hstored₁, hstored₂⟩, ⟨header, fetches_iff.mpr hcode, hagrees⟩, ?_, ?_⟩
    . intro hpresent
      exact fetches_iff.mpr (hvalue₁ hpresent)
    . intro hpresent
      exact fetches_iff.mpr (hvalue₂ hpresent)

/-- An instruction that lies round the end of memory. -/
def copying : Instruction :=
  ⟨.mov, ⟨.register, .indirect, Register.ebx.code⟩, ⟨.memory, .direct, 0x1234⟩⟩

def straddling : Cpu :=
  loaded { Settings.standard with capacity := ⟨0xFFFFFFFF⟩ } ⟨0xFFFFFFFA⟩ [copying]

/-- A header that gives modes to operands which it does not have. -/
def careless : Cpu :=
  Action.final (load ⟨.zero, [0x587E0180, 1, 2], .empty⟩ (initial .standard))

theorem fetch_encode_of_straddling
    : (∃ cpu', fetch ⟨0xFFFFFFFA⟩ straddling = .ok (some copying) cpu')
        ∧ ∃ cpu', fetch .zero careless = .ok (some ⟨.nop, .absent, .absent⟩) cpu'
          ∧ careless.Fetches .zero 0x587E0180
          ∧ Instruction.AgreesWith ⟨.nop, .absent, .absent⟩ 0x587E0180 := by
  constructor
  . have hcarries : straddling.mmu.memory.Carries ⟨0xFFFFFFFA⟩ (copying.encode.flatMap Bits.bytes) := by
      have hbytes : ∀ n : Fin 12, straddling.mmu.memory.holds (Address.add ⟨0xFFFFFFFA⟩ n)
          ∧ (copying.encode.flatMap Bits.bytes)[n]?
            = some (straddling.mmu.memory.byteAt (Address.add ⟨0xFFFFFFFA⟩ n)) := by
        decide +kernel
      intro n b hb
      have hn : n < 12 := (List.getElem?_eq_some_iff.mp hb).1
      obtain ⟨hholds, hbyte⟩ := hbytes ⟨n, hn⟩
      exact ⟨hholds, Option.some.inj (hbyte.symm.trans hb)⟩
    exact (fetch_encode straddling ⟨0xFFFFFFFA⟩).1 copying
      (.inr ⟨by decide, fun _ => rfl, fun _ => ⟨.ebx, by decide⟩⟩)
      (.inr ⟨by decide, nofun, nofun⟩) (by decide +kernel) hcarries
  . have hfetch : Action.outcome (fetch .zero careless) = .ok (some ⟨.nop, .absent, .absent⟩) := by
      decide +kernel
    have hcode : careless.code .zero = .ok 0x587E0180 := by decide +kernel
    replace hfetch := Action.eq_ok_of_outcome hfetch
    obtain ⟨-, ⟨header, hheader, hagrees⟩, -⟩ := (fetch_encode careless .zero).2.2 _ _ hfetch
    -- Only one word can be read there.
    have hsame : header = 0x587E0180 :=
      Except.ok.inj ((fetches_iff.mp hheader).symm.trans hcode)
    subst hsame
    exact ⟨_, hfetch, hheader, hagrees⟩

end Cpu

end Triword
