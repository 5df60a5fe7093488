import Triword.Proofs.Cpu.Arithmetic
import Triword.Proofs.Cpu.UserMode
import Triword.Proofs.Mmu.Write

/-!
What a computing instruction changes. Its target becomes the result of the operation on the values that the
operands had before; beside it nothing changes but the flags, the instruction pointer and the marks on page table
entries.
-/

namespace Triword

def Operation.Computes (o : Operation) : Prop :=
  o.binary?.isSome ∨ o.unary?.isSome ∨ o = .mov

instance (o : Operation) : Decidable o.Computes :=
  inferInstanceAs (Decidable (_ ∨ _))

/--
What an instruction makes of the flags and the values of its operands: its target, and the result for it, which is
the one that the operation has in arithmetic.
-/
inductive Instruction.Computes (i : Instruction) (flags : Eflags) (value : Operand → Except Trap Word)
    : (target : Operand) → Flagged Word → Prop where
  | move {w : Word} (hop : i.operation = .mov) (hw : value i.first = .ok w)
      : Computes i flags value i.second (w, flags)
  | unary {f : Eflags → Word → Flagged Word} {a : Word} (hop : i.operation.unary? = some f)
      (ha : value i.first = .ok a) (hgives : i.operation.GivesAlone flags a (f flags a))
      : Computes i flags value i.first (f flags a)
  | binary {f : Eflags → Word → Word → Except Trap (Flagged Word)} {a b : Word} {r : Flagged Word}
      (hop : i.operation.binary? = some f) (hb : value i.first = .ok b) (ha : value i.second = .ok a)
      (hr : f flags a b = .ok r) (hgives : i.operation.Gives flags a b r) : Computes i flags value i.second r

theorem Instruction.Computes.sameControl {i : Instruction} {flags : Eflags} {value : Operand → Except Trap Word}
    {target : Operand} {r : Flagged Word} (h : i.Computes flags value target r) : flags.SameControl r.2 := by
  cases h with
  | move hop hw => exact .refl flags
  | unary hop ha hgives => exact Operation.sameControl_of_unary? hop _ _
  | binary hop hb ha hr hgives => exact Operation.sameControl_of_binary? hop hr

namespace RegisterFile

theorem read_write (regs : RegisterFile) {r : Register} (h : r ≠ .eflags) (w : Word) : (regs.write r w).read r = w := by
  cases r with
  | eflags => exact absurd rfl h
  | _ => rfl

theorem write_eip (regs : RegisterFile) {r : Register} (h : r ≠ .eip) (w : Word) (next : VirtualAddress)
    : { regs.write r w with eip := next } = { regs with eip := next }.write r w := by
  cases r with
  | eip => exact absurd rfl h
  | _ => rfl

end RegisterFile

namespace Cpu

variable {cpu cpu' : Cpu} {s : Snapshot} {e : Effect} {i : Instruction} {place : Place} {r : Flagged Word}

/-! ### Effects -/

namespace Snapshot

theorem operandValue_of_locate {o : Operand} (h : locate s.regs o = .ok place)
    : s.operandValue o = s.placeValue place := by
  unfold operandValue
  cases hkind : o.kind with
  | absent =>
    unfold locate at h
    rw [hkind] at h
    cases h
  | immediate =>
    unfold locate at h
    rw [hkind] at h
    cases h
  | label =>
    unfold locate at h
    rw [hkind] at h
    cases h
  | register =>
    dsimp only
    rw [h]
    rfl
  | memory =>
    dsimp only
    rw [h]
    rfl

theorem exists_of_effect_computes (hi : i.operation.Computes) (h : s.effect i = .ok e)
    : ∃ target place r, i.Computes s.regs.eflags s.operandValue target r
        ∧ locate s.regs target = .ok place
        ∧ s.store place r.1 r.2 = .ok e := by
  rcases hi with hbinary | hunary | hmov
  . obtain ⟨f, hf⟩ := Option.isSome_iff_exists.mp hbinary
    rw [effect_of_binary? hf] at h
    obtain ⟨place, hplace, h⟩ := Outcome.bind_eq_ok_iff.mp h
    obtain ⟨b, hb, h⟩ := Outcome.bind_eq_ok_iff.mp h
    obtain ⟨a, ha, h⟩ := Outcome.bind_eq_ok_iff.mp h
    obtain ⟨r, hr, h⟩ := Outcome.bind_eq_ok_iff.mp h
    rw [← operandValue_of_locate hplace] at ha
    exact ⟨i.second, place, r, .binary hf hb ha hr (Operation.gives_of_binary? hf hr), hplace, h⟩
  . obtain ⟨f, hf⟩ := Option.isSome_iff_exists.mp hunary
    rw [effect_of_unary? hf] at h
    obtain ⟨place, hplace, h⟩ := Outcome.bind_eq_ok_iff.mp h
    obtain ⟨a, ha, h⟩ := Outcome.bind_eq_ok_iff.mp h
    rw [← operandValue_of_locate hplace] at ha
    exact ⟨i.first, place, _, .unary hf ha (Operation.givesAlone_of_unary? hf _ _), hplace, h⟩
  . unfold effect at h
    rw [hmov] at h
    obtain ⟨w, hw, h⟩ := Outcome.bind_eq_ok_iff.mp h
    obtain ⟨place, hplace, h⟩ := Outcome.bind_eq_ok_iff.mp h
    exact ⟨i.second, place, _, .move hmov hw, hplace, h⟩

theorem store_register_eq_ok {reg : Register} {w : Word} {flags : Eflags}
    (h : s.store (.register reg) w flags = .ok e)
    : e.writes = []
        ∧ e.regs = { s.regs with eflags := flags }.write reg w
        ∧ e.frames = s.frames
        ∧ e.jumped = (reg == .eip) := by
  unfold store at h
  dsimp only at h
  split at h
  . cases h
    exact ⟨rfl, rfl, rfl, rfl⟩
  . cases h

end Snapshot

theorem regs_retire_of_not_jumped (cpu : Cpu) (next : VirtualAddress) (h : e.jumped = false)
    : (cpu.retire e next).regs = { e.regs with eip := next } := by
  unfold retire
  rw [h]
  rfl

/-! ### Cycles -/

def Place.stored (regs : RegisterFile) (w : Word) : Place → RegisterFile
  | .register r => regs.write r w
  | .memory _ => regs

/-- No more has changed than by a result in its place, with the flags that come with it. -/
structure Stored (cpu cpu' : Cpu) (place : Place) (r : Flagged Word) : Prop where
  regs : cpu'.regs
    = place.stored { cpu.regs with eflags := r.2, eip := cpu.regs.eip.add Instruction.byteSize } r.1
  control : cpu.regs.eflags.SameControl r.2
  register : ∀ reg, place = .register reg → cpu'.regs.read reg = r.1 ∧ cpu'.mmu.memory = cpu.mmu.memory
  memory : ∀ a, place = .memory a → ∃ places, cpu.mmu.WordStored cpu'.mmu a r.1 (cpu.context .write) places
  frames : cpu'.frames = cpu.frames

theorem stored_of_writeAll {log : AccessLog} {cpu₁ : Cpu} (hplace : place ≠ .register .eip)
    (hflags : place ≠ .register .eflags) (hcontrol : cpu.regs.eflags.SameControl r.2)
    (hstore : cpu.snapshot.store place r.1 r.2 = .ok e) (hwrite : e.writeAll (cpu.withLog log) = .ok () cpu₁)
    : cpu.Stored (cpu₁.retire e (cpu.regs.eip.add Instruction.byteSize)) place r := by
  obtain ⟨mmu, hwrites, rfl⟩ := Effect.exists_of_writeAll_ok hwrite
  cases place with
  | memory a =>
    cases hstore
    have hword := Mmu.writeWord_of_writeAll_singleton hwrites
    obtain ⟨places, hstored⟩ := Mmu.wordStored_of_writeWord_ok rfl hword
    constructor
    case regs => rfl
    case control => exact hcontrol
    case register =>
      intro reg hreg
      cases hreg
    case memory =>
      intro a' ha
      cases ha
      exact ⟨places, hstored.resolve, hstored.byteAt_place, hstored.byteAt_other⟩
    case frames => rfl
  | register reg =>
    have heip : reg ≠ .eip := fun h => hplace (congrArg Place.register h)
    have heflags : reg ≠ .eflags := fun h => hflags (congrArg Place.register h)
    obtain ⟨hwrites', hregs, hframes, hjumped⟩ := Snapshot.store_register_eq_ok hstore
    rw [hwrites'] at hwrites
    cases hwrites
    have hretire := regs_retire_of_not_jumped (cpu.withLog log) (cpu.regs.eip.add Instruction.byteSize)
      (hjumped.trans (beq_false_of_ne heip))
    rw [hregs, RegisterFile.write_eip _ heip] at hretire
    constructor
    case regs => exact hretire
    case control => exact hcontrol
    case register =>
      intro reg' hreg
      cases hreg
      refine ⟨?_, rfl⟩
      rw [← RegisterFile.read_write { cpu.regs with eflags := r.2, eip := _ } heflags r.1]
      exact congrArg (RegisterFile.read · reg) hretire
    case memory =>
      intro a ha
      cases ha
    case frames => exact hframes

structure Compared (cpu cpu' : Cpu) (flags : Eflags) : Prop where
  regs : cpu'.regs = { cpu.regs with eflags := flags, eip := cpu.regs.eip.add Instruction.byteSize }
  control : cpu.regs.eflags.SameControl flags
  memory : cpu'.mmu.memory = cpu.mmu.memory
  frames : cpu'.frames = cpu.frames

theorem compared_of_writeAll {log : AccessLog} {cpu₁ : Cpu} (hi : i.operation = .cmp)
    (heffect : cpu.snapshot.effect i = .ok e) (hwrite : e.writeAll (cpu.withLog log) = .ok () cpu₁)
    : ∃ a b, cpu.snapshot.operandValue i.second = .ok a
        ∧ cpu.snapshot.operandValue i.first = .ok b
        ∧ cpu.Compared (cpu₁.retire e (cpu.regs.eip.add Instruction.byteSize)) (Alu.cmp cpu.regs.eflags a b) := by
  obtain ⟨mmu, hwrites, rfl⟩ := Effect.exists_of_writeAll_ok hwrite
  unfold Snapshot.effect at heffect
  rw [hi] at heffect
  obtain ⟨b, hb, heffect⟩ := Outcome.bind_eq_ok_iff.mp heffect
  obtain ⟨a, ha, heffect⟩ := Outcome.bind_eq_ok_iff.mp heffect
  cases heffect
  cases hwrites
  exact ⟨a, b, ha, hb, rfl, Alu.sameControl_addWithCarry .., rfl, rfl⟩

/--
A computing instruction stores the result of its operation on the values that its operands had, with the new header
in its register, and changes nothing else, if its target is neither the instruction pointer nor the flags. A
comparison changes the flags alone, as a subtraction does.
-/
theorem stored_of_cycle (hnext : cpu.nextInstruction? = some i) (hcycle : cycle cpu = .ok true cpu')
    : (i.operation.Computes →
          ∃ target place r, i.Computes cpu.regs.eflags (fun o => Action.outcome (readOperand o cpu.headed)) target r
            ∧ locate cpu.headed.regs target = .ok place
            ∧ (place ≠ .register .eip → place ≠ .register .eflags → cpu.headed.Stored cpu' place r))
        ∧ (i.operation = .cmp →
          ∃ a b difference, Action.outcome (readOperand i.second cpu.headed) = .ok a
            ∧ Action.outcome (readOperand i.first cpu.headed) = .ok b
            ∧ Operation.sub.Gives cpu.regs.eflags a b (difference, Alu.cmp cpu.regs.eflags a b)
            ∧ cpu.headed.Compared cpu' (Alu.cmp cpu.regs.eflags a b)) := by
  obtain ⟨e, log, cpu₁, heffect, hwrite, rfl⟩ := exists_effect_of_cycle_ok hnext hcycle
  have hvalue (o : Operand) : Action.outcome (readOperand o cpu.headed) = cpu.headed.snapshot.operandValue o :=
    (reads_readOperand cpu.headed o).outcome
  constructor
  . intro hi
    obtain ⟨target, place, r, hcomputes, hplace, hstore⟩ := Snapshot.exists_of_effect_computes hi heffect
    rw [funext hvalue]
    refine ⟨target, place, r, hcomputes, hplace, ?_⟩
    intro heip heflags
    exact stored_of_writeAll heip heflags hcomputes.sameControl hstore hwrite
  . intro hi
    obtain ⟨a, b, ha, hb, hcompared⟩ := compared_of_writeAll hi heffect hwrite
    rw [hvalue, hvalue]
    exact ⟨a, b, _, ha, hb, Operation.gives_sub cpu.regs.eflags a b, hcompared⟩

def summing : Cpu :=
  let cpu := loaded .standard .zero
    [⟨.add, ⟨.register, .direct, Register.ecx.code⟩, ⟨.register, .indirect, Register.ecx.code⟩⟩,
      ⟨.cmp, ⟨.immediate, .direct, 0x100⟩, ⟨.register, .indirect, Register.ecx.code⟩⟩]
  { cpu with regs := { cpu.regs with ecx := 0x100 } }

/-- The sum is stored where the pointer shows to, and then compares as equal to it. -/
theorem stored_of_summing
    : (∃ cpu' r, cycle summing = .ok true cpu'
          ∧ r.1 = 0x100
          ∧ summing.headed.Stored cpu' (.memory ⟨0x100⟩) r)
        ∧ (∃ cpu' flags, cycle (summing.afterCycles 1) = .ok true cpu'
          ∧ flags.zero
          ∧ (summing.afterCycles 1).headed.Compared cpu' flags) := by
  obtain ⟨⟨hadd, hsum, hfirst, hsecond, hplace⟩, hcmp, hcompared, hfirst', hsecond'⟩
      : (summing.nextInstruction?
            = some ⟨.add, ⟨.register, .direct, Register.ecx.code⟩, ⟨.register, .indirect, Register.ecx.code⟩⟩
          ∧ Action.outcome (cycle summing) = .ok true
          ∧ Action.outcome (readOperand ⟨.register, .direct, Register.ecx.code⟩ summing.headed) = .ok 0x100
          ∧ Action.outcome (readOperand ⟨.register, .indirect, Register.ecx.code⟩ summing.headed) = .ok 0
          ∧ locate summing.headed.regs ⟨.register, .indirect, Register.ecx.code⟩ = .ok (.memory ⟨0x100⟩))
        ∧ (summing.afterCycles 1).nextInstruction?
            = some ⟨.cmp, ⟨.immediate, .direct, 0x100⟩, ⟨.register, .indirect, Register.ecx.code⟩⟩
          ∧ Action.outcome (cycle (summing.afterCycles 1)) = .ok true
          ∧ Action.outcome (readOperand ⟨.immediate, .direct, 0x100⟩ (summing.afterCycles 1).headed) = .ok 0x100
          ∧ Action.outcome (readOperand ⟨.register, .indirect, Register.ecx.code⟩ (summing.afterCycles 1).headed)
            = .ok 0x100 := by
    decide +kernel
  constructor
  . have hcycle := Action.eq_ok_of_outcome hsum
    obtain ⟨target, place, r, hcomputes, hlocate, hstored⟩ := (stored_of_cycle hadd hcycle).1 (by decide)
    cases hcomputes with
    | move hop => cases hop
    | unary hop => cases hop
    | binary hop hb ha hr hgives =>
      rw [hfirst] at hb
      rw [hsecond] at ha
      cases hb
      cases ha
      cases hop
      cases hr
      rw [hplace] at hlocate
      cases hlocate
      exact ⟨_, _, hcycle, by decide +kernel, hstored (by decide) (by decide)⟩
  . have hcycle := Action.eq_ok_of_outcome hcompared
    obtain ⟨a, b, difference, ha, hb, hgives, hstored⟩ := (stored_of_cycle hcmp hcycle).2 rfl
    rw [hsecond'] at ha
    rw [hfirst'] at hb
    cases ha
    cases hb
    exact ⟨_, _, hcycle, by decide +kernel, hstored⟩

end Cpu

end Triword
