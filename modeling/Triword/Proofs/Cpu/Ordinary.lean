import Triword.Proofs.Cpu.Arithmetic

/-!
What every effect has in common. An instruction either enters the kernel, or it is an ordinary one,
which writes at most one word, writes it in the present mode and, unless that is kernel mode, touches
nothing that the kernel keeps for itself.
-/

namespace Triword

def Instruction.EntersKernel (i : Instruction) : Prop :=
  i.operation = .int ∨ i.operation = .sysenter

instance (i : Instruction) : Decidable i.EntersKernel :=
  inferInstanceAs (Decidable (_ ∨ _))

/-- The second registers have all that the first ones keep from user mode, but for the header. -/
structure RegisterFile.SameControl (regs regs' : RegisterFile) : Prop where
  eflags : regs.eflags.SameControl regs'.eflags
  nptp : regs'.nptp = regs.nptp
  gptp : regs'.gptp = regs.gptp
  vmptr : regs'.vmptr = regs.vmptr

namespace RegisterFile.SameControl

theorem refl (regs : RegisterFile) : regs.SameControl regs :=
  ⟨.refl regs.eflags, rfl, rfl, rfl⟩

theorem trans {regs₁ regs₂ regs₃ : RegisterFile} (h₁ : regs₁.SameControl regs₂)
    (h₂ : regs₂.SameControl regs₃) : regs₁.SameControl regs₃ where
  eflags := h₁.eflags.trans h₂.eflags
  nptp := h₂.nptp.trans h₁.nptp
  gptp := h₂.gptp.trans h₁.gptp
  vmptr := h₂.vmptr.trans h₁.vmptr

end RegisterFile.SameControl

namespace Cpu

namespace Snapshot

variable {s : Snapshot} {i : Instruction} {e : Effect}

/-- An effect that stays within the present mode. -/
structure Ordinary (s : Snapshot) (e : Effect) : Prop where
  length_writes : e.writes.length ≤ 1
  privilege : e.privilege = s.regs.eflags.privilege
  control : s.regs.eflags.isKernel = false → s.regs.SameControl e.regs
  header : s.regs.eflags.isKernel = false → e.regs.eir = s.regs.eir

/-! ### Effects of one form -/

theorem ordinary_become {regs : RegisterFile}
    (h : s.regs.eflags.isKernel = false → s.regs.SameControl regs ∧ regs.eir = s.regs.eir)
    : s.Ordinary (s.become regs) where
  length_writes := Nat.zero_le 1
  privilege := rfl
  control huser := (h huser).1
  header huser := (h huser).2

theorem Ordinary.congr {e e' : Effect} (he : s.Ordinary e) (hwrites : e'.writes = e.writes)
    (hprivilege : e'.privilege = e.privilege) (hregs : e'.regs = e.regs) : s.Ordinary e' where
  length_writes := by
    rw [hwrites]
    exact he.length_writes
  privilege := hprivilege.trans he.privilege
  control huser := by
    rw [hregs]
    exact he.control huser
  header huser := by
    rw [hregs]
    exact he.header huser

/-- What user mode may write is no register of the kernel, and the flags only if they keep their control. -/
theorem sameControl_write {regs : RegisterFile} {r : Register} {w : Word} {flags : Eflags}
    (huser : regs.eflags.isKernel = false) (hflags : regs.eflags.SameControl flags)
    (h : mayWrite regs.eflags r w)
    : regs.SameControl ({ regs with eflags := flags }.write r w)
        ∧ ({ regs with eflags := flags }.write r w).eir = regs.eir := by
  unfold mayWrite at h
  rw [huser, Bool.false_or, Bool.and_eq_true, Bool.not_eq_true'] at h
  obtain ⟨hopen, hkeeps⟩ := h
  cases r with
  -- User mode may not name these four at all.
  | eir => cases hopen
  | gptp => cases hopen
  | nptp => cases hopen
  | vmptr => cases hopen
  -- The new flags are those of the word, whatever the operation has made of the old ones.
  | eflags => exact ⟨⟨.of_keepsControl hkeeps, rfl, rfl, rfl⟩, rfl⟩
  | _ => exact ⟨⟨hflags, rfl, rfl, rfl⟩, rfl⟩

theorem ordinary_store {p : Place} {w : Word} {flags : Eflags}
    (hflags : s.regs.eflags.SameControl flags) (h : s.store p w flags = .ok e) : s.Ordinary e := by
  cases p with
  | memory a =>
    cases h
    exact ⟨Nat.le_refl 1, rfl, fun _ => ⟨hflags, rfl, rfl, rfl⟩, fun _ => rfl⟩
  | register r =>
    unfold store at h
    dsimp only at h
    split at h
    . next hwrite =>
      cases h
      refine Ordinary.congr (ordinary_become ?_) rfl rfl rfl
      intro huser
      exact sameControl_write huser hflags hwrite
    . cases h

theorem ordinary_binary {f : Eflags → Word → Word → Except Trap (Flagged Word)}
    (hf : ∀ (flags : Eflags) a b r, f flags a b = .ok r → flags.SameControl r.2) (h : s.binary i f = .ok e)
    : s.Ordinary e := by
  unfold binary at h
  obtain ⟨place, -, h⟩ := Outcome.bind_eq_ok_iff.mp h
  obtain ⟨source, -, h⟩ := Outcome.bind_eq_ok_iff.mp h
  obtain ⟨target, -, h⟩ := Outcome.bind_eq_ok_iff.mp h
  obtain ⟨r, hr, h⟩ := Outcome.bind_eq_ok_iff.mp h
  exact ordinary_store (hf _ _ _ _ hr) h

theorem ordinary_unary {f : Eflags → Word → Flagged Word}
    (hf : ∀ (flags : Eflags) a, flags.SameControl (f flags a).2) (h : s.unary i f = .ok e) : s.Ordinary e := by
  unfold unary at h
  obtain ⟨place, -, h⟩ := Outcome.bind_eq_ok_iff.mp h
  obtain ⟨target, -, h⟩ := Outcome.bind_eq_ok_iff.mp h
  exact ordinary_store (hf _ _) h

theorem ordinary_pushed (s : Snapshot) (w : Word) : s.Ordinary (s.pushed w) :=
  ⟨Nat.le_refl 1, rfl, fun _ => ⟨.refl _, rfl, rfl, rfl⟩, fun _ => rfl⟩

theorem ordinary_popOperand (h : s.popOperand i = .ok e) : s.Ordinary e := by
  unfold popOperand at h
  obtain ⟨w, -, h⟩ := Outcome.bind_eq_ok_iff.mp h
  obtain ⟨place, -, h⟩ := Outcome.bind_eq_ok_iff.mp h
  obtain ⟨e', hstore, h⟩ := Outcome.bind_eq_ok_iff.mp h
  have he' := ordinary_store (.refl _) hstore
  cases h
  split
  . refine ⟨he'.length_writes, he'.privilege, ?_, he'.header⟩
    intro huser
    have hcontrol := he'.control huser
    exact ⟨hcontrol.eflags, hcontrol.nptp, hcontrol.gptp, hcontrol.vmptr⟩
  . exact he'

theorem ordinary_jumpIf {condition : Eflags → Bool} (h : s.jumpIf i condition = .ok e) : s.Ordinary e := by
  unfold jumpIf at h
  obtain ⟨target, -, h⟩ := Outcome.bind_eq_ok_iff.mp h
  cases h
  refine Ordinary.congr (ordinary_become ?_) rfl rfl rfl
  intro _
  split
  . exact ⟨⟨.refl _, rfl, rfl, rfl⟩, rfl⟩
  . exact ⟨.refl _, rfl⟩

theorem ordinary_call (h : s.call i = .ok e) : s.Ordinary e := by
  unfold call at h
  obtain ⟨target, -, h⟩ := Outcome.bind_eq_ok_iff.mp h
  cases h
  exact ⟨Nat.le_refl 1, rfl, fun _ => ⟨.refl _, rfl, rfl, rfl⟩, fun _ => rfl⟩

theorem ordinary_ret (h : s.ret = .ok e) : s.Ordinary e := by
  unfold ret at h
  obtain ⟨target, -, h⟩ := Outcome.bind_eq_ok_iff.mp h
  cases h
  refine Ordinary.congr (ordinary_become ?_) rfl rfl rfl
  intro _
  exact ⟨⟨.refl _, rfl, rfl, rfl⟩, rfl⟩

theorem ordinary_of_requireKernel {p : Except Trap Effect}
    (hp : ∀ e, p = .ok e → e.writes.length ≤ 1 ∧ e.privilege = s.regs.eflags.privilege)
    (h : (s.requireKernel >>= fun _ => p) = .ok e) : s.Ordinary e := by
  obtain ⟨u, hrequire, h⟩ := Outcome.bind_eq_ok_iff.mp h
  unfold requireKernel at hrequire
  split at hrequire
  . next hkernel =>
    obtain ⟨hwrites, hprivilege⟩ := hp e h
    refine ⟨hwrites, hprivilege, ?_, ?_⟩
    . intro huser
      rw [hkernel] at huser
      cases huser
    . intro huser
      rw [hkernel] at huser
      cases huser
  . cases hrequire

theorem ordinary_leaveKernel (h : (s.requireKernel >>= fun _ => s.leaveKernel) = .ok e)
    : s.Ordinary e := by
  refine ordinary_of_requireKernel ?_ h
  intro e he
  unfold leaveKernel at he
  obtain ⟨back, -, he⟩ := Outcome.bind_eq_ok_iff.mp he
  obtain ⟨saved, -, he⟩ := Outcome.bind_eq_ok_iff.mp he
  cases he
  exact ⟨Nat.zero_le 1, rfl⟩

/-! ### Instructions -/

theorem effect_cases
    : s.effect i = .ok e
        →
      s.Ordinary e
        ∨ i.EntersKernel ∧ ∃ handler back kind vector, e = s.enterKernel handler back kind vector := by
  unfold effect
  cases hop : i.operation with
  -- The two that enter the kernel come first; all the others are ordinary.
  | int =>
    intro h
    obtain ⟨vector, -, h⟩ := Outcome.bind_eq_ok_iff.mp h
    cases h
    exact .inr ⟨.inl hop, _, _, _, _, rfl⟩
  | sysenter =>
    intro h
    obtain ⟨handler, -, h⟩ := Outcome.bind_eq_ok_iff.mp h
    cases h
    exact .inr ⟨.inr hop, _, _, _, _, rfl⟩
  | add | adc | sub | sbb | mul | div | and | or | xor | shl | shr | sar =>
    intro h
    refine .inl (ordinary_binary ?_ h)
    intro flags a b r hr
    exact Operation.sameControl_of_binary? (congrArg Operation.binary? hop) hr
  | not | neg | inc | dec =>
    intro h
    refine .inl (ordinary_unary ?_ h)
    intro flags a
    exact Operation.sameControl_of_unary? (congrArg Operation.unary? hop) flags a
  | cmp =>
    intro h
    obtain ⟨source, -, h⟩ := Outcome.bind_eq_ok_iff.mp h
    obtain ⟨target, -, h⟩ := Outcome.bind_eq_ok_iff.mp h
    cases h
    refine .inl (ordinary_become ?_)
    intro _
    exact ⟨⟨Alu.sameControl_addWithCarry .., rfl, rfl, rfl⟩, rfl⟩
  | mov =>
    intro h
    obtain ⟨w, -, h⟩ := Outcome.bind_eq_ok_iff.mp h
    obtain ⟨place, -, h⟩ := Outcome.bind_eq_ok_iff.mp h
    exact .inl (ordinary_store (.refl _) h)
  | push =>
    intro h
    obtain ⟨w, -, h⟩ := Outcome.bind_eq_ok_iff.mp h
    cases h
    exact .inl (ordinary_pushed s w)
  | pop => exact fun h => .inl (ordinary_popOperand h)
  | pushf =>
    intro h
    refine .inl (ordinary_of_requireKernel ?_ h)
    intro e he
    cases he
    exact ⟨Nat.le_refl 1, rfl⟩
  | popf =>
    intro h
    refine .inl (ordinary_of_requireKernel ?_ h)
    intro e he
    obtain ⟨w, -, he⟩ := Outcome.bind_eq_ok_iff.mp he
    cases he
    exact ⟨Nat.zero_le 1, rfl⟩
  | cli =>
    intro h
    refine .inl (ordinary_of_requireKernel ?_ h)
    intro e he
    cases he
    exact ⟨Nat.zero_le 1, rfl⟩
  | sti =>
    intro h
    refine .inl (ordinary_of_requireKernel ?_ h)
    intro e he
    cases he
    exact ⟨Nat.zero_le 1, rfl⟩
  | nop =>
    intro h
    cases h
    refine .inl (ordinary_become ?_)
    intro _
    exact ⟨.refl _, rfl⟩
  | iret => exact fun h => .inl (ordinary_leaveKernel h)
  | sysexit => exact fun h => .inl (ordinary_leaveKernel h)
  | jmp => exact fun h => .inl (ordinary_jumpIf h)
  | jz => exact fun h => .inl (ordinary_jumpIf h)
  | jnz => exact fun h => .inl (ordinary_jumpIf h)
  | jg => exact fun h => .inl (ordinary_jumpIf h)
  | jge => exact fun h => .inl (ordinary_jumpIf h)
  | jl => exact fun h => .inl (ordinary_jumpIf h)
  | jle => exact fun h => .inl (ordinary_jumpIf h)
  | call => exact fun h => .inl (ordinary_call h)
  | ret => exact fun h => .inl (ordinary_ret h)

/-- An instruction that enters the kernel reads its operand and nothing else, and is to be returned behind. -/
theorem effect_of_entersKernel (hi : i.EntersKernel) (s : Snapshot)
    : ∃ (handler : Word → VirtualAddress) (kind : FrameKind) (vector : Word → Option Word), s.effect i
        =
      s.operandValue i.first >>= fun w =>
        .ok (s.enterKernel (handler w) (s.regs.eip.add Instruction.byteSize) kind (vector w)) := by
  unfold effect
  cases hi with
  | inl hint =>
    rw [hint]
    exact ⟨fun w => s.regs.itp.offset w, .interrupt, some, rfl⟩
  | inr hsysenter =>
    rw [hsysenter]
    exact ⟨Address.mk, .systemCall, fun _ => none, rfl⟩

end Snapshot

end Cpu

end Triword
