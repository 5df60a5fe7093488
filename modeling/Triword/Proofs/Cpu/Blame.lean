import Triword.Proofs.Cpu.Execute

/-!
What can be blamed on an instruction. Some traps say that an instruction makes no sense, whatever machine
executes it. An instruction whose operands are of the kinds that its operation needs never ends in one of
them: it can still be denied, miss a page or memory, or divide by zero.
-/

namespace Triword

/-- The trap says that the instruction makes no sense. -/
def Trap.blamesInstruction : Trap → Bool
  | unrecognizedInstruction | unrecognizedOperandType | unrecognizedAddressingMode | unrecognizedRegister
  | missingOperand | unsupportedOperandType => true
  | widthMismatch _ | divisionByZero | privilegeViolation | registerNotWritable | pageFault _
  | beyondMemory _ => false

variable {α β : Type}

/-- If this fails, then not for a reason that lies in the instruction. -/
def Blameless (x : Except Trap α) : Prop :=
  ∀ t, x = .error t → t.blamesInstruction = false

namespace Blameless

theorem ok (a : α) : Blameless (.ok a) := by
  intro t h
  cases h

theorem error {t : Trap} (h : t.blamesInstruction = false) : Blameless (.error t : Except Trap α) := by
  intro t' ht
  cases ht
  exact h

theorem bind {x : Except Trap α} {f : α → Except Trap β} (hx : Blameless x)
    (hf : ∀ a, x = .ok a → Blameless (f a)) : Blameless (x >>= f) := by
  cases x with
  | error t => exact error (hx t rfl)
  | ok a => exact hf a rfl

theorem mapM {f : α → Except Trap β} (h : ∀ a, Blameless (f a)) (l : List α) : Blameless (l.mapM f) := by
  induction l with
  | nil => exact ok []
  | cons a l ih =>
    rw [List.mapM_cons]
    exact (h a).bind fun _ _ => ih.bind fun _ _ => ok _

theorem ofMemoryRead (x : Except BeyondMemory α) : Blameless (Mmu.ofMemoryRead x) := by
  cases x with
  | ok a => exact ok a
  | error e => exact error rfl

end Blameless

/-! ### Memory -/

namespace Mmu

variable (mmu : Mmu) (a : VirtualAddress) (ctx : AccessContext)

theorem blameless_walk (table : PhysicalAddress) (stage : Stage)
    : Blameless (mmu.walk table a ctx stage) := by
  have hentry : Blameless (mmu.entry (entryAddress table a)) := by
    unfold entry
    exact (Blameless.ofMemoryRead _).bind fun w _ => Blameless.ok (PageTableEntry.mk w)
  apply hentry.bind
  intro e _
  dsimp only
  split
  . exact Blameless.error rfl
  . split
    . exact Blameless.error rfl
    . exact Blameless.ok _

theorem blameless_resolve : Blameless (mmu.resolve a ctx) := by
  unfold resolve
  split
  . exact Blameless.ok _
  . split
    . exact blameless_walk mmu a ctx _ _
    . apply (blameless_walk mmu a ctx _ _).bind
      intro middle _
      apply (blameless_walk mmu _ ctx _ _).bind
      intro place _
      exact Blameless.ok _

theorem blameless_resolveWord : Blameless (mmu.resolveWord a ctx) := by
  unfold resolveWord
  split
  . apply (blameless_resolve mmu a ctx).bind
    intro found _
    exact Blameless.ok _
  . apply (Blameless.mapM (fun b => blameless_resolve mmu b ctx) _).bind
    intro found _
    exact Blameless.ok _

theorem blameless_peek : Blameless (mmu.peek a ctx) := by
  apply (blameless_resolveWord mmu a ctx).bind
  intro found _
  apply (Blameless.ofMemoryRead _).bind
  intro bytes _
  exact Blameless.ok _

theorem blameless_targets : Blameless (mmu.targets a ctx) := by
  apply (blameless_resolveWord mmu a ctx).bind
  intro found _
  apply (Blameless.ofMemoryRead _).bind
  intro _ _
  exact Blameless.ok _

variable {mmu a ctx} {mmu' : Mmu} {t : Trap}

theorem blameless_writeWord {w : Word} (h : writeWord a w ctx mmu = .error t mmu')
    : t.blamesInstruction = false := by
  exact blameless_targets mmu a ctx t (writeWord_eq_error_iff.mp h).1

theorem blameless_writeAll {words : List (VirtualAddress × Word)} (h : writeAll words ctx mmu = .error t mmu')
    : t.blamesInstruction = false := by
  induction words generalizing mmu with
  | nil => cases h
  | cons x words ih =>
    rw [writeAll_cons] at h
    cases Action.bind_eq_error_iff.mp h with
    | inl hword => exact blameless_writeWord hword
    | inr hwords =>
      obtain ⟨u, mmu₁, -, hwords⟩ := hwords
      exact ih hwords

end Mmu

/-! ### Operands -/

inductive OperandUse where
  | unused
  | read
  | written
  deriving DecidableEq

namespace OperandUse

def accepts : OperandUse → OperandKind → Bool
  | unused, _ => true
  | read, kind => kind != .absent
  | written, kind => kind.isWritable

end OperandUse

def Operation.uses : Operation → OperandUse × OperandUse
  | add | adc | sub | sbb | mul | div | and | or | xor | shl | shr | sar | mov => (.read, .written)
  | cmp => (.read, .read)
  | not | neg | inc | dec | pop => (.written, .unused)
  | push | int | sysenter | jmp | jz | jnz | jg | jge | jl | jle | call => (.read, .unused)
  | pushf | popf | cli | sti | nop | iret | sysexit | ret => (.unused, .unused)

/-- An operand of a kind that can be used so; a register operand names a register. -/
structure Operand.Serves (o : Operand) (use : OperandUse) : Prop where
  accepts : use.accepts o.kind
  register : o.kind = .register → ∃ r, Register.ofCode? o.value = some r

/-- The operands of the instruction are of the kinds that its operation needs. -/
structure Instruction.IsProper (i : Instruction) : Prop where
  first : i.first.Serves i.operation.uses.1
  second : i.second.Serves i.operation.uses.2

namespace Cpu

theorem blameless_locate {o : Operand} (regs : RegisterFile) (h : o.Serves .written)
    : Blameless (locate regs o) := by
  obtain ⟨kind, mode, value⟩ := o
  obtain ⟨haccepts, hregister⟩ := h
  cases kind with
  | absent => cases haccepts
  | immediate => cases haccepts
  | label => cases haccepts
  | memory => exact Blameless.ok _
  | register =>
    obtain ⟨r, hr⟩ := hregister rfl
    have hnamed : Operand.register? ⟨.register, mode, value⟩ = some r := hr
    unfold locate
    dsimp only
    rw [hnamed]
    exact Blameless.ok _

namespace Snapshot

variable {s : Snapshot} (hword : ∀ a, Blameless (s.word a))

include hword

theorem blameless_placeValue (p : Place) : Blameless (s.placeValue p) := by
  cases p with
  | register r => exact Blameless.ok _
  | memory a => exact hword a

theorem blameless_operandValue {o : Operand} (h : o.Serves .read) : Blameless (s.operandValue o) := by
  have haccepts : (o.kind != .absent) = true := h.accepts
  have hplace : o.kind.isWritable → Blameless (locate s.regs o >>= s.placeValue) := by
    intro hwritable
    apply (blameless_locate s.regs ⟨hwritable, h.register⟩).bind
    intro p _
    exact blameless_placeValue hword p
  unfold operandValue
  cases hkind : o.kind with
  | absent =>
    rw [hkind] at haccepts
    cases haccepts
  | immediate => exact Blameless.ok _
  | label => exact Blameless.ok _
  | register => exact hplace (by rw [hkind]; rfl)
  | memory => exact hplace (by rw [hkind]; rfl)

omit hword in
theorem blameless_store (p : Place) (w : Word) (flags : Eflags) : Blameless (s.store p w flags) := by
  cases p with
  | memory a => exact Blameless.ok _
  | register r =>
    unfold store
    dsimp only
    split
    . exact Blameless.ok _
    . exact Blameless.error rfl

theorem blameless_binary {i : Instruction} {f : Eflags → Word → Word → Except Trap (Flagged Word)}
    (hfirst : i.first.Serves .read) (hsecond : i.second.Serves .written)
    (hf : ∀ flags a b, Blameless (f flags a b)) : Blameless (s.binary i f) := by
  apply (blameless_locate s.regs hsecond).bind
  intro place _
  apply (blameless_operandValue hword hfirst).bind
  intro source _
  apply (blameless_placeValue hword place).bind
  intro target _
  apply (hf _ _ _).bind
  intro result _
  exact blameless_store place _ _

theorem blameless_unary {i : Instruction} (f : Eflags → Word → Flagged Word)
    (hfirst : i.first.Serves .written) : Blameless (s.unary i f) := by
  apply (blameless_locate s.regs hfirst).bind
  intro place _
  apply (blameless_placeValue hword place).bind
  intro target _
  exact blameless_store place _ _

theorem blameless_popOperand {i : Instruction} (hfirst : i.first.Serves .written)
    : Blameless (s.popOperand i) := by
  apply (hword s.regs.esp).bind
  intro w _
  apply (blameless_locate s.regs hfirst).bind
  intro place _
  apply (blameless_store place w _).bind
  intro e _
  exact Blameless.ok _

theorem blameless_jumpIf {i : Instruction} (condition : Eflags → Bool) (hfirst : i.first.Serves .read)
    : Blameless (s.jumpIf i condition) := by
  apply (blameless_operandValue hword hfirst).bind
  intro target _
  exact Blameless.ok _

omit hword in
theorem blameless_requireKernel : Blameless s.requireKernel := by
  unfold requireKernel
  split
  . exact Blameless.ok _
  . exact Blameless.error rfl

theorem blameless_leaveKernel : Blameless s.leaveKernel := by
  apply (hword s.regs.esp).bind
  intro back _
  apply (hword _).bind
  intro saved _
  exact Blameless.ok _

omit hword in
theorem blameless_total (f : Eflags → Word → Word → Flagged Word) (flags : Eflags) (a b : Word)
    : Blameless (total f flags a b) :=
  Blameless.ok _

omit hword in
theorem blameless_quotient (flags : Eflags) (a b : Word) : Blameless (quotient flags a b) := by
  unfold quotient
  split
  . exact Blameless.ok _
  . exact Blameless.error rfl

theorem blameless_effect {i : Instruction} (h : i.IsProper) : Blameless (s.effect i) := by
  obtain ⟨op, first, second⟩ := i
  obtain ⟨hfirst, hsecond⟩ := h
  unfold effect
  cases op with
  | add => exact blameless_binary hword hfirst hsecond (blameless_total _)
  | adc => exact blameless_binary hword hfirst hsecond (blameless_total _)
  | sub => exact blameless_binary hword hfirst hsecond (blameless_total _)
  | sbb => exact blameless_binary hword hfirst hsecond (blameless_total _)
  | mul => exact blameless_binary hword hfirst hsecond (blameless_total _)
  | div => exact blameless_binary hword hfirst hsecond blameless_quotient
  | and => exact blameless_binary hword hfirst hsecond (blameless_total _)
  | or => exact blameless_binary hword hfirst hsecond (blameless_total _)
  | xor => exact blameless_binary hword hfirst hsecond (blameless_total _)
  | shl => exact blameless_binary hword hfirst hsecond (blameless_total _)
  | shr => exact blameless_binary hword hfirst hsecond (blameless_total _)
  | sar => exact blameless_binary hword hfirst hsecond (blameless_total _)
  | not => exact blameless_unary hword _ hfirst
  | neg => exact blameless_unary hword _ hfirst
  | inc => exact blameless_unary hword _ hfirst
  | dec => exact blameless_unary hword _ hfirst
  | cmp =>
    apply (blameless_operandValue hword hfirst).bind
    intro source _
    apply (blameless_operandValue hword hsecond).bind
    intro target _
    exact Blameless.ok _
  | mov =>
    apply (blameless_operandValue hword hfirst).bind
    intro w _
    apply (blameless_locate s.regs hsecond).bind
    intro place _
    exact blameless_store place w _
  | push =>
    apply (blameless_operandValue hword hfirst).bind
    intro w _
    exact Blameless.ok _
  | pop => exact blameless_popOperand hword hfirst
  | pushf => exact blameless_requireKernel.bind fun _ _ => Blameless.ok _
  | popf =>
    apply blameless_requireKernel.bind
    intro _ _
    apply (hword _).bind
    intro w _
    exact Blameless.ok _
  | cli => exact blameless_requireKernel.bind fun _ _ => Blameless.ok _
  | sti => exact blameless_requireKernel.bind fun _ _ => Blameless.ok _
  | nop => exact Blameless.ok _
  | int =>
    apply (blameless_operandValue hword hfirst).bind
    intro vector _
    exact Blameless.ok _
  | iret => exact blameless_requireKernel.bind fun _ _ => blameless_leaveKernel hword
  | sysexit => exact blameless_requireKernel.bind fun _ _ => blameless_leaveKernel hword
  | sysenter =>
    apply (blameless_operandValue hword hfirst).bind
    intro handler _
    exact Blameless.ok _
  | jmp => exact blameless_jumpIf hword _ hfirst
  | jz => exact blameless_jumpIf hword _ hfirst
  | jnz => exact blameless_jumpIf hword _ hfirst
  | jg => exact blameless_jumpIf hword _ hfirst
  | jge => exact blameless_jumpIf hword _ hfirst
  | jl => exact blameless_jumpIf hword _ hfirst
  | jle => exact blameless_jumpIf hword _ hfirst
  | call =>
    apply (blameless_operandValue hword hfirst).bind
    intro target _
    exact Blameless.ok _
  | ret =>
    apply (hword _).bind
    intro target _
    exact Blameless.ok _

end Snapshot

theorem blameless_execute {i : Instruction} (h : i.IsProper) {cpu cpu' : Cpu} {t : Trap}
    (hexecute : execute i cpu = .error t cpu') : t.blamesInstruction = false := by
  obtain ⟨log, -, hsettles⟩ := settles_execute cpu i cpu.mmu.log
  have heffect : Blameless (cpu.snapshot.effect i) :=
    Snapshot.blameless_effect (fun a => Mmu.blameless_peek cpu.mmu a _) h
  replace hsettles : execute i cpu
      = (ofExcept (cpu.snapshot.effect i) >>= Effect.commit : Action Bool) (cpu.withLog log) := hsettles
  rw [hexecute] at hsettles
  cases hi : cpu.snapshot.effect i with
  | error t' =>
    rw [hi] at hsettles
    cases hsettles
    exact heffect t hi
  | ok e =>
    rw [hi] at hsettles
    obtain ⟨mmu, hwrite, -⟩ := Effect.exists_of_writeAll_error (Effect.writeAll_of_commit_error hsettles.symm)
    exact Mmu.blameless_writeAll hwrite

end Cpu

end Triword
