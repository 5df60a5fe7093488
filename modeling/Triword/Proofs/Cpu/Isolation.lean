import Triword.Proofs.Control
import Triword.Proofs.Cpu.Commit
import Triword.Proofs.Cpu.Cycle
import Triword.Proofs.Mmu.Agreement

/-!
The kernel's pages are hidden from user mode. All that a cycle shows of itself is computed from the
registers, the words that it fetches and reads, and whether its words can be written; in user mode none
of these depends on more of memory than the entries of the tables and the pages that they open to it.
-/

namespace Triword

namespace Cpu

variable {cpu cpu' : Cpu}

/-! ### What a cycle shows -/

/-- What is seen of a cycle: its value or its error, and all of the machine but memory. -/
structure Observation where
  outcome : Except Trap Bool
  regs : RegisterFile
  frames : FrameStack
  executed : BitVec 64

def observe (r : EStateM.Result Trap Cpu Bool) : Observation :=
  let cpu := Action.final r
  ⟨Action.outcome r, cpu.regs, cpu.frames, cpu.executed⟩

def observation (cpu : Cpu) : Observation :=
  match cpu.code cpu.regs.eip with
  | .error t => ⟨.error t, cpu.regs, cpu.frames, cpu.executed⟩
  | .ok header =>
    let regs := { cpu.regs with eir := header }
    match cpu.instructionAt cpu.regs.eip header with
    | .error t => ⟨.error t, regs, cpu.frames, cpu.executed⟩
    | .ok none => ⟨.ok false, regs, cpu.frames, cpu.executed⟩
    | .ok (some i) =>
      match (cpu.withHeader header).snapshot.effect i with
      | .error t => ⟨.error t, regs, cpu.frames, cpu.executed⟩
      | .ok e =>
        match Action.outcome (Mmu.writeAll e.writes (e.context cpu) cpu.mmu) with
        | .error t => ⟨.error t, regs, cpu.frames, cpu.executed⟩
        | .ok () =>
          let next := cpu.regs.eip.add Instruction.byteSize
          ⟨.ok true, if e.jumped then e.regs else { e.regs with eip := next }, e.frames,
            cpu.executed + 1⟩

theorem outcome_writeAll_withHeader (cpu : Cpu) (header : Word) (log : AccessLog) (e : Effect)
    : Action.outcome (Mmu.writeAll e.writes (e.context ((cpu.withHeader header).withLog log))
        ((cpu.withHeader header).withLog log).mmu)
        =
      Action.outcome (Mmu.writeAll e.writes (e.context cpu) cpu.mmu) := by
  exact (Mmu.SameTables.withLog (e.context cpu).tables cpu.mmu log).outcome_writeAll e.writes

theorem observe_of_stages {r : EStateM.Result Trap Cpu Bool} (h : Stages cpu r)
    : observe r = cpu.observation := by
  unfold observation
  cases h with
  | unfetched hcode =>
    rw [hcode]
    rfl
  | undecoded hcode hdecode =>
    rw [hcode]
    dsimp only
    rw [hdecode]
    rfl
  | halted hcode hdecode =>
    rw [hcode]
    dsimp only
    rw [hdecode]
    rfl
  | refused hcode hdecode heffect =>
    rw [hcode]
    dsimp only
    rw [hdecode]
    dsimp only
    rw [heffect]
    rfl
  | @unwritten header i e t log cpu' hcode hdecode heffect hlog hwrite =>
    -- The words are written by a machine with the new header and a longer log, which is no matter to writing.
    obtain ⟨mmu, hwrites, rfl⟩ := Effect.exists_of_writeAll_error hwrite
    have houtcome := outcome_writeAll_withHeader cpu header log e
    rw [hwrites] at houtcome
    rw [hcode]
    dsimp only
    rw [hdecode]
    dsimp only
    rw [heffect]
    dsimp only
    rw [← houtcome]
    rfl
  | @executed header i e log cpu' hcode hdecode heffect hlog hwrite =>
    obtain ⟨mmu, hwrites, rfl⟩ := Effect.exists_of_writeAll_ok hwrite
    have houtcome := outcome_writeAll_withHeader cpu header log e
    rw [hwrites] at houtcome
    rw [hcode]
    dsimp only
    rw [hdecode]
    dsimp only
    rw [heffect]
    dsimp only
    rw [← houtcome]
    rfl

/-! ### Machines that user mode cannot tell apart -/

/-- Machines with paging on that differ, in what a program depends on, in hidden memory alone. -/
structure AgreesForUser (cpu cpu' : Cpu) : Prop where
  paging : cpu.mmu.paging
  paging' : cpu'.mmu.paging
  regs : cpu'.regs = cpu.regs
  frames : cpu'.frames = cpu.frames
  executed : cpu'.executed = cpu.executed
  memory : cpu.mmu.memory.AgreeOn (cpu.mmu.Visible (tables cpu.regs)) cpu'.mmu.memory

namespace AgreesForUser

theorem context_eq (h : cpu.AgreesForUser cpu') (access : Access)
    : cpu'.context access = cpu.context access := by
  unfold context
  rw [h.regs]

theorem peek_eq (h : cpu.AgreesForUser cpu') (huser : cpu.regs.eflags.privilege = .user)
    (access : Access) (a : VirtualAddress)
    : cpu'.mmu.peek a (cpu'.context access) = cpu.mmu.peek a (cpu.context access) := by
  rw [h.context_eq access]
  exact Mmu.peek_eq_of_visible h.paging h.paging' huser h.memory a

theorem instructionAt_eq (h : cpu.AgreesForUser cpu') (huser : cpu.regs.eflags.privilege = .user)
    (a : VirtualAddress) (header : Word)
    : cpu'.instructionAt a header = cpu.instructionAt a header := by
  have hcode : cpu'.code = cpu.code := by
    funext a
    exact h.peek_eq huser .execute a
  unfold instructionAt
  rw [hcode]

theorem snapshot_eq (h : cpu.AgreesForUser cpu') (huser : cpu.regs.eflags.privilege = .user)
    (header : Word)
    : (cpu'.withHeader header).snapshot = (cpu.withHeader header).snapshot := by
  have hword : (cpu'.withHeader header).snapshot.word = (cpu.withHeader header).snapshot.word := by
    funext a
    exact h.peek_eq huser .read a
  have hregs : (cpu'.withHeader header).regs = (cpu.withHeader header).regs := by
    unfold withHeader
    rw [h.regs]
  unfold snapshot at hword ⊢
  rw [Snapshot.mk.injEq]
  exact ⟨hregs, h.frames, hword⟩

theorem outcome_writeAll_eq (h : cpu.AgreesForUser cpu') (e : Effect)
    : Action.outcome (Mmu.writeAll e.writes (e.context cpu') cpu'.mmu)
        =
      Action.outcome (Mmu.writeAll e.writes (e.context cpu) cpu.mmu) := by
  have hcontext : e.context cpu' = e.context cpu := by
    unfold Effect.context
    rw [h.context_eq]
  have htables : Mmu.SameTables (tables cpu.regs) cpu.mmu cpu'.mmu :=
    Mmu.sameTables_of_visible (h.paging'.trans h.paging.symm) h.memory
  rw [hcontext]
  exact htables.outcome_writeAll e.writes

theorem observation_eq (h : cpu.AgreesForUser cpu') (huser : cpu.regs.eflags.privilege = .user)
    : cpu'.observation = cpu.observation := by
  have hcode : cpu'.code = cpu.code := by
    funext a
    exact h.peek_eq huser .execute a
  unfold observation
  -- Everything that the observation is made of is the same for both machines.
  simp only [hcode, h.regs, h.frames, h.executed, h.instructionAt_eq huser, h.snapshot_eq huser,
    h.outcome_writeAll_eq]

end AgreesForUser

/--
One cycle of machines in user mode that agree on the entries of their tables and on the pages that
these open to user mode ends in the same way and leaves the same registers, calls and count, whatever
the kernel's pages hold.
-/
theorem cycle_congr_of_agreesForUser {cpu cpu' : Cpu} (huser : cpu.regs.eflags.level ≠ 0#2)
    (h : cpu.AgreesForUser cpu')
    : Action.outcome (cycle cpu') = Action.outcome (cycle cpu)
        ∧ (Action.final (cycle cpu')).regs = (Action.final (cycle cpu)).regs
        ∧ (Action.final (cycle cpu')).frames = (Action.final (cycle cpu)).frames
        ∧ (Action.final (cycle cpu')).executed = (Action.final (cycle cpu)).executed := by
  rw [← Eflags.privilege_eq_user_iff] at huser
  have hobserve : observe (cycle cpu') = observe (cycle cpu) := by
    rw [observe_of_stages (stages_cycle cpu'), observe_of_stages (stages_cycle cpu)]
    exact h.observation_eq huser
  unfold observe at hobserve
  rw [Observation.mk.injEq] at hobserve
  exact hobserve

/--
A program in user mode that tries to read the page of the kernel, with a secret in that page. The table
lies at the end of memory, which has room for its first two entries only.
-/
def prying (secret : Byte) : Cpu :=
  let cpu := loaded { Settings.standard with capacity := ⟨0x2FFF⟩, userMode := true } .zero
    [⟨.mov, ⟨.memory, .direct, 0x1000⟩, ⟨.register, .direct, Register.eax.code⟩⟩]
  let program := PageTableEntry.mapped 0
  let kernel := (PageTableEntry.mapped 1).put .kernelOnly true
  let memory := (cpu.mmu.memory.storeWord ⟨0x2FF8⟩ program.word).storeWord ⟨0x2FFC⟩ kernel.word
  { cpu with
    regs := { cpu.regs with ptp := ⟨0x2FF8⟩ }
    mmu := { cpu.mmu with paging := true, memory := memory.store ⟨0x1000⟩ secret } }

theorem prying_holds
    : (prying 0).mmu.memory.capacity = ⟨0x2FFF⟩
        ∧ (prying 0).mmu.entry ⟨0x2FF8⟩ = .ok (.mapped 0)
        ∧ (prying 0).mmu.entry ⟨0x2FFC⟩ = .ok ((PageTableEntry.mapped 1).put .kernelOnly true)
        ∧ tables (prying 0).regs = .single ⟨0x2FF8⟩
        ∧ (prying 0).regs.eflags.level ≠ 0#2
        ∧ (prying 1).mmu.memory.byteAt ⟨0x1000⟩ ≠ (prying 0).mmu.memory.byteAt ⟨0x1000⟩
        ∧ Action.outcome (cycle (prying 0)) = .error .privilegeViolation := by
  decide +kernel

theorem not_opens_prying (a : VirtualAddress) : ¬(prying 0).mmu.Opens ⟨0x2FF8⟩ a 1 := by
  rintro ⟨e, hentry, -, hopen, hframe⟩
  have htable : (⟨0x2FF8⟩ : PhysicalAddress).toNat = 0x2FF8 := rfl
  have hplace := Mmu.toNat_entryAddress ⟨0x2FF8⟩ a
  rw [htable] at hplace
  have hpage : a.page.toNat < 1048576 := a.page.isLt
  obtain ⟨hcapacity, hprogram, hkernel, -⟩ := prying_holds
  have hholds : (prying 0).mmu.memory.holds (Mmu.entryAddress ⟨0x2FF8⟩ a) := by
    apply (Mmu.entry_eq_ok_iff.mp hentry).1
    simp [Memory.wordPlaces]
  unfold Memory.holds at hholds
  rw [hcapacity, decide_eq_true_eq] at hholds
  replace hholds : (Mmu.entryAddress ⟨0x2FF8⟩ a).toNat ≤ 0x2FFF := hholds
  -- Entries are four bytes apart, and the end of memory leaves room for two.
  have hcases : (Mmu.entryAddress ⟨0x2FF8⟩ a).toNat = 0x2FF8
      ∨ (Mmu.entryAddress ⟨0x2FF8⟩ a).toNat = 0x2FFC := by
    omega
  cases hcases with
  | inl hfirst =>
    replace hplace : Mmu.entryAddress ⟨0x2FF8⟩ a = ⟨0x2FF8⟩ := Address.eq_of_toNat_eq hfirst
    rw [hplace, hprogram] at hentry
    cases hentry
    exact absurd hframe (by decide)
  | inr hsecond =>
    replace hplace : Mmu.entryAddress ⟨0x2FF8⟩ a = ⟨0x2FFC⟩ := Address.eq_of_toNat_eq hsecond
    rw [hplace, hkernel] at hentry
    cases hentry
    exact absurd hopen (by decide)

theorem not_visible_of_prying : ¬(prying 0).mmu.Visible (.single ⟨0x2FF8⟩) ⟨0x1000⟩ := by
  rintro (⟨b, ⟨table, htable, a, rfl⟩, hp⟩ | ⟨a, hopens⟩)
  . rw [PageTables.toList, List.mem_singleton] at htable
    subst htable
    have hplace := Mmu.toNat_entryAddress ⟨0x2FF8⟩ a
    have hpage : a.page.toNat < 1048576 := a.page.isLt
    have hnat : (⟨0x1000⟩ : PhysicalAddress).toNat = 0x1000 := rfl
    have htable : (⟨0x2FF8⟩ : PhysicalAddress).toNat = 0x2FF8 := rfl
    simp only [Memory.wordPlaces, List.mem_cons, List.not_mem_nil, or_false] at hp
    rcases hp with hp | hp | hp | hp
    . rw [hp, hplace] at hnat
      omega
    . rw [hp, Address.toNat_add, hplace] at hnat
      omega
    . rw [hp, Address.toNat_add, hplace] at hnat
      omega
    . rw [hp, Address.toNat_add, hplace] at hnat
      omega
  . exact not_opens_prying a hopens

theorem agreesForUser_prying : (prying 0).AgreesForUser (prying 1) where
  paging := rfl
  paging' := rfl
  regs := rfl
  frames := rfl
  executed := rfl
  memory := by
    refine ⟨rfl, ?_⟩
    intro p hp _
    obtain ⟨-, -, -, htables, -⟩ := prying_holds
    rw [htables] at hp
    have hne : p ≠ ⟨0x1000⟩ := by
      rintro rfl
      exact not_visible_of_prying hp
    show (Memory.store _ _ _).byteAt p = (Memory.store _ _ _).byteAt p
    rw [Memory.byteAt_store, Memory.byteAt_store, if_neg hne, if_neg hne]

theorem cycle_congr_of_prying
    : (prying 0).AgreesForUser (prying 1)
        ∧ (prying 1).mmu.memory.byteAt ⟨0x1000⟩ ≠ (prying 0).mmu.memory.byteAt ⟨0x1000⟩
        ∧ Action.outcome (cycle (prying 0)) = .error .privilegeViolation
        ∧ Action.outcome (cycle (prying 1)) = Action.outcome (cycle (prying 0))
        ∧ (Action.final (cycle (prying 1))).regs = (Action.final (cycle (prying 0))).regs := by
  obtain ⟨-, -, -, -, huser, hsecret, houtcome⟩ := prying_holds
  have hcycle := cycle_congr_of_agreesForUser huser agreesForUser_prying
  exact ⟨agreesForUser_prying, hsecret, houtcome, hcycle.1, hcycle.2.1⟩

end Cpu

end Triword
