import Triword.Proofs.Cpu.Commit
import Triword.Proofs.Cpu.Cycle
import Triword.Proofs.Cpu.Ordinary
import Triword.Proofs.Mmu.Write

/-!
What user mode can change in memory. A cycle in user mode changes at most the four bytes of one word, in
pages that the tables let user mode write to, and the marks on the entries by which they were found.
-/

namespace Triword

namespace Mmu

open PageTableEntry (changedByte)

variable {mmu mmu' : Mmu} {ctx : AccessContext} {a : VirtualAddress} {table p : PhysicalAddress}
variable {stage : Stage} {entries : List PhysicalAddress}

def LetsWrite (mmu : Mmu) (table : PhysicalAddress) (a : VirtualAddress) (p : PhysicalAddress) : Prop :=
  ∃ e, mmu.entry (entryAddress table a) = .ok e
    ∧ e.has .present
    ∧ e.has .writable
    ∧ e.has .kernelOnly = false
    ∧ p = ⟨e.frame ++ a.pageOffset⟩

/-- The same for all the tables, every one of which lets user mode write, with the entries used. -/
def MapsForWrite (mmu : Mmu) (a : VirtualAddress)
    : PageTables → PhysicalAddress → List PhysicalAddress → Prop
  | .single table, p, used => mmu.LetsWrite table a p ∧ used = [entryAddress table a]
  | .nested guest host, p, used =>
    ∃ middle, mmu.LetsWrite guest a middle
      ∧ mmu.LetsWrite host ⟨middle.word⟩ p
      ∧ used = [entryAddress guest a, entryAddress host ⟨middle.word⟩]

/-- No more has changed than a word written by user mode changes: its bytes and marks on entries. -/
structure ConfinedTo (mmu mmu' : Mmu) (tables : PageTables) (a : VirtualAddress)
    (place : Fin 4 → PhysicalAddress) (used : Fin 4 → List PhysicalAddress) : Prop where
  maps : ∀ k : Fin 4, mmu.MapsForWrite (a.add k) tables (place k) (used k)
  changed : ∀ q, mmu'.memory.byteAt q ≠ mmu.memory.byteAt q
    → (∃ k, q = place k)
      ∨ (∃ k, q ∈ used k) ∧ mmu'.memory.byteAt q = mmu.memory.byteAt q ||| changedByte

theorem letsWrite_of_walk (huser : ctx.privilege = .user) (haccess : ctx.access = .write)
    (h : mmu.walk table a ctx stage = .ok (p, entries)) : mmu.LetsWrite table a p := by
  obtain ⟨e, hentry, hpresent, hdenies, hr⟩ := walk_eq_ok_iff.mp h
  cases hr
  obtain ⟨huser', hwritable, -⟩ := (denies_eq_false_iff e ctx).mp hdenies
  exact ⟨e, hentry, hpresent, hwritable haccess, huser' huser, rfl⟩

theorem mapsForWrite_of_resolve (hpaging : mmu.paging) (huser : ctx.privilege = .user)
    (haccess : ctx.access = .write) (h : mmu.resolve a ctx = .ok (p, entries))
    : mmu.MapsForWrite a ctx.tables p (mmu.walked a ctx) := by
  unfold walked
  rw [hpaging]
  cases htables : ctx.tables with
  | single table =>
    rw [resolve_of_single hpaging htables] at h
    exact ⟨letsWrite_of_walk huser haccess h, rfl⟩
  | nested guest host =>
    rw [resolve_nested_eq_ok_iff hpaging htables] at h
    obtain ⟨middle, guestEntries, hostEntries, hguest, hhost, -⟩ := h
    refine ⟨middle, letsWrite_of_walk huser haccess hguest, letsWrite_of_walk huser haccess hhost, ?_⟩
    simp only [hguest, Bool.not_true, Bool.false_eq_true, ↓reduceIte]

theorem confinedTo_of_writeWord (hpaging : mmu.paging) (huser : ctx.privilege = .user)
    (haccess : ctx.access = .write) {w : Word} (h : writeWord a w ctx mmu = .ok () mmu')
    : ∃ place used, mmu.ConfinedTo mmu' ctx.tables a place used := by
  obtain ⟨place, hstored⟩ := wordStored_of_writeWord_ok haccess h
  refine ⟨place, fun k => mmu.walked (a.add k) ctx, ?_, ?_⟩
  . intro k
    obtain ⟨entries, hk⟩ := hstored.resolve k
    exact mapsForWrite_of_resolve hpaging huser haccess hk
  . intro q hq
    by_cases hplace : ∃ k, q = place k
    . exact .inl hplace
    . have hother := hstored.byteAt_other q (not_exists.mp hplace)
      exact .inr (hother.resolve_left hq)

end Mmu

namespace Cpu

variable {cpu : Cpu}

theorem ordinary_of_nextInstruction? {header : Word} {i : Instruction} {e : Effect}
    (hnext : ∀ i, cpu.nextInstruction? = some i → ¬i.EntersKernel)
    (hcode : cpu.code cpu.regs.eip = .ok header)
    (hdecode : cpu.instructionAt cpu.regs.eip header = .ok (some i))
    (heffect : (cpu.withHeader header).snapshot.effect i = .ok e)
    : (cpu.withHeader header).snapshot.Ordinary e := by
  have hi : ¬i.EntersKernel := hnext i ((nextInstruction?_eq hcode i).mpr hdecode)
  exact (Snapshot.effect_cases heffect).resolve_right fun henters => hi henters.1

/--
A cycle in user mode that does not enter the kernel, whether or not it fails, leaves memory as it is or
changes it as one word does: at the places of its bytes, each in a page that user mode may write to in
every table, and by the marks on the entries of these pages.
-/
theorem memory_of_user_cycle (huser : cpu.regs.eflags.level ≠ 0#2) (hpaging : cpu.mmu.paging)
    (hnext : ∀ i, cpu.nextInstruction? = some i → ¬i.EntersKernel)
    : (Action.final (cycle cpu)).mmu.memory = cpu.mmu.memory
        ∨ ∃ a place used,
            cpu.mmu.ConfinedTo (Action.final (cycle cpu)).mmu (tables cpu.regs) a place used := by
  rw [← Eflags.privilege_eq_user_iff] at huser
  have hstages := stages_cycle cpu
  generalize cycle cpu = result at hstages
  cases hstages with
  | unfetched => exact .inl rfl
  | undecoded => exact .inl rfl
  | halted => exact .inl rfl
  | refused => exact .inl rfl
  | @unwritten header i e t log cpu' hcode hdecode heffect hlog hwrite =>
    have hordinary := ordinary_of_nextInstruction? hnext hcode hdecode heffect
    obtain ⟨mmu, hwrites, rfl⟩ := Effect.exists_of_writeAll_error hwrite
    left
    show mmu.memory = cpu.mmu.memory
    rw [Mmu.eq_of_writeAll_error hordinary.length_writes hwrites]
    rfl
  | @executed header i e log cpu' hcode hdecode heffect hlog hwrite =>
    have hordinary := ordinary_of_nextInstruction? hnext hcode hdecode heffect
    obtain ⟨mmu, hwrites, rfl⟩ := Effect.exists_of_writeAll_ok hwrite
    -- At most one word has been written, and it was written on behalf of user mode.
    have hprivilege : (e.context ((cpu.withHeader header).withLog log)).privilege = .user :=
      hordinary.privilege.trans huser
    cases hwords : e.writes with
    | nil =>
      rw [hwords] at hwrites
      cases hwrites
      exact .inl rfl
    | cons x rest =>
      have hlength := hordinary.length_writes
      rw [hwords, List.length_cons] at hlength
      have hrest : rest = [] := List.eq_nil_of_length_eq_zero (by omega)
      subst hrest
      rw [hwords] at hwrites
      have hword := Mmu.writeWord_of_writeAll_singleton hwrites
      have hpaging' : ((cpu.withHeader header).withLog log).mmu.paging := hpaging
      obtain ⟨place, used, hconfined⟩ := Mmu.confinedTo_of_writeWord hpaging' hprivilege rfl hword
      -- The tables and the bytes are those from before the log and the header changed.
      exact .inr ⟨x.1, place, used, hconfined.maps, hconfined.changed⟩

/-- A program in user mode that writes a word into two pages. -/
def spilling : Cpu :=
  let cpu := loaded { Settings.standard with userMode := true } .zero
    [⟨.mov, ⟨.immediate, .direct, 0x11223344⟩, ⟨.memory, .direct, 0x1FFE⟩⟩]
  let code := cpu.mmu.memory.storeWord ⟨0x8000⟩ (PageTableEntry.mapped 0).word
  let first := code.storeWord ⟨0x8004⟩ (PageTableEntry.mapped 5).word
  let memory := first.storeWord ⟨0x8008⟩ (PageTableEntry.mapped 3).word
  { cpu with
    regs := { cpu.regs with ptp := ⟨0x8000⟩ }
    mmu := { cpu.mmu with paging := true, memory } }

theorem memory_of_spilling
    : spilling.regs.eflags.level ≠ 0#2
        ∧ spilling.mmu.paging
        ∧ (∀ i, spilling.nextInstruction? = some i → ¬i.EntersKernel)
        ∧ (Action.final (cycle spilling)).mmu.memory ≠ spilling.mmu.memory
        ∧ ∃ a place used,
            spilling.mmu.ConfinedTo (Action.final (cycle spilling)).mmu (tables spilling.regs) a place
              used := by
  have huser : spilling.regs.eflags.level ≠ 0#2 := by decide +kernel
  have hnext : ∀ i, spilling.nextInstruction? = some i → ¬i.EntersKernel := by
    have hmov : spilling.nextInstruction?
        = some ⟨.mov, ⟨.immediate, .direct, 0x11223344⟩, ⟨.memory, .direct, 0x1FFE⟩⟩ := by
      decide +kernel
    intro i hi
    rw [hmov] at hi
    cases hi
    decide
  have hchanged : (Action.final (cycle spilling)).mmu.memory ≠ spilling.mmu.memory := by
    intro hsame
    have hbyte : (Action.final (cycle spilling)).mmu.memory.byteAt ⟨0x5FFF⟩
        ≠ spilling.mmu.memory.byteAt ⟨0x5FFF⟩ := by
      decide +kernel
    exact hbyte (congrArg (Memory.byteAt · ⟨0x5FFF⟩) hsame)
  have hconfined := (memory_of_user_cycle huser rfl hnext).resolve_left hchanged
  exact ⟨huser, rfl, hnext, hchanged, hconfined⟩

end Cpu

end Triword
