import Triword.Proofs.Cpu.Confinement
import Triword.Proofs.Cpu.Run
import Triword.Proofs.Cpu.UserMode
import Triword.Proofs.Mmu.Accounting

/-!
What the log of a run accounts for. However a run of the machine ends, every byte of memory that it has changed is
in the log as modified, but for the first bytes of page table entries that were marked on the way of a write.
-/

namespace Triword

namespace Cpu

open Mmu (Accounts)

variable {cpu cpu' after : Cpu} {q : PhysicalAddress} {n : Nat}

/-- An entry of the tables that the machine goes through lies at the place. -/
def UsesEntry (cpu : Cpu) (q : PhysicalAddress) : Prop :=
  cpu.mmu.paging ∧ (tables cpu.regs).HasEntry q

theorem usesEntry_congr (h : cpu.bare = cpu'.bare) : cpu'.UsesEntry q ↔ cpu.UsesEntry q := by
  rw [eq_withLog_of_bare_eq h]
  rfl

/-! ### Cycles -/

theorem accounts_effect_writeAll (e : Effect) (header : Word) {log : AccessLog}
    (hlog : cpu.mmu.log.AddsReads log)
    : Accounts cpu.UsesEntry cpu.mmu
        (Action.final (e.writeAll ((cpu.withHeader header).withLog log))).mmu := by
  let cpu₁ := (cpu.withHeader header).withLog log
  have hread : Accounts cpu.UsesEntry cpu.mmu cpu₁.mmu := .of_addsReads hlog rfl
  have haccess : (e.context cpu₁).access = .write := rfl
  rw [Effect.writeAll_apply, final_onMmu]
  exact hread.trans (Mmu.accounts_writeAll haccess e.writes cpu₁.mmu)

theorem accounts_cycle (cpu : Cpu) : Accounts cpu.UsesEntry cpu.mmu (Action.final (cycle cpu)).mmu := by
  have hstages := stages_cycle cpu
  generalize cycle cpu = result at hstages
  cases hstages with
  | unfetched hcode hlog => exact .of_addsReads hlog rfl
  | undecoded hcode hdecode hlog => exact .of_addsReads hlog rfl
  | halted hcode hdecode hlog => exact .of_addsReads hlog rfl
  | refused hcode hdecode heffect hlog => exact .of_addsReads hlog rfl
  | @unwritten header i e t log cpu' hcode hdecode heffect hlog hwrite =>
    have hwrites := accounts_effect_writeAll e header hlog
    rw [hwrite] at hwrites
    exact hwrites
  | @executed header i e log cpu' hcode hdecode heffect hlog hwrite =>
    have hwrites := accounts_effect_writeAll e header hlog
    rw [hwrite] at hwrites
    exact hwrites

theorem accounts_afterCycles (cpu : Cpu) (n : Nat)
    : Accounts (fun q => ∃ k < n, (cpu.afterCycles k).UsesEntry q) cpu.mmu (cpu.afterCycles n).mmu := by
  induction n with
  | zero => exact .refl _ cpu.mmu
  | succ n ih =>
    refine Accounts.trans (ih.mono ?_) ((accounts_cycle (cpu.afterCycles n)).mono ?_)
    . rintro q ⟨k, hk, hentry⟩
      exact ⟨k, Nat.lt_succ_of_lt hk, hentry⟩
    . intro q hentry
      exact ⟨n, Nat.lt_succ_self n, hentry⟩

/-! ### Loops -/

theorem afterCycles_final_cycle (cpu : Cpu) (n : Nat)
    : (Action.final (cycle cpu)).afterCycles n = cpu.afterCycles (n + 1) := by
  induction n with
  | zero => rfl
  | succ n ih =>
    show Action.final (cycle ((Action.final (cycle cpu)).afterCycles n)) = _
    rw [ih]
    rfl

theorem bare_afterCycles (h : cpu.bare = cpu'.bare) (n : Nat)
    : (cpu.afterCycles n).bare = (cpu'.afterCycles n).bare := by
  induction n with
  | zero => exact h
  | succ n ih => exact congrArg Prod.snd (respects_cycle _ _ ih)

/-- A loop comes as far as some number of cycles does, and makes one if it is let. -/
theorem exists_final_runLoop (goesOn : Tripwire) (budget asked : Nat) (cpu : Cpu)
    : ∃ n, Action.final (runLoop goesOn budget asked cpu) = cpu.afterCycles n
        ∧ (0 < budget → goesOn asked cpu = true → 0 < n) := by
  induction budget generalizing asked cpu with
  | zero => exact ⟨0, rfl, fun h => absurd h (Nat.lt_irrefl 0)⟩
  | succ budget ih =>
    cases hgo : goesOn asked cpu with
    | false =>
      rw [runLoop_of_stopped hgo]
      exact ⟨0, rfl, fun _ h => nomatch h⟩
    | true =>
      have hfirst : Action.final (cycle cpu) = cpu.afterCycles 1 := rfl
      cases hcycle : cycle cpu with
      | error t cpu' =>
        rw [hcycle] at hfirst
        rw [runLoop_of_error hgo hcycle]
        exact ⟨1, hfirst, fun _ _ => Nat.one_pos⟩
      | ok went cpu' =>
        rw [hcycle] at hfirst
        cases went with
        | false =>
          rw [runLoop_of_halt hgo hcycle]
          exact ⟨1, hfirst, fun _ _ => Nat.one_pos⟩
        | true =>
          cases hbreak : cpu'.atBreakpoint with
          | true =>
            rw [runLoop_of_breakpoint hgo hcycle hbreak]
            exact ⟨1, hfirst, fun _ _ => Nat.one_pos⟩
          | false =>
            obtain ⟨n, hn, -⟩ := ih (asked + 1) cpu'
            refine ⟨n + 1, ?_, fun _ _ => Nat.succ_pos n⟩
            rw [runLoop_of_next hgo hcycle hbreak, ← afterCycles_final_cycle, hcycle]
            exact hn

/-! ### Calls -/

theorem stepIn_of_error {t : Trap} (h : cycle (cpu.withLog .empty) = .error t after) : stepIn cpu = .error t after := by
  show (cycle >>= fun _ => pure () : Action Unit) (cpu.withLog .empty) = _
  exact Action.bind_of_error h

theorem stepIn_of_ok {went : Bool} (h : cycle (cpu.withLog .empty) = .ok went after) : stepIn cpu = .ok () after := by
  show (cycle >>= fun _ => pure () : Action Unit) (cpu.withLog .empty) = _
  exact Action.bind_of_ok h

theorem stepOut_of_depth (h : cpu.frames.depth ≠ 0) (budget : Nat)
    : stepOut budget cpu
        =
      runWhile (fun asked cpu' => asked == 0 || decide (cpu.frames.depth ≤ cpu'.frames.depth)) budget cpu := by
  unfold stepOut
  rw [Action.get_bind_apply]
  exact congrFun (if_pos h) cpu

theorem stepOut_of_no_depth (h : cpu.frames.depth = 0) (budget : Nat) : stepOut budget cpu = .ok () cpu := by
  unfold stepOut
  rw [Action.get_bind_apply]
  exact congrFun (if_neg (absurd h)) cpu

inductive Call where
  | run (budget : Nat)
  | runWithLimit (limit : Nat)
  | stepIn
  | stepOver (budget : Nat)
  | stepOut (budget : Nat)
  deriving DecidableEq

namespace Call

def action : Call → Action Unit
  | run budget => Cpu.run budget
  | runWithLimit limit => Cpu.runWithLimit limit
  | stepIn => Cpu.stepIn
  | stepOver budget => Cpu.stepOver budget
  | stepOut budget => Cpu.stepOut budget

def Starts (cpu : Cpu) : Call → Prop
  | run budget => 0 < budget
  | runWithLimit limit => 0 < limit
  | stepIn => True
  | stepOver budget => 0 < budget
  | stepOut budget => 0 < budget ∧ cpu.frames.depth ≠ 0

end Call

/--
The second machine is the first one after a number of cycles. Where a byte differs, its log says that it was
modified, or that of an entry in use has got its mark; and what was modified was written.
-/
structure Accounted (cpu after : Cpu) (n : Nat) : Prop where
  cycles : after.bare = (cpu.afterCycles n).bare
  byteAt : ∀ q, after.mmu.memory.byteAt q ≠ cpu.mmu.memory.byteAt q →
    (after.mmu.log.get q).modified ∨ (∃ k < n, (cpu.afterCycles k).UsesEntry q) ∧ cpu.mmu.Marked after.mmu q
  written : ∀ q, (after.mmu.log.get q).modified → (after.mmu.log.get q).written

/-- With an empty log at its start, the log accounts for all that the cycles have done. -/
theorem accounted_of_afterCycles (start : Cpu) (hstart : start.bare = cpu.bare) (hlog : start.mmu.log = .empty)
    (hbare : after.bare = (start.afterCycles n).bare) (hmmu : after.mmu = (start.afterCycles n).mmu)
    : cpu.Accounted after n := by
  have haccounts := accounts_afterCycles start n
  have hmemory : start.mmu.memory = cpu.mmu.memory := congrArg (fun cpu => cpu.mmu.memory) hstart
  rw [← hmmu] at haccounts
  refine ⟨hbare.trans (bare_afterCycles hstart n), ?_, ?_⟩
  . intro q hq
    rw [← hmemory] at hq
    unfold Mmu.Marked
    rw [← hmemory]
    refine (haccounts.byteAt q).imp_right fun hchanged => ?_
    obtain ⟨⟨k, hk, hentry⟩, hmarked⟩ := hchanged.resolve_left hq
    exact ⟨⟨k, hk, (usesEntry_congr (bare_afterCycles hstart k).symm).mp hentry⟩, hmarked⟩
  . apply haccounts.sound
    rw [hlog]
    exact AccessLog.sound_empty

theorem accounted_runWhile (goesOn : Tripwire) {budget : Nat} (hbudget : 0 < budget)
    (hgo : goesOn 0 cpu.bare = true) : ∃ n, 0 < n ∧ cpu.Accounted (Action.final (runWhile goesOn budget cpu)) n := by
  obtain ⟨n, hloop, hpos⟩ := exists_final_runLoop goesOn budget 0 cpu.bare
  refine ⟨n, hpos hbudget hgo, ?_⟩
  cases hresult : runLoop goesOn budget 0 cpu.bare with
  | error t after =>
    rw [hresult] at hloop
    rw [runWhile_of_error hresult]
    exact accounted_of_afterCycles cpu.bare rfl rfl (congrArg bare hloop) (congrArg mmu hloop)
  | ok pause after =>
    rw [hresult] at hloop
    rw [runWhile_of_ok hresult]
    -- The reason for the pause is neither in the memory nor in the log.
    have hbare : after.bare = (cpu.bare.afterCycles n).bare := congrArg bare hloop
    have hmmu : after.mmu = (cpu.bare.afterCycles n).mmu := congrArg mmu hloop
    exact accounted_of_afterCycles cpu.bare rfl rfl hbare hmmu

theorem accounted_stepIn (cpu : Cpu) : cpu.Accounted (Action.final (stepIn cpu)) 1 := by
  have hstep : Action.final (stepIn cpu) = (cpu.withLog .empty).afterCycles 1 := by
    have hcycle : (cpu.withLog .empty).afterCycles 1 = Action.final (cycle (cpu.withLog .empty)) := rfl
    rw [hcycle]
    cases hresult : cycle (cpu.withLog .empty) with
    | error t cpu' =>
      rw [stepIn_of_error hresult]
      rfl
    | ok went cpu' =>
      rw [stepIn_of_ok hresult]
      rfl
  exact accounted_of_afterCycles (cpu.withLog .empty) rfl rfl (congrArg bare hstep) (congrArg mmu hstep)

/-- Whatever makes the machine run and however it ends, the log accounts for the cycles that it has made. -/
theorem accounted_of_starts (cpu : Cpu) {call : Call} (h : call.Starts cpu)
    : ∃ n, 0 < n ∧ cpu.Accounted (Action.final (call.action cpu)) n := by
  cases call with
  | run budget => exact accounted_runWhile _ h rfl
  | runWithLimit limit =>
    apply accounted_runWhile _ (Nat.succ_pos limit)
    apply decide_eq_true
    show (cpu.executed - cpu.executed).toNat < limit
    rw [BitVec.sub_self]
    exact h
  | stepIn => exact ⟨1, Nat.one_pos, accounted_stepIn cpu⟩
  | stepOver budget => exact accounted_runWhile _ h rfl
  | stepOut budget =>
    obtain ⟨hbudget, hdepth⟩ := h
    show ∃ n, 0 < n ∧ cpu.Accounted (Action.final (stepOut budget cpu)) n
    rw [stepOut_of_depth hdepth]
    exact accounted_runWhile _ hbudget rfl

/-- Of a word that goes into two pages the bytes are modified, and the entries of the pages are marked. -/
theorem accounted_of_spilling
    : (Call.run 2).Starts spilling
        ∧ ∃ n, 0 < n
          ∧ spilling.Accounted (Action.final ((Call.run 2).action spilling)) n
          ∧ ((Action.final ((Call.run 2).action spilling)).mmu.log.get ⟨0x5FFE⟩).modified
          ∧ spilling.mmu.Marked (Action.final ((Call.run 2).action spilling)).mmu ⟨0x8004⟩ := by
  obtain ⟨hmodified, hmarked, hchanged⟩
      : ((Action.final ((Call.run 2).action spilling)).mmu.log.get ⟨0x5FFE⟩).modified = true
        ∧ ((Action.final ((Call.run 2).action spilling)).mmu.log.get ⟨0x8004⟩).modified = false
        ∧ (Action.final ((Call.run 2).action spilling)).mmu.memory.byteAt ⟨0x8004⟩
          ≠ spilling.mmu.memory.byteAt ⟨0x8004⟩ := by
    decide +kernel
  have hstarts : (Call.run 2).Starts spilling := Nat.two_pos
  obtain ⟨n, hn, haccounted⟩ := accounted_of_starts spilling hstarts
  have hentry := (haccounted.byteAt _ hchanged).resolve_left (Bool.eq_false_iff.mp hmarked)
  exact ⟨hstarts, n, hn, haccounted, hmodified, hentry.2⟩

end Cpu

end Triword
