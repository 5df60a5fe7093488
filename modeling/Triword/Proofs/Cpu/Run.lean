import Triword.Cpu.Run
import Triword.Proofs.Alike
import Triword.Proofs.Cpu.Cycle

/-!
Runs with a limit as rows of cycles. A run does what its cycles do one after the other, up to the first that
halts, fails or comes to a breakpoint; since a cycle looks neither at the log nor at the reason for the last
pause, a run that was only stopped by its limit can be gone on with as if it had not been stopped.
-/

namespace Triword

namespace Mmu

open Triword.Action

variable {mmu mmu' : Mmu}

def bare (mmu : Mmu) : Mmu :=
  mmu.withLog .empty

theorem eq_withLog_of_bare_eq (h : mmu.bare = mmu'.bare) : mmu' = mmu.withLog mmu'.log := by
  cases mmu
  cases mmu'
  cases h
  rfl

theorem bare_mark (h : mmu.bare = mmu'.bare) (b : PhysicalAddress) : (mmu.mark b).bare = (mmu'.mark b).bare := by
  rw [eq_withLog_of_bare_eq h]
  unfold mark withLog
  dsimp only
  split <;> rfl

theorem bare_put (mmu : Mmu) (p : PhysicalAddress) (b : Byte)
    : (mmu.put p b).bare = { mmu.bare with memory := mmu.bare.memory.store p b } := rfl

theorem bare_written (h : mmu.bare = mmu'.bare) (places entries : List PhysicalAddress) (w : Word)
    : (mmu.written places entries w).bare = (mmu'.written places entries w).bare := by
  unfold written
  apply List.foldl_rel (r := fun mmu mmu' : Mmu => mmu.bare = mmu'.bare)
  . apply List.foldl_rel (r := fun mmu mmu' : Mmu => mmu.bare = mmu'.bare) h
    intro b _ mmu mmu' h
    exact bare_mark h b
  . intro x _ mmu mmu' h
    rw [bare_put, bare_put, h]

theorem respects_writeWord (a : VirtualAddress) (w : Word) (ctx : AccessContext)
    : Respects bare (writeWord a w ctx) := by
  intro mmu mmu' h
  have htargets : mmu'.targets a ctx = mmu.targets a ctx := by
    rw [eq_withLog_of_bare_eq h]
    rfl
  cases ht : mmu.targets a ctx with
  | error t =>
    rw [writeWord_of_targets_error ht, writeWord_of_targets_error (htargets.trans ht)]
    exact Prod.ext rfl h
  | ok found =>
    rw [writeWord_of_targets_ok ht, writeWord_of_targets_ok (htargets.trans ht)]
    exact Prod.ext rfl (bare_written h found.1 found.2 w)

end Mmu

namespace Cpu

open Triword.Action (Respects seen)

variable {α : Type} {cpu cpu' : Cpu} {m n : Nat}

/-- The machine but for its log and the reason for which it paused. -/
def bare (cpu : Cpu) : Cpu :=
  { cpu with mmu := cpu.mmu.bare, pause := none }

theorem eq_withLog_of_bare_eq (h : cpu.bare = cpu'.bare)
    : cpu' = { cpu.withLog cpu'.mmu.log with pause := cpu'.pause } := by
  obtain ⟨regs, ⟨memory, paging, log⟩, frames, executed, pause, settings, breakpoints⟩ := cpu
  obtain ⟨regs', ⟨memory', paging', log'⟩, frames', executed', pause', settings', breakpoints'⟩ := cpu'
  cases h
  rfl

/-! ### What a cycle does not look at -/

theorem respects_onMmu {x : Mmu.Action α} (hx : Respects Mmu.bare x) : Respects bare (onMmu x) := by
  intro cpu cpu' h
  have hseen := hx cpu.mmu cpu'.mmu (congrArg Cpu.mmu h)
  have hfinal {mmu mmu' : Mmu} (hmmu : mmu.bare = mmu'.bare)
      : bare { cpu with mmu } = bare { cpu' with mmu := mmu' } := by
    rw [eq_withLog_of_bare_eq h, Mmu.eq_withLog_of_bare_eq hmmu]
    rfl
  cases hmmu : x cpu.mmu with
  | error t mmu =>
    rw [hmmu] at hseen
    obtain ⟨mmu', hmmu', hbare⟩ := Action.exists_of_seen_error hseen
    rw [onMmu_of_error hmmu, onMmu_of_error hmmu']
    exact Prod.ext rfl (hfinal hbare)
  | ok a mmu =>
    rw [hmmu] at hseen
    obtain ⟨mmu', hmmu', hbare⟩ := Action.exists_of_seen_ok hseen
    rw [onMmu_of_ok hmmu, onMmu_of_ok hmmu']
    exact Prod.ext rfl (hfinal hbare)

theorem respects_commit (e : Effect) : Respects bare e.commit := by
  have hwrite : Respects bare e.writeAll := by
    apply Respects.get_bind
    . intro cpu
      apply Respects.forM
      intro x
      exact respects_onMmu (Mmu.respects_writeWord x.1 x.2 _)
    . intro cpu cpu' h
      rw [eq_withLog_of_bare_eq h]
      rfl
  apply hwrite.bind
  intro _
  apply Respects.bind
  . apply Respects.modify
    intro cpu cpu' h
    rw [eq_withLog_of_bare_eq h]
    rfl
  . intro _
    exact Respects.pure e.jumped

theorem respects_execute (i : Instruction) : Respects bare (execute i) := by
  intro cpu cpu' h
  obtain ⟨log, -, hexecute⟩ := settles_execute cpu i cpu.mmu.log
  obtain ⟨log', -, hexecute'⟩ := settles_execute cpu' i cpu'.mmu.log
  have hsnapshot : cpu'.snapshot = cpu.snapshot := by
    rw [eq_withLog_of_bare_eq h]
    rfl
  have hbare : (cpu.withLog log).bare = (cpu'.withLog log').bare := h
  replace hexecute : execute i cpu = _ := hexecute
  replace hexecute' : execute i cpu' = _ := hexecute'
  rw [hexecute, hexecute', hsnapshot]
  cases cpu.snapshot.effect i with
  | error t => exact Prod.ext rfl hbare
  | ok e => exact respects_commit e _ _ hbare

theorem respects_fetch (a : VirtualAddress) : Respects bare (fetch a) := by
  intro cpu cpu' h
  have hcode : cpu'.code a = cpu.code a := by
    rw [eq_withLog_of_bare_eq h]
    rfl
  cases hheader : cpu.code a with
  | error t =>
    obtain ⟨log, -, hfetch⟩ := fetch_of_error hheader
    obtain ⟨log', -, hfetch'⟩ := fetch_of_error (hcode.trans hheader)
    rw [hfetch, hfetch']
    exact Prod.ext rfl h
  | ok header =>
    obtain ⟨log, -, hfetch⟩ := fetch_of_ok hheader
    obtain ⟨log', -, hfetch'⟩ := fetch_of_ok (hcode.trans hheader)
    have hdecode : cpu'.instructionAt a header = cpu.instructionAt a header := by
      rw [eq_withLog_of_bare_eq h]
      rfl
    have hbare : ((cpu.withHeader header).withLog log).bare = ((cpu'.withHeader header).withLog log').bare := by
      rw [eq_withLog_of_bare_eq h]
      rfl
    rw [hfetch, hfetch', hdecode]
    cases cpu.instructionAt a header with
    | error t => exact Prod.ext rfl hbare
    | ok i? => exact Prod.ext rfl hbare

/-- A cycle looks neither at the log nor at the reason for the last pause. -/
theorem respects_cycle : Respects bare cycle := by
  have hregs (f : RegisterFile → RegisterFile) : Respects bare (modifyRegs f) := by
    apply Respects.modify
    intro cpu cpu' h
    rw [eq_withLog_of_bare_eq h]
    rfl
  apply Respects.get_bind
  . intro cpu
    apply (respects_fetch cpu.regs.eip).bind
    intro i?
    cases i? with
    | none => exact Respects.pure false
    | some i =>
      apply (respects_execute i).bind
      intro jumped
      have hcount : Respects bare (do
          modify fun cpu => { cpu with executed := cpu.executed + 1 }
          return true : Action Bool) := by
        apply (Respects.modify _).bind
        . intro _
          exact Respects.pure true
        . intro cpu cpu' h
          rw [eq_withLog_of_bare_eq h]
          rfl
      cases jumped with
      | true => exact hcount
      | false => exact (hregs _).bind fun _ => hcount
  . intro cpu cpu' h
    rw [eq_withLog_of_bare_eq h]
    rfl

/-! ### What a cycle leaves alone -/

theorem counts_cycle (cpu : Cpu)
    : (Action.final (cycle cpu)).pause = cpu.pause
      ∧ (Action.final (cycle cpu)).executed
          =
        if Action.outcome (cycle cpu) = .ok true then cpu.executed + 1 else cpu.executed := by
  have hstages := stages_cycle cpu
  generalize cycle cpu = r at hstages ⊢
  cases hstages with
  | unfetched hcode hlog => exact ⟨rfl, rfl⟩
  | undecoded hcode hdecode hlog => exact ⟨rfl, rfl⟩
  | halted hcode hdecode hlog => exact ⟨rfl, rfl⟩
  | refused hcode hdecode heffect hlog => exact ⟨rfl, rfl⟩
  | unwritten hcode hdecode heffect hlog hwrite =>
    obtain ⟨mmu, -, rfl⟩ := Effect.exists_of_writeAll_error hwrite
    exact ⟨rfl, rfl⟩
  | executed hcode hdecode heffect hlog hwrite =>
    obtain ⟨mmu, -, rfl⟩ := Effect.exists_of_writeAll_ok hwrite
    exact ⟨rfl, rfl⟩

theorem atBreakpoint_congr (h : cpu.bare = cpu'.bare) : cpu'.atBreakpoint = cpu.atBreakpoint := by
  rw [eq_withLog_of_bare_eq h]
  rfl

theorem frames_congr (h : cpu.bare = cpu'.bare) : cpu.frames = cpu'.frames := by
  show cpu.bare.frames = cpu'.bare.frames
  rw [h]

theorem executed_congr (h : cpu.bare = cpu'.bare) : cpu.executed = cpu'.executed := by
  show cpu.bare.executed = cpu'.bare.executed
  rw [h]

/-! ### Rows of cycles -/

inductive Ending where
  | limit
  | halt
  | breakpoint
  | failure (t : Trap)
  deriving DecidableEq

namespace Ending

def outcome : Ending → Except Trap Unit
  | failure t => .error t
  | limit | halt | breakpoint => .ok ()

def pause : Ending → Option Pause
  | limit => some .tripwire
  | halt => some .halt
  | breakpoint => some .breakpoint
  | failure _ => none

theorem pause_of_outcome_error {e : Ending} {t : Trap} (h : e.outcome = .error t) : e.pause = none := by
  cases e with
  | failure t' => rfl
  | limit | halt | breakpoint => cases h

theorem pause_eq_tripwire_iff {e : Ending} : e.pause = some .tripwire ↔ e = .limit := by
  cases e <;> simp [pause]

theorem pause_eq_halt_iff {e : Ending} : e.pause = some .halt ↔ e = .halt := by
  cases e <;> simp [pause]

theorem pause_eq_breakpoint_iff {e : Ending} : e.pause = some .breakpoint ↔ e = .breakpoint := by
  cases e <;> simp [pause]

end Ending

structure Stretch where
  ending : Ending
  count : Nat
  final : Cpu

def Stretch.next (r : Stretch) : Stretch :=
  { r with count := r.count + 1 }

/--
At most `n` cycles, up to the first that halts or fails, or after which a breakpoint holds.
-/
def cycles : (n : Nat) → Cpu → Stretch
  | 0, cpu => ⟨.limit, 0, cpu⟩
  | n + 1, cpu =>
    match cycle cpu with
    | .error t cpu' => ⟨.failure t, 0, cpu'⟩
    | .ok false cpu' => ⟨.halt, 0, cpu'⟩
    | .ok true cpu' => if cpu'.atBreakpoint then ⟨.breakpoint, 1, cpu'⟩ else (cycles n cpu').next

section FirstCycle

variable {t : Trap}

theorem cycles_of_error (h : cycle cpu = .error t cpu') (n : Nat)
    : cycles (n + 1) cpu = ⟨.failure t, 0, cpu'⟩ := by
  rw [cycles, h]

theorem cycles_of_halt (h : cycle cpu = .ok false cpu') (n : Nat) : cycles (n + 1) cpu = ⟨.halt, 0, cpu'⟩ := by
  rw [cycles, h]

theorem cycles_of_breakpoint (h : cycle cpu = .ok true cpu') (hbreak : cpu'.atBreakpoint = true) (n : Nat)
    : cycles (n + 1) cpu = ⟨.breakpoint, 1, cpu'⟩ := by
  rw [cycles, h]
  exact if_pos hbreak

theorem cycles_of_next (h : cycle cpu = .ok true cpu') (hbreak : cpu'.atBreakpoint = false) (n : Nat)
    : cycles (n + 1) cpu = (cycles n cpu').next := by
  rw [cycles, h]
  exact if_neg (Bool.eq_false_iff.mp hbreak)

end FirstCycle

/-- Of a row that its limit has stopped, another row is the rest. -/
theorem cycles_add (m n : Nat) (cpu : Cpu) (h : (cycles m cpu).ending = .limit)
    : (cycles (m + n) cpu).ending = (cycles n (cycles m cpu).final).ending
      ∧ (cycles (m + n) cpu).final = (cycles n (cycles m cpu).final).final := by
  induction m generalizing cpu with
  | zero =>
    rw [Nat.zero_add]
    exact ⟨rfl, rfl⟩
  | succ m ih =>
    rw [Nat.succ_add]
    cases hcycle : cycle cpu with
    | error t cpu' =>
      rw [cycles_of_error hcycle] at h
      cases h
    | ok went cpu' =>
      cases went with
      | false =>
        rw [cycles_of_halt hcycle] at h
        cases h
      | true =>
        cases hbreak : cpu'.atBreakpoint with
        | true =>
          rw [cycles_of_breakpoint hcycle hbreak] at h
          cases h
        | false =>
          rw [cycles_of_next hcycle hbreak] at h
          rw [cycles_of_next hcycle hbreak, cycles_of_next hcycle hbreak]
          exact ih cpu' h

theorem cycles_congr (n : Nat) (h : cpu.bare = cpu'.bare)
    : (cycles n cpu).ending = (cycles n cpu').ending
      ∧ (cycles n cpu).count = (cycles n cpu').count
      ∧ (cycles n cpu).final.bare = (cycles n cpu').final.bare := by
  induction n generalizing cpu cpu' with
  | zero => exact ⟨rfl, rfl, h⟩
  | succ n ih =>
    have hseen := respects_cycle cpu cpu' h
    cases hcycle : cycle cpu with
    | error t cpu₁ =>
      rw [hcycle] at hseen
      obtain ⟨cpu₁', hcycle', hbare⟩ := Action.exists_of_seen_error hseen
      rw [cycles_of_error hcycle, cycles_of_error hcycle']
      exact ⟨rfl, rfl, hbare⟩
    | ok went cpu₁ =>
      rw [hcycle] at hseen
      obtain ⟨cpu₁', hcycle', hbare⟩ := Action.exists_of_seen_ok hseen
      cases went with
      | false =>
        rw [cycles_of_halt hcycle, cycles_of_halt hcycle']
        exact ⟨rfl, rfl, hbare⟩
      | true =>
        have hbreak' := atBreakpoint_congr hbare
        cases hbreak : cpu₁.atBreakpoint with
        | true =>
          rw [cycles_of_breakpoint hcycle hbreak, cycles_of_breakpoint hcycle' (hbreak'.trans hbreak)]
          exact ⟨rfl, rfl, hbare⟩
        | false =>
          rw [cycles_of_next hcycle hbreak, cycles_of_next hcycle' (hbreak'.trans hbreak)]
          obtain ⟨hending, hcount, hfinal⟩ := ih hbare
          exact ⟨hending, congrArg Nat.succ hcount, hfinal⟩

theorem counts_cycles (n : Nat) (cpu : Cpu)
    : (cycles n cpu).count ≤ n
      ∧ (cycles n cpu).final.executed = cpu.executed + BitVec.ofNat 64 (cycles n cpu).count
      ∧ (cycles n cpu).final.pause = cpu.pause := by
  induction n generalizing cpu with
  | zero =>
    refine ⟨Nat.le_refl 0, ?_, rfl⟩
    exact (BitVec.add_zero cpu.executed).symm
  | succ n ih =>
    obtain ⟨hpause, hexecuted⟩ := counts_cycle cpu
    cases hcycle : cycle cpu with
    | error t cpu' =>
      rw [hcycle] at hpause hexecuted
      rw [cycles_of_error hcycle]
      refine ⟨Nat.zero_le _, ?_, hpause⟩
      exact hexecuted.trans (BitVec.add_zero cpu.executed).symm
    | ok went cpu' =>
      rw [hcycle] at hpause hexecuted
      cases went with
      | false =>
        rw [cycles_of_halt hcycle]
        refine ⟨Nat.zero_le _, ?_, hpause⟩
        exact hexecuted.trans (BitVec.add_zero cpu.executed).symm
      | true =>
        replace hexecuted : cpu'.executed = cpu.executed + 1 := hexecuted
        cases hbreak : cpu'.atBreakpoint with
        | true =>
          rw [cycles_of_breakpoint hcycle hbreak]
          exact ⟨Nat.succ_le_succ (Nat.zero_le n), hexecuted, hpause⟩
        | false =>
          rw [cycles_of_next hcycle hbreak]
          obtain ⟨hle, hcount, hsame⟩ := ih cpu'
          refine ⟨Nat.succ_le_succ hle, ?_, hsame.trans hpause⟩
          show (cycles n cpu').final.executed = cpu.executed + BitVec.ofNat 64 ((cycles n cpu').count + 1)
          rw [hcount, hexecuted, BitVec.ofNat_add, BitVec.add_assoc, BitVec.add_comm 1]
          rfl

/-! ### Runs -/

def Stretch.result (r : Stretch) : EStateM.Result Trap Cpu (Option Pause) :=
  match r.ending.outcome with
  | .error t => .error t r.final
  | .ok () => .ok r.ending.pause r.final

theorem Stretch.result_next (r : Stretch) : r.next.result = r.result := rfl

section Loop

variable {goesOn : Tripwire} {budget asked : Nat} {t : Trap}

theorem runLoop_of_stopped (h : goesOn asked cpu = false)
    : runLoop goesOn (budget + 1) asked cpu = .ok (some .tripwire) cpu := by
  unfold runLoop
  rw [Action.get_bind_apply, h]
  rfl

theorem runLoop_of_goesOn (h : goesOn asked cpu = true)
    : runLoop goesOn (budget + 1) asked cpu
        =
      (cycle >>= fun went =>
        if !went then return some .halt
        else do
          if (← get).atBreakpoint then
            return some .breakpoint
          runLoop goesOn budget (asked + 1) : Action (Option Pause)) cpu := by
  conv_lhs => unfold runLoop
  rw [Action.get_bind_apply, h]
  rfl

theorem runLoop_of_error (hgo : goesOn asked cpu = true) (h : cycle cpu = .error t cpu')
    : runLoop goesOn (budget + 1) asked cpu = .error t cpu' := by
  rw [runLoop_of_goesOn hgo]
  exact Action.bind_of_error h

theorem runLoop_of_halt (hgo : goesOn asked cpu = true) (h : cycle cpu = .ok false cpu')
    : runLoop goesOn (budget + 1) asked cpu = .ok (some .halt) cpu' := by
  rw [runLoop_of_goesOn hgo]
  exact Action.bind_of_ok h

theorem runLoop_of_ok (hgo : goesOn asked cpu = true) (h : cycle cpu = .ok true cpu')
    : runLoop goesOn (budget + 1) asked cpu
        =
      if cpu'.atBreakpoint then .ok (some .breakpoint) cpu' else runLoop goesOn budget (asked + 1) cpu' := by
  rw [runLoop_of_goesOn hgo, Action.bind_of_ok h]
  show (get >>= fun cpu =>
    if cpu.atBreakpoint then return some .breakpoint else _ : Action (Option Pause)) cpu' = _
  rw [Action.get_bind_apply]
  split <;> rfl

theorem runLoop_of_breakpoint (hgo : goesOn asked cpu = true) (h : cycle cpu = .ok true cpu')
    (hbreak : cpu'.atBreakpoint = true)
    : runLoop goesOn (budget + 1) asked cpu = .ok (some .breakpoint) cpu' := by
  rw [runLoop_of_ok hgo h]
  exact if_pos hbreak

theorem runLoop_of_next (hgo : goesOn asked cpu = true) (h : cycle cpu = .ok true cpu')
    (hbreak : cpu'.atBreakpoint = false)
    : runLoop goesOn (budget + 1) asked cpu = runLoop goesOn budget (asked + 1) cpu' := by
  rw [runLoop_of_ok hgo h]
  exact if_neg (Bool.eq_false_iff.mp hbreak)

/-- A limit that is not used up leaves as many cycles as the counter says. -/
theorem runLoop_eq (asked : Nat) {limit : Nat} (hlimit : limit < Bits.bound 64) {start : BitVec 64}
    (hleft : (cpu.executed - start).toNat + n = limit)
    : runLoop (fun _ cpu => decide ((cpu.executed - start).toNat < limit)) (n + 1) asked cpu
        =
      (cycles n cpu).result := by
  -- With each instruction that is executed, the limit comes nearer by one.
  induction n generalizing cpu asked with
  | zero =>
    apply runLoop_of_stopped
    apply decide_eq_false
    omega
  | succ n ih =>
    have hgo : decide ((cpu.executed - start).toNat < limit) = true := decide_eq_true (by omega)
    have hexecuted := (counts_cycle cpu).2
    cases hcycle : cycle cpu with
    | error t cpu' =>
      rw [runLoop_of_error hgo hcycle, cycles_of_error hcycle]
      rfl
    | ok went cpu' =>
      cases went with
      | false =>
        rw [runLoop_of_halt hgo hcycle, cycles_of_halt hcycle]
        rfl
      | true =>
        cases hbreak : cpu'.atBreakpoint with
        | true =>
          rw [runLoop_of_breakpoint hgo hcycle hbreak, cycles_of_breakpoint hcycle hbreak]
          rfl
        | false =>
          rw [runLoop_of_next hgo hcycle hbreak, cycles_of_next hcycle hbreak, Stretch.result_next]
          apply ih
          rw [hcycle] at hexecuted
          replace hexecuted : cpu'.executed = cpu.executed + 1 := hexecuted
          rw [hexecuted]
          replace hlimit : limit < 2 ^ 64 := hlimit
          bv_omega

theorem runWhile_of_error (h : runLoop goesOn budget 0 cpu.bare = .error t cpu')
    : runWhile goesOn budget cpu = .error t cpu' := by
  show (runLoop goesOn budget 0 >>= fun pause =>
    modify fun cpu => { cpu with pause } : Action Unit) cpu.bare = _
  exact Action.bind_of_error h

theorem runWhile_of_ok {pause : Option Pause} (h : runLoop goesOn budget 0 cpu.bare = .ok pause cpu')
    : runWhile goesOn budget cpu = .ok () { cpu' with pause } := by
  show (runLoop goesOn budget 0 >>= fun pause =>
    modify fun cpu => { cpu with pause } : Action Unit) cpu.bare = _
  exact Action.bind_of_ok h

end Loop

theorem runWithLimit_eq (hn : n < Bits.bound 64) (cpu : Cpu)
    : runWithLimit n cpu
        =
      match (cycles n cpu.bare).ending.outcome with
      | .error t => .error t (cycles n cpu.bare).final
      | .ok () => .ok () { (cycles n cpu.bare).final with pause := (cycles n cpu.bare).ending.pause } := by
  have hleft : (cpu.bare.executed - cpu.executed).toNat + n = n := by
    show (cpu.executed - cpu.executed).toNat + n = n
    rw [BitVec.sub_self]
    exact Nat.zero_add n
  have hloop := runLoop_eq 0 hn hleft
  unfold Stretch.result at hloop
  cases houtcome : (cycles n cpu.bare).ending.outcome with
  | error t =>
    rw [houtcome] at hloop
    exact runWhile_of_error hloop
  | ok u =>
    rw [houtcome] at hloop
    exact runWhile_of_ok hloop

/-- A run has come to the end of a row of cycles, whatever its log. -/
structure Performs (run : EStateM.Result Trap Cpu Unit) (r : Stretch) : Prop where
  outcome : Action.outcome run = r.ending.outcome
  pause : (Action.final run).pause = r.ending.pause
  bare : (Action.final run).bare = r.final.bare

theorem performs_runWithLimit (hn : n < Bits.bound 64) (cpu : Cpu) : Performs (runWithLimit n cpu) (cycles n cpu) := by
  obtain ⟨hending, -, hfinal⟩ := cycles_congr n (show cpu.bare.bare = cpu.bare from rfl)
  have hpause : (cycles n cpu.bare).final.pause = none := (counts_cycles n cpu.bare).2.2
  rw [runWithLimit_eq hn, hending]
  cases houtcome : (cycles n cpu).ending.outcome with
  | error t =>
    constructor
    case outcome => exact houtcome.symm
    case pause =>
      rw [Ending.pause_of_outcome_error houtcome]
      exact hpause
    case bare => exact hfinal
  | ok u =>
    constructor
    case outcome => exact houtcome.symm
    case pause => rfl
    case bare => exact hfinal

/--
A run with a limit does what as many cycles do one after the other, up to the first that halts, fails or comes to
a breakpoint. If only the limit has stopped it, a second run does what is left of a single one.
-/
theorem runWithLimit_performs_and_add (cpu : Cpu) (h : m + n < Bits.bound 64)
    : Performs (runWithLimit n cpu) (cycles n cpu)
      ∧ (cycles n cpu).count ≤ n
      ∧ (cycles n cpu).final.executed = cpu.executed + BitVec.ofNat 64 (cycles n cpu).count
      ∧ ∀ cpu', runWithLimit m cpu = .ok () cpu' → cpu'.pause ≠ some .halt → cpu'.pause ≠ some .breakpoint →
          seen bare (runWithLimit n cpu') = seen bare (runWithLimit (m + n) cpu)
            ∧ (Action.final (runWithLimit n cpu')).pause = (Action.final (runWithLimit (m + n) cpu)).pause := by
  have hm : m < Bits.bound 64 := by omega
  have hn : n < Bits.bound 64 := by omega
  obtain ⟨hcount, hexecuted, -⟩ := counts_cycles n cpu
  refine ⟨performs_runWithLimit hn cpu, hcount, hexecuted, ?_⟩
  intro cpu' hrun hhalt hbreak
  obtain ⟨houtcome, hpause, hsame⟩ := performs_runWithLimit hm cpu
  rw [hrun] at houtcome hpause hsame
  -- Of all that can end the first row, the hypotheses leave its limit only.
  have hlimit : (cycles m cpu).ending = .limit := by
    cases hending : (cycles m cpu).ending with
    | limit => rfl
    | halt => exact absurd (hpause.trans (by rw [hending]; rfl)) hhalt
    | breakpoint => exact absurd (hpause.trans (by rw [hending]; rfl)) hbreak
    | failure t =>
      rw [hending] at houtcome
      cases houtcome
  have hwhole := performs_runWithLimit h cpu
  have hrest := performs_runWithLimit hn cpu'
  obtain ⟨hending, hfinal⟩ := cycles_add m n cpu hlimit
  replace hsame : cpu'.bare = (cycles m cpu).final.bare := hsame
  obtain ⟨hending', -, hfinal'⟩ := cycles_congr n hsame
  have hendings : (cycles n cpu').ending = (cycles (m + n) cpu).ending := hending'.trans hending.symm
  constructor
  . apply Prod.ext
    . show Action.outcome (runWithLimit n cpu') = Action.outcome (runWithLimit (m + n) cpu)
      rw [hrest.outcome, hwhole.outcome, hendings]
    . show (Action.final (runWithLimit n cpu')).bare = (Action.final (runWithLimit (m + n) cpu)).bare
      rw [hrest.bare, hwhole.bare, hfinal', hfinal]
  . rw [hrest.pause, hwhole.pause, hendings]

def pausing : Cpu :=
  loaded .standard .zero [⟨.nop, .absent, .absent⟩, ⟨.nop, .absent, .absent⟩, ⟨.nop, .absent, .absent⟩]

theorem runWithLimit_performs_and_add_pausing
    : 2 + 5 < Bits.bound 64
      ∧ ∃ cpu', runWithLimit 2 pausing = .ok () cpu'
        ∧ cpu'.pause = some .tripwire
        ∧ seen bare (runWithLimit 5 cpu') = seen bare (runWithLimit (2 + 5) pausing)
        ∧ (Action.final (runWithLimit 5 cpu')).pause = some .halt := by
  obtain ⟨hrun, hpause, hhalt⟩
      : Action.outcome (runWithLimit 2 pausing) = .ok ()
        ∧ (Action.final (runWithLimit 2 pausing)).pause = some .tripwire
        ∧ (Action.final (runWithLimit (2 + 5) pausing)).pause = some .halt := by
    decide +kernel
  obtain ⟨-, -, -, hadd⟩ := runWithLimit_performs_and_add pausing (m := 2) (n := 5) (by decide)
  obtain ⟨hseen, hsame⟩ := hadd _ (Action.eq_ok_of_outcome hrun) (by rw [hpause]; decide) (by rw [hpause]; decide)
  exact ⟨by decide, _, Action.eq_ok_of_outcome hrun, hpause, hseen, hsame.trans hhalt⟩

end Cpu

end Triword
