import Triword.Proofs.Cpu.Accounting

/-!
The rows of cycles that a loop makes. What a row is depends on the tripwire and on the machine alone; the budget of
the loop only decides whether the loop comes to the end of it. From this follows where the steps of a debugger end
that go over a call or out of it.
-/

namespace Triword

namespace Cpu

variable {cpu after : Cpu} {goesOn : Tripwire} {budget asked n : Nat} {r r' : Stretch}

/-! ### Rows under a tripwire -/

/-- The row of cycles that are made as long as the tripwire says so. -/
inductive Course (goesOn : Tripwire) : (asked : Nat) → Cpu → Stretch → Prop where
  | stopped {asked : Nat} {cpu : Cpu} (hgo : goesOn asked cpu = false) : Course goesOn asked cpu ⟨.limit, 0, cpu⟩
  | failed {asked : Nat} {cpu cpu' : Cpu} {t : Trap} (hgo : goesOn asked cpu = true)
      (hcycle : cycle cpu = .error t cpu') : Course goesOn asked cpu ⟨.failure t, 0, cpu'⟩
  | halted {asked : Nat} {cpu cpu' : Cpu} (hgo : goesOn asked cpu = true) (hcycle : cycle cpu = .ok false cpu')
      : Course goesOn asked cpu ⟨.halt, 0, cpu'⟩
  | paused {asked : Nat} {cpu cpu' : Cpu} (hgo : goesOn asked cpu = true) (hcycle : cycle cpu = .ok true cpu')
      (hbreak : cpu'.atBreakpoint = true) : Course goesOn asked cpu ⟨.breakpoint, 1, cpu'⟩
  | next {asked : Nat} {cpu cpu' : Cpu} {r : Stretch} (hgo : goesOn asked cpu = true)
      (hcycle : cycle cpu = .ok true cpu') (hbreak : cpu'.atBreakpoint = false)
      (hrest : Course goesOn (asked + 1) cpu' r) : Course goesOn asked cpu r.next

namespace Course

theorem det (h : Course goesOn asked cpu r) (h' : Course goesOn asked cpu r') : r = r' := by
  -- What is asked first and what the first cycle gives leave one constructor for both.
  induction h generalizing r' with
  | stopped hgo => cases h' <;> simp_all
  | failed hgo hcycle => cases h' <;> simp_all
  | halted hgo hcycle => cases h' <;> simp_all
  | paused hgo hcycle hbreak => cases h' <;> simp_all
  | next hgo hcycle hbreak _ ih =>
    cases h' with
    | next _ hcycle' _ hrest' =>
      cases hcycle.symm.trans hcycle'
      rw [ih hrest']
    | stopped | failed | halted | paused => simp_all

theorem executed_of_lt (h : Course goesOn asked cpu r) {k : Nat} (hk : k < r.count)
    : goesOn (asked + k) (cpu.afterCycles k) = true
      ∧ Action.outcome (cycle (cpu.afterCycles k)) = .ok true := by
  induction h generalizing k with
  | stopped _ | failed _ _ | halted _ _ => cases hk
  | paused hgo hcycle _ =>
    cases Nat.lt_one_iff.mp hk
    exact ⟨hgo, congrArg Action.outcome hcycle⟩
  | @next asked cpu cpu' r hgo hcycle _ _ ih =>
    cases k with
    | zero => exact ⟨hgo, congrArg Action.outcome hcycle⟩
    | succ k =>
      have hrest := ih (Nat.lt_of_succ_lt_succ hk)
      have hfirst : cpu'.afterCycles k = cpu.afterCycles (k + 1) := by
        rw [← afterCycles_final_cycle, hcycle]
        rfl
      rw [hfirst, Nat.add_right_comm] at hrest
      exact hrest

theorem final_of_limit (h : Course goesOn asked cpu r) (hlimit : r.ending = .limit)
    : r.final = cpu.afterCycles r.count ∧ goesOn (asked + r.count) r.final = false := by
  induction h with
  | stopped hgo => exact ⟨rfl, hgo⟩
  | failed _ _ | halted _ _ | paused _ _ _ => cases hlimit
  | @next asked cpu cpu' r _ hcycle _ _ ih =>
    obtain ⟨hfinal, hgo⟩ := ih hlimit
    constructor
    . show r.final = cpu.afterCycles (r.count + 1)
      rw [hfinal, ← afterCycles_final_cycle, hcycle]
      rfl
    . rw [Nat.add_right_comm] at hgo
      exact hgo

theorem runLoop_eq (h : Course goesOn asked cpu r) (hbudget : r.count ≤ budget)
    : runLoop goesOn (budget + 1) asked cpu = r.result := by
  induction h generalizing budget with
  | stopped hgo => exact runLoop_of_stopped hgo
  | failed hgo hcycle => exact runLoop_of_error hgo hcycle
  | halted hgo hcycle => exact runLoop_of_halt hgo hcycle
  | paused hgo hcycle hbreak => exact runLoop_of_breakpoint hgo hcycle hbreak
  | @next asked cpu cpu' r hgo hcycle hbreak _ ih =>
    cases budget with
    | zero => exact absurd hbudget (Nat.not_succ_le_zero r.count)
    | succ budget =>
      rw [runLoop_of_next hgo hcycle hbreak, Stretch.result_next]
      exact ih (Nat.le_of_succ_le_succ hbudget)

end Course

/-- A loop comes to the end of its row, unless its budget is used up before. -/
theorem exists_course (goesOn : Tripwire) (budget asked : Nat) (cpu : Cpu)
    : Action.outcome (runLoop goesOn budget asked cpu) = .ok none
      ∨ ∃ r, Course goesOn asked cpu r ∧ runLoop goesOn budget asked cpu = r.result := by
  induction budget generalizing asked cpu with
  | zero => exact .inl rfl
  | succ budget ih =>
    cases hgo : goesOn asked cpu with
    | false => exact .inr ⟨_, .stopped hgo, runLoop_of_stopped hgo⟩
    | true =>
      cases hcycle : cycle cpu with
      | error t cpu' => exact .inr ⟨_, .failed hgo hcycle, runLoop_of_error hgo hcycle⟩
      | ok went cpu' =>
        cases went with
        | false => exact .inr ⟨_, .halted hgo hcycle, runLoop_of_halt hgo hcycle⟩
        | true =>
          cases hbreak : cpu'.atBreakpoint with
          | true => exact .inr ⟨_, .paused hgo hcycle hbreak, runLoop_of_breakpoint hgo hcycle hbreak⟩
          | false =>
            rw [runLoop_of_next hgo hcycle hbreak]
            apply (ih (asked + 1) cpu').imp_right
            rintro ⟨r, hrest, hloop⟩
            exact ⟨r.next, hrest.next hgo hcycle hbreak, hloop⟩

/-! ### Runs -/

theorem afterCycles_pause (cpu : Cpu) (n : Nat) : (cpu.afterCycles n).pause = cpu.pause := by
  induction n with
  | zero => rfl
  | succ n ih => exact (counts_cycle _).1.trans ih

theorem performs_of_runLoop (h : runLoop goesOn budget 0 cpu.bare = r.result)
    : Performs (runWhile goesOn budget cpu) r := by
  obtain ⟨n, hfinal, -⟩ := exists_final_runLoop goesOn budget 0 cpu.bare
  rw [h] at hfinal
  unfold Stretch.result at h hfinal
  cases houtcome : r.ending.outcome with
  | error t =>
    rw [houtcome] at h hfinal
    rw [runWhile_of_error h]
    constructor
    case outcome => exact houtcome.symm
    case pause =>
      rw [Ending.pause_of_outcome_error houtcome]
      exact (congrArg pause hfinal).trans (afterCycles_pause cpu.bare n)
    case bare => rfl
  | ok u =>
    rw [houtcome] at h
    rw [runWhile_of_ok h]
    constructor
    case outcome => exact houtcome.symm
    case pause => rfl
    case bare => rfl

theorem Course.performs (h : Course goesOn 0 cpu.bare r) (hbudget : r.count ≤ budget)
    : Performs (runWhile goesOn (budget + 1) cpu) r :=
  performs_of_runLoop (h.runLoop_eq hbudget)

theorem exists_course_of_runWhile (goesOn : Tripwire) (budget : Nat) (cpu : Cpu)
    (h : Action.outcome (runWhile goesOn budget cpu) = .ok () →
      (Action.final (runWhile goesOn budget cpu)).pause ≠ none)
    : ∃ r, Course goesOn 0 cpu.bare r ∧ Performs (runWhile goesOn budget cpu) r := by
  obtain hnone | ⟨r, hcourse, hloop⟩ := exists_course goesOn budget 0 cpu.bare
  . rw [runWhile_of_ok (Action.eq_ok_of_outcome hnone)] at h
    exact absurd rfl (h rfl)
  . exact ⟨r, hcourse, performs_of_runLoop hloop⟩

/-! ### Steps -/

/-- The machine has come to the second one by executing so many instructions, whatever its log. -/
structure Executes (cpu after : Cpu) (n : Nat) : Prop where
  executed : ∀ k < n, Action.outcome (cycle (cpu.afterCycles k)) = .ok true
  counted : after.executed = cpu.executed + BitVec.ofNat 64 n
  bare : after.bare = (cpu.afterCycles n).bare

theorem executed_afterCycles (h : ∀ k < n, Action.outcome (cycle (cpu.afterCycles k)) = .ok true)
    : (cpu.afterCycles n).executed = cpu.executed + BitVec.ofNat 64 n := by
  induction n with
  | zero => exact (BitVec.add_zero cpu.executed).symm
  | succ n ih =>
    have hcount := (counts_cycle (cpu.afterCycles n)).2
    rw [if_pos (h n (Nat.lt_succ_self n)), ih fun k hk => h k (Nat.lt_succ_of_lt hk)] at hcount
    rw [BitVec.ofNat_add, ← BitVec.add_assoc]
    exact hcount

theorem bare_afterCycles_bare (cpu : Cpu) (n : Nat) : (cpu.bare.afterCycles n).bare = (cpu.afterCycles n).bare :=
  bare_afterCycles (show cpu.bare.bare = cpu.bare from rfl) n

theorem Course.executes_of_limit (h : Course goesOn 0 cpu.bare r) (hlimit : r.ending = .limit)
    (hafter : after.bare = r.final.bare) : cpu.Executes after r.count := by
  have hexecuted : ∀ k < r.count, Action.outcome (cycle (cpu.afterCycles k)) = .ok true := by
    intro k hk
    rw [← (h.executed_of_lt hk).2]
    exact congrArg Prod.fst (respects_cycle _ _ (bare_afterCycles_bare cpu k).symm)
  have hbare : after.bare = (cpu.afterCycles r.count).bare := by
    rw [hafter, (h.final_of_limit hlimit).1]
    exact bare_afterCycles_bare cpu r.count
  refine ⟨hexecuted, ?_, hbare⟩
  rw [← executed_afterCycles hexecuted]
  exact executed_congr hbare

/-- A loop that looks at the depth alone, once it has made a cycle, stops at the first depth that it does not want. -/
theorem exists_executes_of_runWhile (wants : Nat → Bool)
    (h : runWhile (fun asked cpu' => asked == 0 || wants cpu'.frames.depth) budget cpu = .ok () after)
    (hpause : after.pause = some .tripwire)
    : ∃ n, 0 < n ∧ cpu.Executes after n
        ∧ wants after.frames.depth = false
        ∧ ∀ k, 0 < k → k < n → wants (cpu.afterCycles k).frames.depth = true := by
  have hdone := exists_course_of_runWhile (fun asked cpu' => asked == 0 || wants cpu'.frames.depth) budget cpu
  rw [h] at hdone
  obtain ⟨r, hcourse, hperforms⟩ := hdone fun _ hnone => by cases hpause.symm.trans hnone
  have hlimit := Ending.pause_eq_tripwire_iff.mp (hperforms.pause.symm.trans hpause)
  have hstop := Bool.or_eq_false_iff.mp (hcourse.final_of_limit hlimit).2
  refine ⟨r.count, ?pos, hcourse.executes_of_limit hlimit hperforms.bare, ?last, ?between⟩
  case pos =>
    apply Nat.pos_of_ne_zero
    simpa using hstop.1
  case last =>
    have hframes : after.frames = r.final.frames := frames_congr hperforms.bare
    rw [hframes]
    exact hstop.2
  case between =>
    intro k hpos hk
    -- The tripwire goes on without a look at the depth only when it is asked first.
    obtain hzero | hwants := (Bool.or_eq_true_iff.mp (hcourse.executed_of_lt hk).1)
    . have : 0 + k = 0 := beq_iff_eq.mp hzero
      omega
    . rw [← frames_congr (bare_afterCycles_bare cpu k)]
      exact hwants

theorem eq_tripwire_of_ne {pause : Option Pause} (hnone : pause ≠ none) (hhalt : pause ≠ some .halt)
    (hbreak : pause ≠ some .breakpoint) : pause = some .tripwire := by
  cases pause with
  | none => exact absurd rfl hnone
  | some p =>
    cases p with
    | halt => exact absurd rfl hhalt
    | breakpoint => exact absurd rfl hbreak
    | tripwire => rfl

/--
A step over a call ends after the first instruction that leaves no more calls pending than there were, a step out of
one after the first that leaves fewer. Both suppose that the budget has sufficed and that neither a halt nor a
breakpoint has come in between.
-/
theorem depth_of_stepOver_and_stepOut (budget : Nat) (cpu after : Cpu) (hend : after.pause ≠ none)
    (hhalt : after.pause ≠ some .halt) (hbreak : after.pause ≠ some .breakpoint)
    : (stepOver budget cpu = .ok () after →
        ∃ n, 0 < n ∧ cpu.Executes after n
          ∧ after.frames.depth ≤ cpu.frames.depth
          ∧ ∀ k, 0 < k → k < n → cpu.frames.depth < (cpu.afterCycles k).frames.depth)
      ∧ (cpu.frames.depth ≠ 0 → stepOut budget cpu = .ok () after →
        ∃ n, 0 < n ∧ cpu.Executes after n
          ∧ after.frames.depth < cpu.frames.depth
          ∧ ∀ k, k < n → cpu.frames.depth ≤ (cpu.afterCycles k).frames.depth) := by
  have hpause := eq_tripwire_of_ne hend hhalt hbreak
  constructor
  . intro h
    obtain ⟨n, hpos, hexecutes, hlast, hbetween⟩ :=
      exists_executes_of_runWhile (fun depth => decide (cpu.frames.depth < depth)) h hpause
    refine ⟨n, hpos, hexecutes, Nat.le_of_not_lt (of_decide_eq_false hlast), ?_⟩
    intro k hk hlt
    exact of_decide_eq_true (hbetween k hk hlt)
  . intro hdepth h
    rw [stepOut_of_depth hdepth] at h
    obtain ⟨n, hpos, hexecutes, hlast, hbetween⟩ :=
      exists_executes_of_runWhile (fun depth => decide (cpu.frames.depth ≤ depth)) h hpause
    refine ⟨n, hpos, hexecutes, Nat.lt_of_not_le (of_decide_eq_false hlast), ?_⟩
    intro k hlt
    cases k with
    | zero => exact Nat.le_refl cpu.frames.depth
    | succ k => exact of_decide_eq_true (hbetween (k + 1) (Nat.succ_pos k) hlt)

/-- A program that calls a subroutine of two moves, at an address that a label stands for. -/
def calling : Cpu :=
  loaded .standard .zero
    [⟨.call, ⟨.label, .direct, 24⟩, .absent⟩, ⟨.nop, .absent, .absent⟩,
      ⟨.mov, ⟨.immediate, .direct, 1⟩, ⟨.register, .direct, Register.eax.code⟩⟩,
      ⟨.mov, ⟨.immediate, .direct, 2⟩, ⟨.register, .direct, Register.ebx.code⟩⟩, ⟨.ret, .absent, .absent⟩]

/-- A step over the call and one out of it, from its first instruction, both come to the instruction after it. -/
theorem depth_of_stepOver_and_stepOut_calling
    : (∃ after, stepOver 9 calling = .ok () after
          ∧ after.pause ≠ none ∧ after.pause ≠ some .halt ∧ after.pause ≠ some .breakpoint
          ∧ after.regs.eip = ⟨12⟩
          ∧ ∃ n, 0 < n ∧ calling.Executes after n
            ∧ after.frames.depth ≤ 0
            ∧ ∀ k, 0 < k → k < n → 0 < (calling.afterCycles k).frames.depth)
        ∧ ∃ after, stepOut 9 (calling.afterCycles 1) = .ok () after
          ∧ after.pause ≠ none ∧ after.pause ≠ some .halt ∧ after.pause ≠ some .breakpoint
          ∧ after.regs.eip = ⟨12⟩
          ∧ ∃ n, 0 < n ∧ (calling.afterCycles 1).Executes after n
            ∧ after.frames.depth < 1
            ∧ ∀ k, k < n → 1 ≤ ((calling.afterCycles 1).afterCycles k).frames.depth := by
  obtain ⟨hover, ⟨hend, hhalt, hbreak⟩, heip, hout, ⟨hend', hhalt', hbreak'⟩, heip', hstart, hinside⟩
      : Action.outcome (stepOver 9 calling) = .ok ()
        ∧ ((Action.final (stepOver 9 calling)).pause ≠ none
          ∧ (Action.final (stepOver 9 calling)).pause ≠ some .halt
          ∧ (Action.final (stepOver 9 calling)).pause ≠ some .breakpoint)
        ∧ (Action.final (stepOver 9 calling)).regs.eip = ⟨12⟩
        ∧ Action.outcome (stepOut 9 (calling.afterCycles 1)) = .ok ()
        ∧ ((Action.final (stepOut 9 (calling.afterCycles 1))).pause ≠ none
          ∧ (Action.final (stepOut 9 (calling.afterCycles 1))).pause ≠ some .halt
          ∧ (Action.final (stepOut 9 (calling.afterCycles 1))).pause ≠ some .breakpoint)
        ∧ (Action.final (stepOut 9 (calling.afterCycles 1))).regs.eip = ⟨12⟩
        ∧ calling.frames.depth = 0
        ∧ (calling.afterCycles 1).frames.depth = 1 := by
    decide +kernel
  constructor
  . obtain ⟨hsteps, -⟩ := depth_of_stepOver_and_stepOut 9 calling _ hend hhalt hbreak
    rw [hstart] at hsteps
    have hok := Action.eq_ok_of_outcome hover
    exact ⟨_, hok, hend, hhalt, hbreak, heip, hsteps hok⟩
  . obtain ⟨-, hsteps⟩ := depth_of_stepOver_and_stepOut 9 (calling.afterCycles 1) _ hend' hhalt' hbreak'
    rw [hinside] at hsteps
    have hok := Action.eq_ok_of_outcome hout
    exact ⟨_, hok, hend', hhalt', hbreak', heip', hsteps Nat.one_ne_zero hok⟩

end Cpu

end Triword
