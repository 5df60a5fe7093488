import Triword.Proofs.Cpu.Course

/-!
What the reason for a pause says about the last call. It is that call's own if the call went through a loop. A single
step, and a step out of no call, leave the reason that was there, so that it says what an earlier call has done.
-/

namespace Triword

namespace Cpu

variable {cpu after : Cpu} {goesOn : Tripwire} {call : Call} {r r' : Stretch}

/-! ### The cycles that a call makes -/

def single (cpu : Cpu) : Stretch :=
  match cycle cpu with
  | .error t cpu' => ⟨.failure t, 0, cpu'⟩
  | .ok false cpu' => ⟨.halt, 0, cpu'⟩
  | .ok true cpu' => ⟨.limit, 1, cpu'⟩

theorem single_of_error {t : Trap} (h : cycle cpu = .error t after) : single cpu = ⟨.failure t, 0, after⟩ := by
  unfold single
  rw [h]

theorem single_of_halt (h : cycle cpu = .ok false after) : single cpu = ⟨.halt, 0, after⟩ := by
  unfold single
  rw [h]

theorem single_of_ok (h : cycle cpu = .ok true after) : single cpu = ⟨.limit, 1, after⟩ := by
  unfold single
  rw [h]

theorem single_ending_ne_breakpoint (cpu : Cpu) : (single cpu).ending ≠ .breakpoint := by
  unfold single
  split <;> exact nofun

theorem stepIn_performs (cpu : Cpu)
    : Action.outcome (stepIn cpu) = (single cpu.bare).ending.outcome
      ∧ (Action.final (stepIn cpu)).bare = (single cpu.bare).final.bare
      ∧ (Action.final (stepIn cpu)).pause = cpu.pause := by
  have hpause := (counts_cycle (cpu.withLog .empty)).1
  have hseen := respects_cycle (cpu.withLog .empty) cpu.bare rfl
  cases hcycle : cycle (cpu.withLog .empty) with
  | error t cpu₁ =>
    rw [hcycle] at hpause hseen
    obtain ⟨cpu₁', hcycle', hbare⟩ := Action.exists_of_seen_error hseen
    rw [stepIn_of_error hcycle, single_of_error hcycle']
    exact ⟨rfl, hbare, hpause⟩
  | ok went cpu₁ =>
    rw [hcycle] at hpause hseen
    obtain ⟨cpu₁', hcycle', hbare⟩ := Action.exists_of_seen_ok hseen
    rw [stepIn_of_ok hcycle]
    cases went with
    | false =>
      rw [single_of_halt hcycle']
      exact ⟨rfl, hbare, hpause⟩
    | true =>
      rw [single_of_ok hcycle']
      exact ⟨rfl, hbare, hpause⟩

namespace Call

def tripwire? (cpu : Cpu) : Call → Option Tripwire
  | run _ => some fun _ _ => true
  | runWithLimit limit => some fun _ cpu' => decide ((cpu'.executed - cpu.executed).toNat < limit)
  | stepIn => none
  | stepOver _ => some fun asked cpu' => asked == 0 || decide (cpu.frames.depth < cpu'.frames.depth)
  | stepOut _ =>
    if cpu.frames.depth ≠ 0 then
      some fun asked cpu' => asked == 0 || decide (cpu.frames.depth ≤ cpu'.frames.depth)
    else none

def budget : Call → Nat
  | run budget | stepOver budget | stepOut budget => budget
  | runWithLimit limit => limit + 1
  | stepIn => 0

def Loops (call : Call) (cpu : Cpu) : Prop :=
  (call.tripwire? cpu).isSome

instance : Decidable (call.Loops cpu) :=
  inferInstanceAs (Decidable ((call.tripwire? cpu).isSome = true))

theorem action_eq_runWhile (h : call.tripwire? cpu = some goesOn)
    : call.action cpu = runWhile goesOn call.budget cpu := by
  cases call with
  | run budget =>
    cases h
    rfl
  | runWithLimit limit =>
    cases h
    rfl
  | stepIn => cases h
  | stepOver budget =>
    cases h
    rfl
  | stepOut budget =>
    by_cases hdepth : cpu.frames.depth ≠ 0
    . cases (if_pos hdepth).symm.trans h
      exact stepOut_of_depth hdepth budget
    . cases (if_neg hdepth).symm.trans h

theorem tripwire?_stepOut (h : cpu.frames.depth = 0) (budget : Nat) : (stepOut budget).tripwire? cpu = none :=
  if_neg (not_not.mpr h)

/-- The row of cycles that the call makes if its budget suffices. -/
inductive Makes (cpu : Cpu) : Call → Stretch → Prop where
  | loop {call : Call} {goesOn : Tripwire} {r : Stretch} (htripwire : call.tripwire? cpu = some goesOn)
      (hcourse : Course goesOn 0 cpu.bare r) : Makes cpu call r
  | stepIn : Makes cpu stepIn (single cpu.bare)
  | nothing {budget : Nat} (hdepth : cpu.frames.depth = 0) : Makes cpu (stepOut budget) ⟨.limit, 0, cpu⟩

theorem Makes.det (h : call.Makes cpu r) (h' : call.Makes cpu r') : r = r' := by
  cases h with
  | loop htripwire hcourse =>
    cases h' with
    | loop htripwire' hcourse' =>
      cases htripwire.symm.trans htripwire'
      exact hcourse.det hcourse'
    | stepIn => cases htripwire
    | nothing hdepth => cases htripwire.symm.trans (tripwire?_stepOut hdepth _)
  | stepIn =>
    cases h' with
    | loop htripwire' _ => cases htripwire'
    | stepIn => rfl
  | nothing hdepth =>
    cases h' with
    | loop htripwire' _ => cases htripwire'.symm.trans (tripwire?_stepOut hdepth _)
    | nothing _ => rfl

/-- A call that comes to its end has made its row. Only if it went through a loop does it say why it has paused. -/
theorem exists_makes (call : Call) (cpu : Cpu)
    (hend : call.Loops cpu → Action.outcome (call.action cpu) = .ok () →
      (Action.final (call.action cpu)).pause ≠ none)
    : ∃ r, call.Makes cpu r
        ∧ Action.outcome (call.action cpu) = r.ending.outcome
        ∧ (Action.final (call.action cpu)).bare = r.final.bare
        ∧ (Action.final (call.action cpu)).pause = if call.Loops cpu then r.ending.pause else cpu.pause := by
  by_cases hloops : call.Loops cpu
  . obtain ⟨goesOn, htripwire⟩ := Option.isSome_iff_exists.mp hloops
    replace hend := hend hloops
    rw [action_eq_runWhile htripwire] at hend ⊢
    obtain ⟨r, hcourse, hperforms⟩ := exists_course_of_runWhile goesOn call.budget cpu hend
    refine ⟨r, .loop htripwire hcourse, hperforms.outcome, hperforms.bare, ?_⟩
    exact hperforms.pause.trans (if_pos hloops).symm
  . cases call with
    | run budget | runWithLimit limit | stepOver budget => exact absurd rfl hloops
    | stepIn =>
      obtain ⟨houtcome, hbare, hpause⟩ := stepIn_performs cpu
      exact ⟨single cpu.bare, .stepIn, houtcome, hbare, hpause.trans (if_neg hloops).symm⟩
    | stepOut budget =>
      have hdepth : cpu.frames.depth = 0 := by
        apply not_not.mp
        intro hne
        exact hloops (congrArg Option.isSome (if_pos hne))
      have hrun : (stepOut budget).action cpu = .ok () cpu := stepOut_of_no_depth hdepth budget
      refine ⟨_, .nothing hdepth, ?_⟩
      rw [hrun]
      exact ⟨rfl, rfl, (if_neg hloops).symm⟩

/-! ### Reasons to pause -/

def FetchesHalt (call : Call) (cpu : Cpu) : Prop :=
  ∃ r, call.Makes cpu r ∧ r.ending = .halt

def StopsAtBreakpoint (call : Call) (cpu : Cpu) : Prop :=
  ∃ r, call.Makes cpu r ∧ r.ending = .breakpoint

/-- The reason to pause is that of the call. -/
structure Faithful (call : Call) (cpu after : Cpu) : Prop where
  halt : after.pause = some .halt ↔ call.FetchesHalt cpu
  breakpoint : after.pause = some .breakpoint ↔ call.StopsAtBreakpoint cpu

theorem Makes.fetchesHalt_iff (h : call.Makes cpu r) : call.FetchesHalt cpu ↔ r.ending = .halt := by
  constructor
  . rintro ⟨r', h', hhalt⟩
    rw [h.det h']
    exact hhalt
  . intro hhalt
    exact ⟨r, h, hhalt⟩

theorem Makes.stopsAtBreakpoint_iff (h : call.Makes cpu r) : call.StopsAtBreakpoint cpu ↔ r.ending = .breakpoint := by
  constructor
  . rintro ⟨r', h', hbreak⟩
    rw [h.det h']
    exact hbreak
  . intro hbreak
    exact ⟨r, h, hbreak⟩

theorem fetchesHalt_stepIn_iff : stepIn.FetchesHalt cpu ↔ Action.outcome (cycle cpu) = .ok false := by
  have houtcome : Action.outcome (cycle cpu) = Action.outcome (cycle cpu.bare) :=
    congrArg Prod.fst (respects_cycle cpu cpu.bare rfl)
  rw [Makes.stepIn.fetchesHalt_iff, houtcome]
  cases hcycle : cycle cpu.bare with
  | error t cpu' =>
    rw [single_of_error hcycle]
    exact iff_of_false nofun nofun
  | ok went cpu' =>
    cases went with
    | false =>
      rw [single_of_halt hcycle]
      exact iff_of_true rfl rfl
    | true =>
      rw [single_of_ok hcycle]
      exact iff_of_false nofun nofun

theorem Makes.ending_ne_breakpoint (h : call.Makes cpu r) (hloops : ¬call.Loops cpu) : r.ending ≠ .breakpoint := by
  cases h with
  | loop htripwire _ => exact absurd (congrArg Option.isSome htripwire) hloops
  | stepIn => exact single_ending_ne_breakpoint cpu.bare
  | nothing _ => exact nofun

/--
The reason to pause is that of a call that went through a loop. Of another call it is so only if the reason that was
there already happens to be right.
-/
theorem faithful_iff (h : call.action cpu = .ok () after) (hend : call.Loops cpu → after.pause ≠ none)
    : call.Faithful cpu after
        ↔
      call.Loops cpu
        ∨ (cpu.pause = some .halt ↔ call.FetchesHalt cpu) ∧ cpu.pause ≠ some .breakpoint := by
  have hmakes := exists_makes call cpu
  rw [h] at hmakes
  obtain ⟨r, hmakes, -, -, hpause⟩ := hmakes fun hloops _ => hend hloops
  replace hpause : after.pause = _ := hpause
  by_cases hloops : call.Loops cpu
  . rw [if_pos hloops] at hpause
    refine iff_of_true ⟨?halt, ?breakpoint⟩ (.inl hloops)
    case halt => rw [hpause, Ending.pause_eq_halt_iff, hmakes.fetchesHalt_iff]
    case breakpoint => rw [hpause, Ending.pause_eq_breakpoint_iff, hmakes.stopsAtBreakpoint_iff]
  . rw [if_neg hloops] at hpause
    have hnever : ¬call.StopsAtBreakpoint cpu :=
      fun hstops => hmakes.ending_ne_breakpoint hloops (hmakes.stopsAtBreakpoint_iff.mp hstops)
    rw [or_iff_right hloops, ← hpause]
    constructor
    . rintro ⟨hhalt, hbreak⟩
      exact ⟨hhalt, fun hpaused => hnever (hbreak.mp hpaused)⟩
    . rintro ⟨hhalt, hbreak⟩
      exact ⟨hhalt, iff_of_false hbreak hnever⟩

end Call

/-! ### Histories -/

theorem writeWords_pause (ctx : AccessContext) (a : VirtualAddress) (words : List Word) (cpu : Cpu)
    : (Action.final (writeWords ctx a words cpu)).pause = cpu.pause := by
  induction words generalizing a cpu with
  | nil => rfl
  | cons w rest ih =>
    have hfirst : (Action.final (onMmu (Mmu.writeWord a w ctx) cpu)).pause = cpu.pause := by
      rw [final_onMmu]
    unfold writeWords
    apply Action.view_final_bind pause hfirst
    intro u cpu₁
    exact ih (a.add 4) cpu₁

theorem load_pause (p : Program) (cpu : Cpu) : (Action.final (load p cpu)).pause = cpu.pause := by
  have hwords := writeWords_pause (cpu.kernelContext .write) p.origin p.words cpu
  unfold load
  rw [Action.get_bind_apply]
  apply Action.view_final_bind pause hwords
  intro u cpu₁
  rfl

inductive Event where
  | call (call : Call)
  | load (program : Program)
  | write (register : Register) (word : Word)
  | watch (breakpoint : Breakpoint)
  | unwatch (breakpoint : Breakpoint)

def afterEvent (cpu : Cpu) : Event → Cpu
  | .call call => Action.final (call.action cpu)
  | .load program => Action.final (load program cpu)
  | .write register word => { cpu with regs := cpu.regs.write register word }
  | .watch breakpoint => (cpu.addBreakpoint breakpoint).2
  | .unwatch breakpoint => (cpu.removeBreakpoint breakpoint).2

def afterEvents (cpu : Cpu) (history : List Event) : Cpu :=
  history.foldl afterEvent cpu

def Loopless (cpu : Cpu) : List Event → Prop
  | [] => True
  | e :: rest => (∀ call, e = .call call → ¬call.Loops cpu) ∧ (cpu.afterEvent e).Loopless rest

theorem action_pause (hloops : ¬call.Loops cpu) : (Action.final (call.action cpu)).pause = cpu.pause := by
  obtain ⟨r, -, -, -, hpause⟩ := call.exists_makes cpu fun h => absurd h hloops
  rw [hpause]
  exact if_neg hloops

theorem afterEvent_pause {e : Event} (h : ∀ call, e = .call call → ¬call.Loops cpu)
    : (cpu.afterEvent e).pause = cpu.pause := by
  cases e with
  | call call => exact action_pause (h call rfl)
  | load program => exact load_pause program cpu
  | write register word => rfl
  | watch breakpoint =>
    show (cpu.addBreakpoint breakpoint).2.pause = cpu.pause
    unfold addBreakpoint
    split <;> rfl
  | unwatch breakpoint =>
    show (cpu.removeBreakpoint breakpoint).2.pause = cpu.pause
    unfold removeBreakpoint
    split <;> rfl

theorem afterEvents_pause {history : List Event} (h : cpu.Loopless history)
    : (cpu.afterEvents history).pause = cpu.pause := by
  induction history generalizing cpu with
  | nil => rfl
  | cons e rest ih => exact (ih h.2).trans (afterEvent_pause h.1)

/--
Whatever was done to a machine before, the reason to pause is that of a call that went through a loop. Of another call
it is so only if the reason is right that was there already, which is the one from before the last events without a
loop.
-/
theorem faithful_iff_of_history (start : Cpu) (history : List Event) (call : Call)
    (h : call.action (start.afterEvents history) = .ok () after)
    (hend : call.Loops (start.afterEvents history) → after.pause ≠ none)
    : (call.Faithful (start.afterEvents history) after
          ↔
        call.Loops (start.afterEvents history)
          ∨ ((start.afterEvents history).pause = some .halt ↔ call.FetchesHalt (start.afterEvents history))
            ∧ (start.afterEvents history).pause ≠ some .breakpoint)
      ∧ ∀ past rest, history = past ++ rest → (start.afterEvents past).Loopless rest →
          (start.afterEvents history).pause = (start.afterEvents past).pause := by
  refine ⟨call.faithful_iff h hend, ?_⟩
  rintro past rest rfl hloopless
  unfold afterEvents
  rw [List.foldl_append]
  exact afterEvents_pause hloopless

/-- What a run has left that halted, at the start of the program again. -/
def restarted : Cpu :=
  pausing.afterEvents [.call (.run 9), .write .eip 0]

/-- A step from the start leaves the halt of the run before it, and a second run has a halt of its own. -/
theorem faithful_iff_of_restarted
    : (∃ after, Call.stepIn.action restarted = .ok () after
          ∧ (Call.stepIn.Loops restarted → after.pause ≠ none)
          ∧ restarted.pause = (pausing.afterEvents [.call (.run 9)]).pause
          ∧ ¬Call.stepIn.Faithful restarted after)
        ∧ ∃ after, (Call.run 9).action restarted = .ok () after
          ∧ ((Call.run 9).Loops restarted → after.pause ≠ none)
          ∧ (Call.run 9).Faithful restarted after := by
  obtain ⟨hstep, hcycle, hpause, hrun, hend⟩
      : Action.outcome (Call.stepIn.action restarted) = .ok ()
        ∧ Action.outcome (cycle restarted) = .ok true
        ∧ restarted.pause = some .halt
        ∧ Action.outcome ((Call.run 9).action restarted) = .ok ()
        ∧ (Action.final ((Call.run 9).action restarted)).pause = some .halt := by
    decide +kernel
  have hmoves : ¬Call.stepIn.FetchesHalt restarted := by
    rw [Call.fetchesHalt_stepIn_iff, hcycle]
    exact nofun
  replace hend : (Action.final ((Call.run 9).action restarted)).pause ≠ none := by
    rw [hend]
    exact nofun
  obtain ⟨hfaithful, hkept⟩ := faithful_iff_of_history pausing [.call (.run 9), .write .eip 0] .stepIn
    (Action.eq_ok_of_outcome hstep) nofun
  obtain ⟨hfaithful', -⟩ := faithful_iff_of_history pausing [.call (.run 9), .write .eip 0] (.run 9)
    (Action.eq_ok_of_outcome hrun) fun _ => hend
  constructor
  . refine ⟨_, Action.eq_ok_of_outcome hstep, nofun, hkept [_] [_] rfl ⟨nofun, trivial⟩, ?_⟩
    intro h
    obtain hloops | ⟨hhalt, -⟩ := hfaithful.mp h
    . cases hloops
    . exact hmoves (hhalt.mp hpause)
  . exact ⟨_, Action.eq_ok_of_outcome hrun, fun _ => hend, hfaithful'.mpr (.inl rfl)⟩

/-- A step that fetches the halt does not say so. -/
theorem not_faithful_of_empty_memory
    : ∃ after, Call.stepIn.action (initial .standard) = .ok () after
        ∧ Call.stepIn.FetchesHalt (initial .standard)
        ∧ ¬Call.stepIn.Faithful (initial .standard) after := by
  obtain ⟨hstep, hcycle, hpause⟩
      : Action.outcome (Call.stepIn.action (initial .standard)) = .ok ()
        ∧ Action.outcome (cycle (initial .standard)) = .ok false
        ∧ (Action.final (Call.stepIn.action (initial .standard))).pause = none := by
    decide +kernel
  have hfetches : Call.stepIn.FetchesHalt (initial .standard) := Call.fetchesHalt_stepIn_iff.mpr hcycle
  refine ⟨_, Action.eq_ok_of_outcome hstep, hfetches, ?_⟩
  intro h
  have hhalt := h.halt.mpr hfetches
  rw [hpause] at hhalt
  cases hhalt

end Cpu

end Triword
