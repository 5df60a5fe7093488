import Triword.Cpu.Cycle

/-!
Runs of many cycles. A run goes on until it is told to stop, halts, reaches a breakpoint or fails. Since
a program need not end, each run has a budget, which is the number of times that it may ask whether to
go on; after a run without a failure, `Cpu.pause` is `none` only if the budget was used up.
-/

namespace Triword

namespace Cpu

/-- Decides, from how often it was asked before and from the state, whether a run goes on. -/
abbrev Tripwire := Nat → Cpu → Bool

def runLoop (goesOn : Tripwire) : (budget asked : Nat) → Action (Option Pause)
  | 0, _ => return none
  | budget + 1, asked => do
    if !goesOn asked (← get) then
      return some .tripwire
    if !(← cycle) then
      return some .halt
    if (← get).atBreakpoint then
      return some .breakpoint
    runLoop goesOn budget (asked + 1)

def clearLog : Action Unit :=
  modify fun cpu => { cpu with mmu := { cpu.mmu with log := .empty } }

def runWhile (goesOn : Tripwire) (budget : Nat) : Action Unit := do
  clearLog
  modify fun cpu => { cpu with pause := none }
  let pause ← runLoop goesOn budget 0
  modify fun cpu => { cpu with pause }

def run (budget : Nat) : Action Unit :=
  runWhile (fun _ _ => true) budget

/-- Runs at most `limit` instructions, for which a budget of one more always suffices. -/
def runWithLimit (limit : Nat) : Action Unit := do
  let start := (← get).executed
  runWhile (fun _ cpu => decide ((cpu.executed - start).toNat < limit)) (limit + 1)

/-- Runs a single cycle, with a new log and whatever the breakpoints. -/
def stepIn : Action Unit := do
  clearLog
  discard cycle

/-- Runs at least one cycle, and then as long as there are more calls pending than at the start. -/
def stepOver (budget : Nat) : Action Unit := do
  let depth := (← get).frames.depth
  runWhile (fun asked cpu => asked == 0 || decide (depth < cpu.frames.depth)) budget

/-- Runs until a call that is pending now has returned. Does nothing if none is. -/
def stepOut (budget : Nat) : Action Unit := do
  let depth := (← get).frames.depth
  if depth ≠ 0 then
    runWhile (fun asked cpu => asked == 0 || decide (depth ≤ cpu.frames.depth)) budget

end Cpu

end Triword
