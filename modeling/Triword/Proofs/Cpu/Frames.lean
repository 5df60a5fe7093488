import Mathlib.Data.List.Forall2
import Triword.Proofs.Address
import Triword.Proofs.Cpu.UserMode

/-!
The calls that are pending. They are those made by the instructions that call or enter the kernel, and by interrupts
from outside, but for the ones that returns have dropped. Of each of them the frame is kept that belongs to it.
-/

namespace Triword

inductive Turn where
  | calls
  | returns
  | stays
  deriving DecidableEq

namespace Turn

def depth : Turn → Nat → Nat
  | calls, d => d + 1
  | returns, d => d - 1
  | stays, d => d

def pending {α : Type} (call : α) : Turn → List α → List α
  | calls, l => call :: l
  | returns, l => l.tail
  | stays, l => l

theorem length_pending {α : Type} (call : α) (turn : Turn) (l : List α)
    : (turn.pending call l).length = turn.depth l.length := by
  cases turn with
  | calls => rfl
  | returns => exact List.length_tail
  | stays => rfl

end Turn

namespace Operation

def turn : Operation → Turn
  | .call | .int | .sysenter => .calls
  | .ret | .iret | .sysexit => .returns
  | _ => .stays

def vector? (value : Word) : Operation → Option Word
  | .int => some value
  | _ => none

def frameKind : Operation → FrameKind
  | .int => .interrupt
  | .sysenter => .systemCall
  | _ => .subroutine

end Operation

namespace Cpu

variable {cpu cpu' : Cpu} {i : Instruction} {e : Effect}

/-! ### Effects -/

namespace Snapshot

variable {s : Snapshot}

theorem frames_of_store {p : Place} {w : Word} {flags : Eflags} (h : s.store p w flags = .ok e)
    : e.frames = s.frames := by
  unfold store at h
  split at h
  . cases h
    rfl
  . split at h
    . cases h
      rfl
    . cases h

theorem frames_of_binary {f : Eflags → Word → Word → Except Trap (Flagged Word)} (h : s.binary i f = .ok e)
    : e.frames = s.frames := by
  obtain ⟨place, -, h⟩ := Outcome.bind_eq_ok_iff.mp h
  obtain ⟨source, -, h⟩ := Outcome.bind_eq_ok_iff.mp h
  obtain ⟨target, -, h⟩ := Outcome.bind_eq_ok_iff.mp h
  obtain ⟨r, -, h⟩ := Outcome.bind_eq_ok_iff.mp h
  exact frames_of_store h

theorem frames_of_unary {f : Eflags → Word → Flagged Word} (h : s.unary i f = .ok e) : e.frames = s.frames := by
  obtain ⟨place, -, h⟩ := Outcome.bind_eq_ok_iff.mp h
  obtain ⟨target, -, h⟩ := Outcome.bind_eq_ok_iff.mp h
  exact frames_of_store h

theorem frames_of_popOperand (h : s.popOperand i = .ok e) : e.frames = s.frames := by
  obtain ⟨w, -, h⟩ := Outcome.bind_eq_ok_iff.mp h
  obtain ⟨place, -, h⟩ := Outcome.bind_eq_ok_iff.mp h
  obtain ⟨e', hstore, h⟩ := Outcome.bind_eq_ok_iff.mp h
  cases h
  have hframes := frames_of_store hstore
  exact hframes

theorem frames_of_jumpIf {condition : Eflags → Bool} (h : s.jumpIf i condition = .ok e)
    : e.frames = s.frames := by
  obtain ⟨target, -, h⟩ := Outcome.bind_eq_ok_iff.mp h
  cases h
  rfl

theorem frames_of_leaveKernel (h : (s.requireKernel >>= fun _ => s.leaveKernel) = .ok e)
    : e.frames = s.frames.pop := by
  obtain ⟨_, -, h⟩ := Outcome.bind_eq_ok_iff.mp h
  obtain ⟨back, -, h⟩ := Outcome.bind_eq_ok_iff.mp h
  obtain ⟨saved, -, h⟩ := Outcome.bind_eq_ok_iff.mp h
  cases h
  rfl

theorem frames_of_stays (hturn : i.operation.turn = .stays) (h : s.effect i = .ok e) : e.frames = s.frames := by
  unfold effect at h
  cases hop : i.operation with
  | call | int | sysenter | ret | iret | sysexit =>
    rw [hop] at hturn
    cases hturn
  | add | adc | sub | sbb | mul | div | and | or | xor | shl | shr | sar =>
    rw [hop] at h
    exact frames_of_binary h
  | not | neg | inc | dec =>
    rw [hop] at h
    exact frames_of_unary h
  | jmp | jz | jnz | jg | jge | jl | jle =>
    rw [hop] at h
    exact frames_of_jumpIf h
  | pop =>
    rw [hop] at h
    exact frames_of_popOperand h
  | mov =>
    rw [hop] at h
    obtain ⟨w, -, h⟩ := Outcome.bind_eq_ok_iff.mp h
    obtain ⟨place, -, h⟩ := Outcome.bind_eq_ok_iff.mp h
    exact frames_of_store h
  | cmp | popf =>
    rw [hop] at h
    obtain ⟨first, -, h⟩ := Outcome.bind_eq_ok_iff.mp h
    obtain ⟨second, -, h⟩ := Outcome.bind_eq_ok_iff.mp h
    cases h
    rfl
  | push | pushf | cli | sti =>
    rw [hop] at h
    obtain ⟨first, -, h⟩ := Outcome.bind_eq_ok_iff.mp h
    cases h
    rfl
  | nop =>
    rw [hop] at h
    cases h
    rfl

theorem frames_of_returns (hturn : i.operation.turn = .returns) (h : s.effect i = .ok e)
    : e.frames = s.frames.pop := by
  unfold effect at h
  cases hop : i.operation with
  | iret | sysexit =>
    rw [hop] at h
    exact frames_of_leaveKernel h
  | ret =>
    rw [hop] at h
    obtain ⟨target, -, h⟩ := Outcome.bind_eq_ok_iff.mp h
    cases h
    rfl
  | _ =>
    rw [hop] at hturn
    cases hturn

theorem frames_of_calls (hturn : i.operation.turn = .calls) (h : s.effect i = .ok e)
    : e.jumped = true
        ∧ ∃ value, s.operandValue i.first = .ok value
          ∧ e.frames
            =
            s.frames.push
              { caller := if i.EntersKernel then s.regs.eip.add Instruction.byteSize else s.regs.eip
                callee := e.regs.eip
                vector := i.operation.vector? value
                kind := i.operation.frameKind
                stackPointer := e.regs.esp } := by
  unfold effect at h
  cases hop : i.operation with
  | call =>
    rw [hop] at h
    obtain ⟨target, htarget, h⟩ := Outcome.bind_eq_ok_iff.mp h
    cases h
    have hi : ¬i.EntersKernel := by
      rintro (hint | hsysenter)
      . cases hop.symm.trans hint
      . cases hop.symm.trans hsysenter
    rw [if_neg hi]
    exact ⟨rfl, target, htarget, rfl⟩
  | int =>
    rw [hop] at h
    obtain ⟨vector, hvector, h⟩ := Outcome.bind_eq_ok_iff.mp h
    cases h
    rw [if_pos (.inl hop)]
    exact ⟨rfl, vector, hvector, rfl⟩
  | sysenter =>
    rw [hop] at h
    obtain ⟨handler, hhandler, h⟩ := Outcome.bind_eq_ok_iff.mp h
    cases h
    rw [if_pos (.inr hop)]
    exact ⟨rfl, handler, hhandler, rfl⟩
  | _ =>
    rw [hop] at hturn
    cases hturn

end Snapshot

/-! ### Moves -/

/-- What makes the machine go on: a cycle, or an interrupt raised from outside. -/
inductive Move where
  | cycle
  | interrupt (vector : Word)
  deriving DecidableEq

def afterMove (cpu : Cpu) : Move → Cpu
  | .cycle => Action.final (cycle cpu)
  | .interrupt vector => Action.final (interrupt vector cpu)

def turn (cpu : Cpu) : Move → Turn
  | .cycle =>
    match Action.outcome (cycle cpu), cpu.nextInstruction? with
    | .ok true, some i => i.operation.turn
    | _, _ => .stays
  | .interrupt vector =>
    match Action.outcome (interrupt vector cpu) with
    | .ok () => .calls
    | .error _ => .stays

/--
The frame is that of the call that the move makes. Its caller is the instruction that calls or that was interrupted;
but of an instruction that enters the kernel it is the one behind it.
-/
inductive Records (cpu : Cpu) : Move → Frame → Prop where
  | cycle {i : Instruction} {value : Word} (hnext : cpu.nextInstruction? = some i)
      (hvalue : Action.outcome (readOperand i.first cpu.headed) = .ok value)
      : Records cpu .cycle
          { caller := if i.EntersKernel then cpu.regs.eip.add Instruction.byteSize else cpu.regs.eip
            callee := (cpu.afterMove .cycle).regs.eip
            vector := i.operation.vector? value
            kind := i.operation.frameKind
            stackPointer := (cpu.afterMove .cycle).regs.esp }
  | interrupt {vector : Word}
      : Records cpu (.interrupt vector)
          { caller := cpu.regs.eip
            callee := (cpu.afterMove (.interrupt vector)).regs.eip
            vector := some vector
            kind := .interrupt
            stackPointer := (cpu.afterMove (.interrupt vector)).regs.esp }

inductive Turned (cpu : Cpu) (move : Move) : Turn → FrameStack → Prop where
  | calls {f : Frame} (hrecords : cpu.Records move f) : Turned cpu move .calls (cpu.frames.push f)
  | returns : Turned cpu move .returns cpu.frames.pop
  | stays : Turned cpu move .stays cpu.frames

theorem turn_cycle_of_ok (h : cycle cpu = .ok true cpu') (hnext : cpu.nextInstruction? = some i)
    : cpu.turn .cycle = i.operation.turn := by
  unfold turn
  rw [h, hnext]
  rfl

theorem turn_cycle_of_ne (h : Action.outcome (cycle cpu) ≠ .ok true) : cpu.turn .cycle = .stays := by
  unfold turn
  dsimp only
  split
  . next hok _ => exact absurd hok h
  . rfl

theorem turn_interrupt_of_error {vector : Word} {t : Trap} (h : interrupt vector cpu = .error t cpu')
    : cpu.turn (.interrupt vector) = .stays := by
  unfold turn
  dsimp only
  rw [h]
  rfl

theorem turn_interrupt_of_ok {vector : Word} (h : interrupt vector cpu = .ok () cpu')
    : cpu.turn (.interrupt vector) = .calls := by
  unfold turn
  dsimp only
  rw [h]
  rfl

theorem frames_of_not_executed (h : Action.outcome (cycle cpu) ≠ .ok true)
    : (Action.final (cycle cpu)).frames = cpu.frames := by
  have hstages := stages_cycle cpu
  generalize cycle cpu = result at h hstages
  cases hstages with
  | unfetched _ _ | undecoded _ _ _ | halted _ _ _ | refused _ _ _ _ => rfl
  | unwritten _ _ _ _ hwrite =>
    obtain ⟨mmu, -, rfl⟩ := Effect.exists_of_writeAll_error hwrite
    rfl
  | executed _ _ _ _ _ => exact absurd rfl h

theorem exists_nextInstruction?_of_cycle_ok (h : cycle cpu = .ok true cpu')
    : ∃ i, cpu.nextInstruction? = some i := by
  have hstages := stages_cycle cpu
  rw [h] at hstages
  cases hstages with
  | executed hcode hdecode _ _ _ => exact ⟨_, (nextInstruction?_eq hcode _).mpr hdecode⟩

theorem turned_of_executed (h : cycle cpu = .ok true cpu') : cpu.Turned .cycle (cpu.turn .cycle) cpu'.frames := by
  obtain ⟨i, hnext⟩ := exists_nextInstruction?_of_cycle_ok h
  have hafter : cpu' = cpu.afterMove .cycle := by
    unfold afterMove
    rw [h]
    rfl
  obtain ⟨e, log, cpu₁, heffect, -, hretire⟩ := exists_effect_of_cycle_ok hnext h
  have hframes : cpu'.frames = e.frames := congrArg Cpu.frames hretire
  rw [turn_cycle_of_ok h hnext, hframes]
  cases hturn : i.operation.turn with
  | calls =>
    obtain ⟨hjumped, value, hvalue, hpush⟩ := Snapshot.frames_of_calls hturn heffect
    have hregs : (cpu.afterMove .cycle).regs = e.regs := by
      rw [← hafter, hretire]
      exact if_pos hjumped
    rw [hpush, ← hregs]
    apply Turned.calls
    apply Records.cycle hnext
    rw [(reads_readOperand cpu.headed i.first).outcome]
    exact hvalue
  | returns =>
    rw [Snapshot.frames_of_returns hturn heffect]
    exact .returns
  | stays =>
    rw [Snapshot.frames_of_stays hturn heffect]
    exact .stays

/-- What one move does to the frames is what it does to the calls. -/
theorem turned_afterMove (cpu : Cpu) (move : Move) : cpu.Turned move (cpu.turn move) (cpu.afterMove move).frames := by
  cases move with
  | cycle =>
    by_cases hok : Action.outcome (cycle cpu) = .ok true
    . exact turned_of_executed (Action.eq_ok_of_outcome hok)
    . rw [turn_cycle_of_ne hok]
      show cpu.Turned .cycle .stays (Action.final (cycle cpu)).frames
      rw [frames_of_not_executed hok]
      exact .stays
  | interrupt vector =>
    have hafter : cpu.afterMove (.interrupt vector) = Action.final (interrupt vector cpu) := rfl
    cases hinterrupt : interrupt vector cpu with
    | error t cpu' =>
      rw [hinterrupt] at hafter
      obtain ⟨mmu, -, rfl⟩ := Effect.exists_of_writeAll_error (writeAll_of_interrupt_error hinterrupt)
      rw [turn_interrupt_of_error hinterrupt, hafter]
      exact .stays
    | ok u cpu' =>
      rw [hinterrupt] at hafter
      obtain ⟨cpu₁, hwrite, rfl⟩ := exists_of_interrupt_ok hinterrupt
      have hrecords : cpu.Records (.interrupt vector) _ := .interrupt
      rw [hafter] at hrecords
      rw [turn_interrupt_of_ok hinterrupt, hafter]
      exact .calls hrecords

theorem Records.caller_eq_iff {move : Move} {f : Frame} (h : cpu.Records move f)
    : f.caller = cpu.regs.eip ↔ ¬(move = .cycle ∧ ∃ i, cpu.nextInstruction? = some i ∧ i.EntersKernel) := by
  cases h with
  | @cycle i value hnext hvalue =>
    by_cases hi : i.EntersKernel
    . have hbehind : cpu.regs.eip.add Instruction.byteSize ≠ cpu.regs.eip.add 0 :=
        fun heq => absurd (Address.add_injective (by decide) (by decide) heq) (by decide)
      rw [Address.add_zero] at hbehind
      refine iff_of_false ?_ (not_not.mpr ⟨rfl, i, hnext, hi⟩)
      dsimp only
      rw [if_pos hi]
      exact hbehind
    . refine iff_of_true (if_neg hi) ?_
      rintro ⟨-, j, hj, henters⟩
      cases hnext.symm.trans hj
      exact hi henters
  | interrupt =>
    refine iff_of_true rfl ?_
    rintro ⟨h, -⟩
    cases h

/-! ### Runs -/

def afterMoves (cpu : Cpu) (moves : List Move) : Cpu :=
  moves.foldl afterMove cpu

def depthAfter (cpu : Cpu) (depth : Nat) : List Move → Nat
  | [] => depth
  | move :: rest => (cpu.afterMove move).depthAfter ((cpu.turn move).depth depth) rest

/-- The moves that have made the calls that are pending, each with the machine that made it, innermost first. -/
def pendingAfter (cpu : Cpu) (calls : List (Cpu × Move)) : List Move → List (Cpu × Move)
  | [] => calls
  | move :: rest => (cpu.afterMove move).pendingAfter ((cpu.turn move).pending (cpu, move) calls) rest

theorem length_pendingAfter (cpu : Cpu) (calls : List (Cpu × Move)) (moves : List Move)
    : (cpu.pendingAfter calls moves).length = cpu.depthAfter calls.length moves := by
  induction moves generalizing cpu calls with
  | nil => rfl
  | cons move rest ih =>
    unfold pendingAfter depthAfter
    rw [ih, Turn.length_pending]

/-- The frames that are kept are those of the calls. -/
structure Tracks (cpu : Cpu) (calls : List (Cpu × Move)) (frames : List Frame) : Prop where
  kept : cpu.frames = ⟨calls.length, some frames⟩
  records : List.Forall₂ (fun f call => call.1.Records call.2 f) frames calls

theorem exists_tracks_afterMove {calls : List (Cpu × Move)} {frames : List Frame} (h : cpu.Tracks calls frames)
    (move : Move)
    : ∃ frames', (cpu.afterMove move).Tracks ((cpu.turn move).pending (cpu, move) calls) frames' := by
  obtain ⟨hkept, hrecords⟩ := h
  have hturned := turned_afterMove cpu move
  generalize hframes : (cpu.afterMove move).frames = after at hturned
  generalize cpu.turn move = turn at hturned
  cases hturned with
  | @calls f hcall =>
    refine ⟨f :: frames, ?_, .cons hcall hrecords⟩
    rw [hframes, hkept]
    rfl
  | returns =>
    refine ⟨frames.tail, ?_, ?_⟩
    . rw [hframes, hkept, Turn.length_pending]
      rfl
    . cases hrecords with
      | nil => exact .nil
      | cons _ hrest => exact hrest
  | stays => exact ⟨frames, hframes.trans hkept, hrecords⟩

theorem exists_tracks_afterMoves {calls : List (Cpu × Move)} {frames : List Frame} (h : cpu.Tracks calls frames)
    (moves : List Move) : ∃ frames', (cpu.afterMoves moves).Tracks (cpu.pendingAfter calls moves) frames' := by
  induction moves generalizing cpu calls frames with
  | nil => exact ⟨frames, h⟩
  | cons move rest ih =>
    obtain ⟨frames', h'⟩ := exists_tracks_afterMove h move
    exact ih h'

/--
Whatever cycles and interrupts from outside a machine has gone through that keeps frames: it has as many as there are
calls pending, and each of them is that of its call, outermost first. Only the caller of an instruction that enters the
kernel is not where that instruction is.
-/
theorem frames_of_moves {start : Cpu} (hstart : start.frames = .empty true) (moves : List Move)
    : (start.afterMoves moves).frames.depth = start.depthAfter 0 moves
        ∧ ∃ frames, (start.afterMoves moves).frames.toList? = some frames
          ∧ frames.length = (start.afterMoves moves).frames.depth
          ∧ List.Forall₂
            (fun f call => call.1.Records call.2 f
              ∧ (f.caller = call.1.regs.eip
                ↔ ¬(call.2 = .cycle ∧ ∃ i, call.1.nextInstruction? = some i ∧ i.EntersKernel)))
            frames (start.pendingAfter [] moves).reverse := by
  obtain ⟨frames, hkept, hrecords⟩ := exists_tracks_afterMoves ⟨hstart, .nil⟩ moves
  rw [hkept]
  refine ⟨length_pendingAfter start [] moves, frames.reverse, rfl, ?_, ?_⟩
  . rw [List.length_reverse]
    exact hrecords.length_eq
  . rw [List.forall₂_reverse_iff]
    exact hrecords.imp fun f call hcall => ⟨hcall, hcall.caller_eq_iff⟩

/-- A program that calls a subroutine, which raises an interrupt. The handler does nothing but return. -/
def nesting : Cpu :=
  loaded { Settings.standard with keepFrames := true } .zero
    [⟨.call, ⟨.label, .direct, 24⟩, .absent⟩, ⟨.nop, .absent, .absent⟩, ⟨.int, ⟨.immediate, .direct, 48⟩, .absent⟩,
      ⟨.ret, .absent, .absent⟩, ⟨.iret, .absent, .absent⟩]

/-- Once the handler was interrupted itself, and has returned from that, two calls are pending. -/
theorem frames_of_nesting
    : nesting.frames = .empty true
        ∧ ∃ frames, (nesting.afterMoves [.cycle, .cycle, .interrupt 48, .cycle]).frames.toList? = some frames
          ∧ frames.length = 2
          ∧ frames.map Frame.caller = [⟨0⟩, ⟨36⟩]
          ∧ List.Forall₂ (fun f call => call.1.Records call.2 f) frames
            (nesting.pendingAfter [] [.cycle, .cycle, .interrupt 48, .cycle]).reverse := by
  obtain ⟨hstart, hdepth, hcallers⟩
      : nesting.frames = .empty true
        ∧ nesting.depthAfter 0 [.cycle, .cycle, .interrupt 48, .cycle] = 2
        ∧ (nesting.afterMoves [.cycle, .cycle, .interrupt 48, .cycle]).frames.toList?.map (List.map Frame.caller)
          = some [⟨0⟩, ⟨36⟩] := by
    decide +kernel
  obtain ⟨hcount, frames, hframes, hlength, hrecords⟩ :=
    frames_of_moves hstart [.cycle, .cycle, .interrupt 48, .cycle]
  rw [hframes] at hcallers
  refine ⟨hstart, frames, hframes, ?_, Option.some.inj hcallers, ?_⟩
  . rw [hlength, hcount, hdepth]
  . exact hrecords.imp fun f call hcall => hcall.1

def entering : Cpu :=
  loaded { Settings.standard with keepFrames := true } .zero [⟨.int, ⟨.immediate, .direct, 0x40⟩, .absent⟩]

/-- The frame of the interrupt names the address behind the instruction that has raised it. -/
theorem caller_ne_of_entering
    : entering.frames = .empty true
        ∧ entering.pendingAfter [] [.cycle] = [(entering, .cycle)]
        ∧ ∃ f, (entering.afterMoves [.cycle]).frames.toList? = some [f] ∧ f.caller ≠ entering.regs.eip := by
  obtain ⟨hstart, heip, hturn, hframes⟩
      : entering.frames = .empty true
        ∧ entering.regs.eip = ⟨0⟩
        ∧ entering.turn .cycle = .calls
        ∧ (entering.afterMoves [.cycle]).frames.toList? = some [⟨⟨12⟩, ⟨64⟩, some 64, .interrupt, ⟨0x000FFFF8⟩⟩] := by
    decide +kernel
  refine ⟨hstart, ?_, _, hframes, ?_⟩
  . unfold pendingAfter
    rw [hturn]
    rfl
  . rw [heip]
    decide

end Cpu

end Triword
