import Triword.Proofs.Cpu.Effect
import Triword.Proofs.Mmu.Sequence

/-!
Committing an effect: its words are written, which changes nothing but the memory-management unit, and
once that has succeeded, registers and calls change.
-/

namespace Triword

namespace Cpu

variable {α β : Type} {cpu cpu' : Cpu} {e : Effect} {t : Trap}

theorem onMmu_of_ok {action : Mmu.Action α} {a : α} {mmu : Mmu} (h : action cpu.mmu = .ok a mmu)
    : onMmu action cpu = .ok a { cpu with mmu } := by
  unfold onMmu
  rw [h]

theorem onMmu_of_error {action : Mmu.Action α} {t : Trap} {mmu : Mmu}
    (h : action cpu.mmu = .error t mmu) : onMmu action cpu = .error t { cpu with mmu } := by
  unfold onMmu
  rw [h]

theorem final_onMmu (action : Mmu.Action α) (cpu : Cpu)
    : Action.final (onMmu action cpu) = { cpu with mmu := Action.final (action cpu.mmu) } := by
  unfold onMmu
  cases action cpu.mmu <;> rfl

theorem onMmu_bind (x : Mmu.Action α) (f : α → Mmu.Action β)
    : onMmu (x >>= f) = onMmu x >>= fun a => onMmu (f a) := by
  funext cpu
  cases hx : x cpu.mmu with
  | error t mmu =>
    rw [Action.bind_of_error (onMmu_of_error hx)]
    exact onMmu_of_error (Action.bind_of_error hx)
  | ok a mmu =>
    rw [Action.bind_of_ok (onMmu_of_ok hx)]
    unfold onMmu
    rw [Action.bind_of_ok hx]

theorem onMmu_writeAll (words : List (VirtualAddress × Word)) (ctx : AccessContext)
    : onMmu (Mmu.writeAll words ctx) = words.forM fun (a, w) => onMmu (Mmu.writeWord a w ctx) := by
  induction words with
  | nil => rfl
  | cons x words ih =>
    rw [Mmu.writeAll_cons, onMmu_bind, Action.forM_cons, ih]

theorem exists_of_onMmu_ok {x : Mmu.Action α} {a : α} (h : onMmu x cpu = .ok a cpu')
    : ∃ mmu, x cpu.mmu = .ok a mmu ∧ cpu' = { cpu with mmu } := by
  unfold onMmu at h
  split at h
  . next a' mmu hx =>
    cases h
    exact ⟨mmu, hx, rfl⟩
  . cases h

theorem exists_of_onMmu_error {x : Mmu.Action α} (h : onMmu x cpu = .error t cpu')
    : ∃ mmu, x cpu.mmu = .error t mmu ∧ cpu' = { cpu with mmu } := by
  unfold onMmu at h
  split at h
  . cases h
  . next t' mmu hx =>
    cases h
    exact ⟨mmu, hx, rfl⟩

def Effect.context (e : Effect) (cpu : Cpu) : AccessContext :=
  { cpu.context .write with privilege := e.privilege }

def Effect.writeAll (e : Effect) : Action Unit := do
  let ctx := e.context (← get)
  e.writes.forM fun (a, w) => onMmu (Mmu.writeWord a w ctx)

def Effect.commit (e : Effect) : Action Bool := do
  e.writeAll
  modify fun cpu => { cpu with regs := e.regs, frames := e.frames }
  return e.jumped

theorem Effect.writeAll_apply (e : Effect) (cpu : Cpu)
    : e.writeAll cpu = onMmu (Mmu.writeAll e.writes (e.context cpu)) cpu := by
  unfold Effect.writeAll
  rw [Action.get_bind_apply, onMmu_writeAll]

theorem Effect.exists_of_writeAll_ok (h : e.writeAll cpu = .ok () cpu')
    : ∃ mmu, Mmu.writeAll e.writes (e.context cpu) cpu.mmu = .ok () mmu ∧ cpu' = { cpu with mmu } := by
  rw [Effect.writeAll_apply] at h
  exact exists_of_onMmu_ok h

theorem Effect.exists_of_writeAll_error (h : e.writeAll cpu = .error t cpu')
    : ∃ mmu, Mmu.writeAll e.writes (e.context cpu) cpu.mmu = .error t mmu ∧ cpu' = { cpu with mmu } := by
  rw [Effect.writeAll_apply] at h
  exact exists_of_onMmu_error h

theorem Effect.commit_of_ok (h : e.writeAll cpu = .ok () cpu')
    : e.commit cpu = .ok e.jumped { cpu' with regs := e.regs, frames := e.frames } := by
  unfold Effect.commit
  rw [Action.bind_of_ok h]
  rfl

theorem Effect.commit_of_error (h : e.writeAll cpu = .error t cpu') : e.commit cpu = .error t cpu' := by
  unfold Effect.commit
  rw [Action.bind_of_error h]

theorem Effect.exists_of_commit_ok {jumped : Bool} (h : e.commit cpu = .ok jumped cpu')
    : ∃ cpu₁, e.writeAll cpu = .ok () cpu₁ ∧ cpu' = { cpu₁ with regs := e.regs, frames := e.frames } := by
  cases hwrite : e.writeAll cpu with
  | error t cpu₁ =>
    rw [Effect.commit_of_error hwrite] at h
    cases h
  | ok u cpu₁ =>
    rw [Effect.commit_of_ok hwrite] at h
    cases h
    exact ⟨cpu₁, rfl, rfl⟩

theorem Effect.writeAll_of_commit_error (h : e.commit cpu = .error t cpu')
    : e.writeAll cpu = .error t cpu' := by
  cases hwrite : e.writeAll cpu with
  | error t' cpu₁ =>
    rw [Effect.commit_of_error hwrite] at h
    cases h
    rfl
  | ok u cpu₁ =>
    rw [Effect.commit_of_ok hwrite] at h
    cases h

/-- An action commits an effect if it writes the words and cannot fail from then on. -/
theorem Effect.commit_eq_bind {k : Action Bool} (hk : ∀ mmu, k { cpu with mmu }
      = .ok e.jumped { cpu with mmu, regs := e.regs, frames := e.frames })
    : e.commit cpu = (e.writeAll >>= fun _ => k) cpu := by
  cases hwrite : e.writeAll cpu with
  | error t cpu' => rw [Effect.commit_of_error hwrite, Action.bind_of_error hwrite]
  | ok u cpu' =>
    -- Only the unit has changed, and what comes next does not depend on it.
    obtain ⟨mmu, -, rfl⟩ := Effect.exists_of_writeAll_ok hwrite
    rw [Effect.commit_of_ok hwrite, Action.bind_of_ok hwrite, hk]

end Cpu

end Triword
