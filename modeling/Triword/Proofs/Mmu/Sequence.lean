import Triword.Proofs.Mmu.Access

/-!
Words written one after the other. When one of them cannot be written, what has been changed is what
the words before it have changed.
-/

namespace Triword

namespace Mmu

variable {mmu mmu' : Mmu} {ctx : AccessContext} {words : List (VirtualAddress × Word)} {t : Trap}
variable {a b : VirtualAddress} {v w : Word}

def writeAll (words : List (VirtualAddress × Word)) (ctx : AccessContext) : Action Unit :=
  words.forM fun (a, w) => writeWord a w ctx

theorem writeAll_cons (x : VirtualAddress × Word) (words : List (VirtualAddress × Word))
    (ctx : AccessContext)
    : writeAll (x :: words) ctx = writeWord x.1 x.2 ctx >>= fun _ => writeAll words ctx := by
  rfl

theorem exists_of_writeAll_error (h : writeAll words ctx mmu = .error t mmu')
    : ∃ done next rest, words = done ++ next :: rest
        ∧ writeAll done ctx mmu = .ok () mmu'
        ∧ writeWord next.1 next.2 ctx mmu' = .error t mmu' := by
  induction words generalizing mmu with
  | nil => cases h
  | cons x words ih =>
    rw [writeAll_cons] at h
    cases Action.bind_eq_error_iff.mp h with
    | inl hx =>
      -- The first word that fails leaves the unit as it found it.
      obtain rfl := eq_of_writeWord_error hx
      exact ⟨[], x, words, rfl, rfl, hx⟩
    | inr hrest =>
      obtain ⟨u, mmu₁, hx, hrest⟩ := hrest
      obtain ⟨done, next, rest, hwords, hdone, hnext⟩ := ih hrest
      refine ⟨x :: done, next, rest, ?_, ?_, hnext⟩
      . rw [hwords, List.cons_append]
      . rw [writeAll_cons, Action.bind_of_ok hx]
        exact hdone

theorem eq_of_writeAll_error (hwords : words.length ≤ 1) (h : writeAll words ctx mmu = .error t mmu')
    : mmu' = mmu := by
  obtain ⟨done, next, rest, rfl, hdone, -⟩ := exists_of_writeAll_error h
  cases done with
  | nil =>
    cases hdone
    rfl
  | cons x done =>
    simp at hwords

def Alters (mmu : Mmu) (a : VirtualAddress) (w : Word) (ctx : AccessContext) : Prop :=
  ∃ mmu', writeWord a w ctx mmu = .ok () mmu' ∧ mmu'.memory ≠ mmu.memory

theorem alters_iff
    : mmu.Alters a w ctx
        ↔
      ∃ places entries, mmu.targets a ctx = .ok (places, entries)
        ∧ (mmu.written places entries w).memory ≠ mmu.memory := by
  constructor
  . rintro ⟨mmu', hwrite, hmemory⟩
    obtain ⟨places, entries, htargets, rfl⟩ := writeWord_eq_ok_iff.mp hwrite
    exact ⟨places, entries, htargets, hmemory⟩
  . rintro ⟨places, entries, htargets, hmemory⟩
    exact ⟨_, writeWord_of_targets_ok htargets w, hmemory⟩

theorem alters_withLog (mmu : Mmu) (log : AccessLog) (a : VirtualAddress) (w : Word)
    (ctx : AccessContext) : (mmu.withLog log).Alters a w ctx ↔ mmu.Alters a w ctx := by
  rw [alters_iff, alters_iff]
  have htargets : (mmu.withLog log).targets a ctx = mmu.targets a ctx := rfl
  have hmemory : (mmu.withLog log).memory = mmu.memory := rfl
  rw [htargets, hmemory]
  apply exists_congr
  intro places
  apply exists_congr
  intro entries
  rw [memory_written_congr hmemory]

theorem writeWord_of_writeAll_singleton (h : writeAll [(a, w)] ctx mmu = .ok () mmu')
    : writeWord a w ctx mmu = .ok () mmu' := by
  rw [writeAll_cons] at h
  obtain ⟨u, mmu₁, hwrite, hnone⟩ := Action.bind_eq_ok_iff.mp h
  cases hnone
  exact hwrite

/-- Two words that cannot both be written leave memory alone unless the first one alters it. -/
theorem memory_of_writeAll_pair_error (h : writeAll [(a, w), (b, v)] ctx mmu = .error t mmu')
    : mmu'.memory = mmu.memory ↔ ¬mmu.Alters a w ctx := by
  obtain ⟨done, next, rest, hwords, hdone, hnext⟩ := exists_of_writeAll_error h
  cases done with
  | nil =>
    cases hdone
    cases hwords
    have halters : ¬mmu.Alters a w ctx := by
      rintro ⟨mmu', hwrite, -⟩
      rw [hnext] at hwrite
      cases hwrite
    simp only [halters, not_false_eq_true]
  | cons x done =>
    cases done with
    | nil =>
      cases hwords
      have hwrite := writeWord_of_writeAll_singleton hdone
      unfold Alters
      rw [hwrite]
      simp
    | cons y done =>
      have hlength := congrArg List.length hwords
      simp at hlength

end Mmu

end Triword
