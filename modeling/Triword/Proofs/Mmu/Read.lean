import Triword.Proofs.Mmu.Write

/-!
What a read changes. A read that is not made as a write changes no byte, and logs the places of its bytes. Whatever
it is made as, a word that cannot be read is left as it was, and so is the rest of the unit; but a byte is looked
up in memory after the entries on its way have been marked.
-/

namespace Triword

theorem AccessLog.get_foldl_add_reading (places : List PhysicalAddress) (q : PhysicalAddress)
    : ∀ (log : AccessLog), (places.foldl (·.add · .reading) log).get q
        =
      if q ∈ places then (log.get q).union .reading else log.get q := by
  induction places with
  | nil => exact fun log => rfl
  | cons p places ih =>
    intro log
    rw [List.foldl_cons, ih, get_add]
    by_cases hp : q = p
    . subst hp
      by_cases hq : q ∈ places
      -- A place that is read twice is logged as one that is read once.
      . simp [hq, AccessSet.union, AccessSet.reading]
      . simp [hq]
    . simp [hp]

namespace Mmu

open PageTableEntry (changedByte)

variable {mmu mmu' : Mmu} {ctx : AccessContext} {a : VirtualAddress} {p : PhysicalAddress} {t : Trap}
variable {places entries : List PhysicalAddress}

structure HasRead (mmu mmu' : Mmu) (places : List PhysicalAddress) : Prop where
  memory : mmu'.memory = mmu.memory
  paging : mmu'.paging = mmu.paging
  log_place : ∀ p ∈ places, mmu'.log.get p = (mmu.log.get p).union .reading
  log_other : ∀ q ∉ places, mmu'.log.get q = mmu.log.get q

theorem hasRead_afterReading (mmu : Mmu) (places : List PhysicalAddress)
    : mmu.HasRead (mmu.afterReading places []) places := by
  constructor
  case memory => rfl
  case paging => rfl
  case log_place =>
    intro p hp
    exact (AccessLog.get_foldl_add_reading places p mmu.log).trans (if_pos hp)
  case log_other =>
    intro q hq
    exact (AccessLog.get_foldl_add_reading places q mmu.log).trans (if_neg hq)

/-! ### Words -/

theorem eq_of_readWord_error (h : readWord a ctx mmu = .error t mmu') : mmu' = mmu := by
  cases hword : mmu.resolveWord a ctx with
  | error t' =>
    rw [readWord_of_resolveWord_error hword] at h
    cases h
    rfl
  | ok found =>
    rw [readWord_of_resolveWord_ok hword] at h
    cases hbytes : found.1.mapM mmu.memory.readByte with
    | error f =>
      rw [hbytes] at h
      cases h
      rfl
    | ok bytes =>
      rw [hbytes] at h
      cases h

theorem hasRead_of_readWord_ok (haccess : ctx.access ≠ .write) {w : Word} (h : readWord a ctx mmu = .ok w mmu')
    : ∃ p : Fin 4 → PhysicalAddress,
        (∀ k : Fin 4, ∃ entries, mmu.resolve (a.add k) ctx = .ok (p k, entries))
          ∧ mmu.HasRead mmu' (List.ofFn p) := by
  obtain ⟨places, entries, hword, -, -, rfl⟩ := readWord_eq_ok_iff.mp h
  obtain rfl := entries_eq_nil_of_resolveWord haccess hword
  obtain ⟨r, hr, rfl, -⟩ := exists_bytes_of_resolveWord hword
  exact ⟨fun k => (r k).1, fun k => ⟨(r k).2, hr k⟩, hasRead_afterReading mmu _⟩

/-! ### Single bytes -/

theorem readByte_eq (a : VirtualAddress) (ctx : AccessContext) (mmu : Mmu)
    : readByte a ctx mmu
        =
      match mmu.resolve a ctx with
      | .error t => .error t mmu
      | .ok (p, entries) =>
        if mmu.memory.holds p then
          .ok ((entries.foldl mark mmu).memory.byteAt p) (mmu.afterReading [p] entries)
        else .error (.beyondMemory ⟨p, mmu.memory.capacity⟩) (entries.foldl mark mmu) := by
  have htranslate := translate_eq a ctx mmu
  unfold readByte
  cases hresolve : mmu.resolve a ctx with
  | error t =>
    rw [hresolve] at htranslate
    exact Action.bind_of_error htranslate
  | ok found =>
    obtain ⟨p, entries⟩ := found
    rw [hresolve] at htranslate
    rw [Action.bind_of_ok htranslate, Action.get_bind_apply]
    have hcapacity := capacity_foldl_mark entries mmu
    dsimp only
    -- The byte is read after the entries have been marked, so it may be one of theirs.
    cases hholds : mmu.memory.holds p with
    | true =>
      have hread := Memory.readByte_of_holds ((Memory.holds_congr hcapacity p).trans hholds)
      rw [hread]
      rfl
    | false =>
      have hread : (entries.foldl mark mmu).memory.readByte p = .error ⟨p, mmu.memory.capacity⟩ := by
        unfold Memory.readByte Memory.check
        rw [Memory.holds_congr hcapacity, hholds, hcapacity]
        rfl
      rw [hread]
      rfl

theorem hasRead_of_readByte_ok (haccess : ctx.access ≠ .write) {b : Byte} (h : readByte a ctx mmu = .ok b mmu')
    : ∃ p entries, mmu.resolve a ctx = .ok (p, entries) ∧ mmu.HasRead mmu' [p] := by
  rw [readByte_eq] at h
  split at h
  . cases h
  . next p entries hresolve =>
    split at h
    . cases h
      have hentries : entries = [] := by
        apply List.eq_nil_iff_forall_not_mem.mpr
        intro b hb
        exact haccess (entries_of_resolve hresolve hb).1
      subst hentries
      exact ⟨p, [], hresolve, hasRead_afterReading mmu [p]⟩
    . cases h

/-- An access as a write finds its place by way of an entry that is not marked as changed yet. -/
def LeavesMark (mmu : Mmu) (a : VirtualAddress) (ctx : AccessContext) : Prop :=
  ctx.access = .write
    ∧ (∃ found, mmu.resolve a ctx = .ok found)
    ∧ ∃ b ∈ mmu.walked a ctx, (⟨mmu.memory.wordAt b⟩ : PageTableEntry).has .changed = false

theorem leavesMark_iff (h : mmu.resolve a ctx = .ok (p, entries)) : mmu.LeavesMark a ctx ↔ ∃ b, b ∈ entries := by
  constructor
  . rintro ⟨haccess, -, b, hb, hunmarked⟩
    rw [has_changed_wordAt] at hunmarked
    exact ⟨b, (mem_entries_of_resolve haccess h b).mpr ⟨hb, hunmarked⟩⟩
  . rintro ⟨b, hb⟩
    have haccess := (entries_of_resolve h hb).1
    obtain ⟨hwalked, hunmarked⟩ := (mem_entries_of_resolve haccess h b).mp hb
    rw [← has_changed_wordAt] at hunmarked
    exact ⟨haccess, ⟨_, h⟩, b, hwalked, hunmarked⟩

theorem memory_foldl_mark_eq_iff (h : mmu.resolve a ctx = .ok (p, entries))
    : (entries.foldl mark mmu).memory = mmu.memory ↔ ¬∃ b, b ∈ entries := by
  constructor
  . rintro hmemory ⟨b, hb⟩
    have haccess := (entries_of_resolve h hb).1
    have hunmarked := ((mem_entries_of_resolve haccess h b).mp hb).2
    rw [← hmemory, byteAt_foldl_mark, getMsbD_markedByte hb] at hunmarked
    cases hunmarked
  . intro hnone
    obtain rfl : entries = [] := List.eq_nil_iff_forall_not_mem.mpr fun b hb => hnone ⟨b, hb⟩
    rfl

structure Failed (mmu mmu' : Mmu) (a : VirtualAddress) (ctx : AccessContext) : Prop where
  log : mmu'.log = mmu.log
  paging : mmu'.paging = mmu.paging
  capacity : mmu'.memory.capacity = mmu.memory.capacity
  memory : mmu'.memory = mmu.memory ↔ ¬mmu.LeavesMark a ctx
  /-- No byte changes but the first ones of entries on the way, and in them a single bit. -/
  byteAt : ∀ q, mmu'.memory.byteAt q = mmu.memory.byteAt q
    ∨ q ∈ mmu.walked a ctx ∧ mmu'.memory.byteAt q = mmu.memory.byteAt q ||| changedByte

theorem failed_of_readByte_error (h : readByte a ctx mmu = .error t mmu') : mmu.Failed mmu' a ctx := by
  rw [readByte_eq] at h
  split at h
  . next t hresolve =>
    cases h
    have hnone : ¬mmu.LeavesMark a ctx := by
      rintro ⟨-, ⟨found, hfound⟩, -⟩
      rw [hresolve] at hfound
      cases hfound
    exact ⟨rfl, rfl, rfl, iff_of_true rfl hnone, fun q => .inl rfl⟩
  . next p entries hresolve =>
    split at h
    . cases h
    . cases h
      obtain ⟨hlog, hpaging⟩ := log_foldl_mark entries mmu
      refine ⟨hlog, hpaging, capacity_foldl_mark entries mmu, ?_, ?_⟩
      . rw [memory_foldl_mark_eq_iff hresolve, leavesMark_iff hresolve]
      . intro q
        rw [byteAt_foldl_mark]
        unfold markedByte
        split
        . next hq =>
          have haccess := (entries_of_resolve hresolve hq).1
          exact .inr ⟨((mem_entries_of_resolve haccess hresolve q).mp hq).1, rfl⟩
        . exact .inl rfl

/--
A word that cannot be read leaves the unit as it was. So does a byte, unless it is read as if to be written and its
place, which is beyond memory, is found by way of an entry that is not marked: that entry is marked then. What is
not read as if to be written changes no byte, and is logged at the places of its bytes.
-/
theorem failed_or_hasRead (mmu : Mmu) (a : VirtualAddress) (ctx : AccessContext)
    : (∀ t mmu', readWord a ctx mmu = .error t mmu' → mmu' = mmu)
        ∧ (∀ t mmu', readByte a ctx mmu = .error t mmu' → mmu.Failed mmu' a ctx)
        ∧ (ctx.access ≠ .write
          → (∀ w mmu', readWord a ctx mmu = .ok w mmu'
              → ∃ p : Fin 4 → PhysicalAddress,
                (∀ k : Fin 4, ∃ entries, mmu.resolve (a.add k) ctx = .ok (p k, entries))
                  ∧ mmu.HasRead mmu' (List.ofFn p))
            ∧ ∀ b mmu', readByte a ctx mmu = .ok b mmu'
              → ∃ p entries, mmu.resolve a ctx = .ok (p, entries) ∧ mmu.HasRead mmu' [p]) := by
  refine ⟨?_, ?_, ?_⟩
  . intro t mmu' h
    exact eq_of_readWord_error h
  . intro t mmu' h
    exact failed_of_readByte_error h
  . intro haccess
    constructor
    . intro w mmu' h
      exact hasRead_of_readWord_ok haccess h
    . intro b mmu' h
      exact hasRead_of_readByte_ok haccess h

/-- Pages of which the first one is mapped to a frame beyond memory and the fourth one is missing. -/
def outlying : Mmu where
  memory := (Memory.empty ⟨0xFFFF⟩).storeAll
    [(⟨0x1000⟩, 0xC0), (⟨0x1003⟩, 0x10), (⟨0x1004⟩, 0xC0), (⟨0x1007⟩, 2), (⟨0x1008⟩, 0xC0), (⟨0x100B⟩, 3)]
  paging := true
  log := .empty

/-- A word that goes beyond the third page, one that lies in two pages, and a byte of the first one. -/
theorem failed_or_hasRead_outlying
    : let reading : AccessContext := ⟨.user, .read, .single ⟨0x1000⟩⟩
      (∃ t mmu', readWord ⟨0x2FFE⟩ ⟨.user, .write, .single ⟨0x1000⟩⟩ outlying = .error t mmu' ∧ mmu' = outlying)
      ∧ (∃ t mmu', readByte ⟨0x0005⟩ reading outlying = .error t mmu' ∧ outlying.Failed mmu' ⟨0x0005⟩ reading)
      ∧ reading.access ≠ .write
      ∧ (∃ w mmu', readWord ⟨0x1FFE⟩ reading outlying = .ok w mmu'
        ∧ outlying.HasRead mmu' [⟨0x2FFE⟩, ⟨0x2FFF⟩, ⟨0x3000⟩, ⟨0x3001⟩])
      ∧ ∃ b mmu', readByte ⟨0x1FFE⟩ reading outlying = .ok b mmu' ∧ outlying.HasRead mmu' [⟨0x2FFE⟩] := by
  intro reading
  refine ⟨?_, ?_, by decide, ?_, ?_⟩
  . have hread : Action.outcome (readWord ⟨0x2FFE⟩ ⟨.user, .write, .single ⟨0x1000⟩⟩ outlying)
        = .error (.pageFault ⟨0, ⟨0x100C⟩, ⟨0x3000⟩, .single⟩) := by
      decide +kernel
    replace hread := Action.eq_error_of_outcome hread
    exact ⟨_, _, hread, (failed_or_hasRead outlying _ _).1 _ _ hread⟩
  . have hread : Action.outcome (readByte ⟨0x0005⟩ reading outlying)
        = .error (.beyondMemory ⟨⟨0x10005⟩, ⟨0xFFFF⟩⟩) := by
      decide +kernel
    replace hread := Action.eq_error_of_outcome hread
    exact ⟨_, _, hread, (failed_or_hasRead outlying _ _).2.1 _ _ hread⟩
  . have hread : Action.outcome (readWord ⟨0x1FFE⟩ reading outlying) = .ok 0 := by
      decide +kernel
    replace hread := Action.eq_ok_of_outcome hread
    obtain ⟨p, hp, hlogged⟩ := ((failed_or_hasRead outlying ⟨0x1FFE⟩ reading).2.2 (by decide)).1 _ _ hread
    let place : Fin 4 → PhysicalAddress
      | 0 => ⟨0x2FFE⟩
      | 1 => ⟨0x2FFF⟩
      | 2 => ⟨0x3000⟩
      | 3 => ⟨0x3001⟩
    have hplace : p = place := by
      have hresolve : ∀ k : Fin 4, outlying.resolve (Address.add ⟨0x1FFE⟩ k) reading = .ok (place k, []) := by
        decide +kernel
      funext k
      obtain ⟨entries, hk⟩ := hp k
      rw [hresolve k] at hk
      exact (congrArg Prod.fst (Except.ok.inj hk)).symm
    rw [hplace] at hlogged
    exact ⟨_, _, hread, hlogged⟩
  . have hread : Action.outcome (readByte ⟨0x1FFE⟩ reading outlying) = .ok 0 := by
      decide +kernel
    replace hread := Action.eq_ok_of_outcome hread
    obtain ⟨p, entries, hp, hlogged⟩ := ((failed_or_hasRead outlying ⟨0x1FFE⟩ reading).2.2 (by decide)).2 _ _ hread
    have hresolve : outlying.resolve ⟨0x1FFE⟩ reading = .ok (⟨0x2FFE⟩, []) := by
      decide +kernel
    rw [hresolve] at hp
    cases hp
    exact ⟨_, _, hread, hlogged⟩

/-- The byte has no place in memory, but the entry of its page has been marked. -/
theorem readByte_marks_outlying
    : let ctx : AccessContext := ⟨.kernel, .write, .single ⟨0x1000⟩⟩
      ∃ mmu', readByte ⟨0x0005⟩ ctx outlying = .error (.beyondMemory ⟨⟨0x10005⟩, ⟨0xFFFF⟩⟩) mmu'
        ∧ outlying.memory.byteAt ⟨0x1000⟩ = 0xC0
        ∧ mmu'.memory.byteAt ⟨0x1000⟩ = 0xC4 := by
  intro ctx
  have hread : Action.outcome (readByte ⟨0x0005⟩ ctx outlying) = .error (.beyondMemory ⟨⟨0x10005⟩, ⟨0xFFFF⟩⟩) := by
    decide +kernel
  exact ⟨_, Action.eq_error_of_outcome hread, by decide +kernel, by decide +kernel⟩

end Mmu

end Triword
