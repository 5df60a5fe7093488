import Triword.Proofs.Mmu.Walk

/-!
Access to words. Reading a word changes nothing but the log. Writing one fails before it has changed
anything, or marks the entries on its way and then stores the four bytes.
-/

namespace Triword

namespace AccessLog

theorem get_add (log : AccessLog) (a p : PhysicalAddress) (s : AccessSet)
    : (log.add a s).get p = if p = a then (log.get a).union s else log.get p := by
  have hword : a.word = p.word ↔ p = a := by
    cases a
    cases p
    simp [eq_comm]
  unfold add get
  dsimp only
  rw [Std.ExtTreeMap.getD_insert]
  simp [hword]

/-- The second log has at most reads beside what the first one has. -/
def AddsReads (log log' : AccessLog) : Prop :=
  ∀ p, (log'.get p).written = (log.get p).written ∧ (log'.get p).modified = (log.get p).modified

namespace AddsReads

theorem refl (log : AccessLog) : log.AddsReads log := by
  intro p
  exact ⟨rfl, rfl⟩

theorem trans {log₁ log₂ log₃ : AccessLog} (h₁ : log₁.AddsReads log₂) (h₂ : log₂.AddsReads log₃)
    : log₁.AddsReads log₃ := by
  intro p
  exact ⟨(h₂ p).1.trans (h₁ p).1, (h₂ p).2.trans (h₁ p).2⟩

theorem add_reading (log : AccessLog) (a : PhysicalAddress) : log.AddsReads (log.add a .reading) := by
  intro p
  rw [get_add]
  split
  . next heq =>
    subst heq
    simp [AccessSet.union, AccessSet.reading]
  . exact ⟨rfl, rfl⟩

theorem foldl_add_reading (places : List PhysicalAddress)
    : ∀ (log : AccessLog), log.AddsReads (places.foldl (·.add · .reading) log) := by
  induction places with
  | nil => exact refl
  | cons p places ih =>
    intro log
    exact (add_reading log p).trans (ih (log.add p .reading))

end AddsReads

end AccessLog

namespace Mmu

variable {mmu : Mmu} {ctx : AccessContext} {a : VirtualAddress} {p : PhysicalAddress}
variable {entries places : List PhysicalAddress}

/-! ### Reading -/

def peek (mmu : Mmu) (a : VirtualAddress) (ctx : AccessContext) : Except Trap Word := do
  let (places, _) ← mmu.resolveWord a ctx
  return Bits.ofBytes (← ofMemoryRead (places.mapM mmu.memory.readByte))

def withLog (mmu : Mmu) (log : AccessLog) : Mmu :=
  { mmu with log }

theorem forM_observe (places : List PhysicalAddress) (s : AccessSet)
    : ∀ (mmu : Mmu), places.forM (observe · s) mmu
        =
      .ok () (mmu.withLog (places.foldl (·.add · s) mmu.log)) := by
  induction places with
  | nil => intro mmu; rfl
  | cons p places ih =>
    intro mmu
    exact ih (mmu.withLog (mmu.log.add p s))

theorem readWord_eq (haccess : ctx.access ≠ .write) (mmu : Mmu) (a : VirtualAddress)
    : ∃ log, mmu.log.AddsReads log
        ∧ readWord a ctx mmu = (ofExcept (mmu.peek a ctx) : Action Word) (mmu.withLog log) := by
  show ∃ log, mmu.log.AddsReads log
    ∧ (ofExcept (mmu.resolveWord a ctx) >>= fun r => do
        let bytes ← ofExcept (ofMemoryRead (r.1.mapM (← get).memory.readByte))
        markChanged r.2
        r.1.forM (observe · .reading)
        return Bits.ofBytes bytes : Action Word) mmu = _
  unfold peek
  cases hresolve : mmu.resolveWord a ctx with
  | error e => exact ⟨mmu.log, .refl mmu.log, rfl⟩
  | ok r =>
    obtain ⟨places, entries⟩ := r
    -- Only a write has entries to mark.
    have hentries : entries = [] := entries_eq_nil_of_resolveWord haccess hresolve
    subst hentries
    show ∃ log, mmu.log.AddsReads log
      ∧ (ofExcept (ofMemoryRead (places.mapM mmu.memory.readByte)) >>= fun bytes => do
          places.forM (observe · .reading)
          return Bits.ofBytes bytes : Action Word) mmu
        =
        (ofExcept (ofMemoryRead (places.mapM mmu.memory.readByte) >>= fun bytes =>
          pure (Bits.ofBytes bytes)) : Action Word) (mmu.withLog log)
    cases ofMemoryRead (places.mapM mmu.memory.readByte) with
    | error e => exact ⟨mmu.log, .refl mmu.log, rfl⟩
    | ok bytes =>
      refine ⟨_, AccessLog.AddsReads.foldl_add_reading places mmu.log, ?_⟩
      exact Action.bind_of_ok (forM_observe places .reading mmu)

/-! ### Writing -/

def mark (mmu : Mmu) (b : PhysicalAddress) : Mmu :=
  let e : PageTableEntry := ⟨mmu.memory.wordAt b⟩
  if e.has .changed then mmu
  else { mmu with memory := mmu.memory.storeWord b (e.put .changed true).word }

def put (mmu : Mmu) (p : PhysicalAddress) (b : Byte) : Mmu :=
  { mmu with
    memory := mmu.memory.store p b
    log := mmu.log.add p
      (if mmu.memory.byteAt p = b then .writing else AccessSet.writing.union .modifying) }

def written (mmu : Mmu) (places entries : List PhysicalAddress) (w : Word) : Mmu :=
  (places.zip (Bits.bytes w)).foldl (fun mmu x => mmu.put x.1 x.2) (entries.foldl mark mmu)

/-- The places and the entries of a write, once all of them are known to be in memory. -/
def targets (mmu : Mmu) (a : VirtualAddress) (ctx : AccessContext)
    : Except Trap (List PhysicalAddress × List PhysicalAddress) := do
  let r ← mmu.resolveWord a ctx
  ofMemoryRead (r.1.forM mmu.memory.check)
  return r

@[simp]
theorem capacity_mark (mmu : Mmu) (b : PhysicalAddress)
    : (mmu.mark b).memory.capacity = mmu.memory.capacity := by
  unfold mark
  dsimp only
  split
  . rfl
  . simp

theorem markChanged_of_holds (h : ∀ b ∈ entries, ∀ q ∈ Memory.wordPlaces b, mmu.memory.holds q)
    : markChanged entries mmu = .ok () (entries.foldl mark mmu) := by
  unfold markChanged
  apply Action.forM_eq_foldl (fun mmu' : Mmu => mmu'.memory.capacity = mmu.memory.capacity)
  . intro b hb mmu' hcapacity
    have hholds : ∀ q ∈ Memory.wordPlaces b, mmu'.memory.holds q := by
      intro q hq
      rw [Memory.holds_congr hcapacity]
      exact h b hb q hq
    have hentry : mmu'.entry b = .ok ⟨mmu'.memory.wordAt b⟩ := entry_eq_ok_iff.mpr ⟨hholds, rfl⟩
    refine ⟨?_, by rw [capacity_mark, hcapacity]⟩
    show (ofExcept (mmu'.entry b) >>= fun e => do
      if !e.has .changed then
        setEntry b (e.put .changed true) : Action Unit) mmu' = _
    rw [hentry, Action.bind_of_ok (Action.ofExcept_ok_apply _ mmu')]
    unfold mark
    dsimp only
    cases PageTableEntry.has ⟨mmu'.memory.wordAt b⟩ .changed with
    | true => rfl
    | false =>
      simp only [Bool.not_false, ↓reduceIte, Bool.false_eq_true]
      unfold setEntry onMemory
      rw [Memory.writeWord_of_holds hholds]
  . rfl

theorem markChanged_of_resolve (h : mmu.resolve a ctx = .ok (p, entries))
    : markChanged entries mmu = .ok () (entries.foldl mark mmu) := by
  apply markChanged_of_holds
  intro b hb
  exact (entries_of_resolve h hb).2.2

theorem markChanged_of_resolveWord (h : mmu.resolveWord a ctx = .ok (places, entries))
    : markChanged entries mmu = .ok () (entries.foldl mark mmu) := by
  apply markChanged_of_holds
  intro b hb
  exact (entries_of_resolveWord h hb).2.2

theorem translate_eq (a : VirtualAddress) (ctx : AccessContext) (mmu : Mmu)
    : translate a ctx mmu
        =
      match mmu.resolve a ctx with
      | .error t => .error t mmu
      | .ok (p, entries) => .ok p (entries.foldl mark mmu) := by
  unfold translate
  rw [Action.get_bind_apply]
  cases hresolve : mmu.resolve a ctx with
  | error t => rfl
  | ok found => exact Action.bind_of_ok (markChanged_of_resolve hresolve)

theorem writePlace_of_holds (h : mmu.memory.holds p) (b : Byte)
    : writePlace p b mmu = .ok () (mmu.put p b) := by
  show (ofExcept (ofMemoryRead (mmu.memory.readByte p)) >>= fun old => do
    onMemory (Memory.writeByte p b)
    observe p (if old = b then .writing else AccessSet.writing.union .modifying) : Action Unit) mmu = _
  rw [Memory.readByte_of_holds h]
  have hwrite : onMemory (Memory.writeByte p b) mmu
      = .ok () { mmu with memory := mmu.memory.store p b } := by
    unfold onMemory
    rw [Memory.writeByte_of_holds h]
  exact Action.bind_of_ok hwrite

theorem capacity_foldl_mark (entries : List PhysicalAddress)
    : ∀ (mmu : Mmu), (entries.foldl mark mmu).memory.capacity = mmu.memory.capacity := by
  induction entries with
  | nil => intro mmu; rfl
  | cons b entries ih =>
    intro mmu
    rw [List.foldl_cons, ih, capacity_mark]

theorem holds_of_targets (h : mmu.targets a ctx = .ok (places, entries))
    : mmu.resolveWord a ctx = .ok (places, entries) ∧ ∀ p ∈ places, mmu.memory.holds p := by
  obtain ⟨r, hresolve, h⟩ := Outcome.bind_eq_ok_iff.mp h
  obtain ⟨u, hcheck, h⟩ := Outcome.bind_eq_ok_iff.mp h
  cases h
  refine ⟨hresolve, ?_⟩
  apply Memory.forM_check_eq_ok_iff.mp
  unfold ofMemoryRead Except.mapError at hcheck
  split at hcheck
  . cases hcheck
  . assumption

theorem writeWord_of_targets_error {e : Trap} (h : mmu.targets a ctx = .error e) (w : Word)
    : writeWord a w ctx mmu = .error e mmu := by
  show (ofExcept (mmu.resolveWord a ctx) >>= fun r => do
    ofExcept (ofMemoryRead (r.1.forM (← get).memory.check))
    markChanged r.2
    (r.1.zip (Bits.bytes w)).forM fun x => writePlace x.1 x.2 : Action Unit) mmu = _
  unfold targets at h
  cases hresolve : mmu.resolveWord a ctx with
  | error e' =>
    rw [hresolve] at h
    cases h
    rfl
  | ok r =>
    rw [hresolve] at h
    show (ofExcept (ofMemoryRead (r.1.forM mmu.memory.check)) >>= fun _ => do
      markChanged r.2
      (r.1.zip (Bits.bytes w)).forM fun x => writePlace x.1 x.2 : Action Unit) mmu = _
    cases hcheck : ofMemoryRead (r.1.forM mmu.memory.check) with
    | error e' =>
      simp only [bind, Except.bind, hcheck] at h
      cases h
      rfl
    | ok u =>
      simp only [bind, Except.bind, hcheck] at h
      cases h

theorem writeWord_of_targets_ok (h : mmu.targets a ctx = .ok (places, entries)) (w : Word)
    : writeWord a w ctx mmu = .ok () (mmu.written places entries w) := by
  obtain ⟨hresolve, hholds⟩ := holds_of_targets h
  show (ofExcept (mmu.resolveWord a ctx) >>= fun r => do
    ofExcept (ofMemoryRead (r.1.forM (← get).memory.check))
    markChanged r.2
    (r.1.zip (Bits.bytes w)).forM fun x => writePlace x.1 x.2 : Action Unit) mmu = _
  rw [hresolve]
  show (ofExcept (ofMemoryRead (places.forM mmu.memory.check)) >>= fun _ => do
    markChanged entries
    (places.zip (Bits.bytes w)).forM fun x => writePlace x.1 x.2 : Action Unit) mmu = _
  rw [Memory.forM_check_eq_ok_iff.mpr hholds]
  show (markChanged entries >>= fun _ =>
    (places.zip (Bits.bytes w)).forM fun x => writePlace x.1 x.2 : Action Unit) mmu = _
  rw [Action.bind_of_ok (markChanged_of_resolveWord hresolve)]
  unfold written
  -- Marking changes no capacity, so the places checked before are still in memory.
  apply Action.forM_eq_foldl (fun mmu' : Mmu => mmu'.memory.capacity = mmu.memory.capacity)
  . rintro ⟨p, b⟩ hp mmu' hcapacity
    constructor
    . apply writePlace_of_holds
      rw [Memory.holds_congr hcapacity]
      exact hholds p (List.of_mem_zip hp).1
    . exact hcapacity
  . exact capacity_foldl_mark entries mmu

theorem writeWord_eq_ok_iff {w : Word} {mmu' : Mmu}
    : writeWord a w ctx mmu = .ok () mmu'
        ↔
      ∃ places entries, mmu.targets a ctx = .ok (places, entries) ∧ mmu' = mmu.written places entries w := by
  cases htargets : mmu.targets a ctx with
  | error t => simp [writeWord_of_targets_error htargets]
  | ok found =>
    obtain ⟨places, entries⟩ := found
    simp [writeWord_of_targets_ok htargets, and_assoc, eq_comm]

theorem writeWord_eq_error_iff {w : Word} {t : Trap} {mmu' : Mmu}
    : writeWord a w ctx mmu = .error t mmu' ↔ mmu.targets a ctx = .error t ∧ mmu' = mmu := by
  cases htargets : mmu.targets a ctx with
  | error t' => simp [writeWord_of_targets_error htargets, eq_comm]
  | ok found => simp [writeWord_of_targets_ok htargets]

theorem eq_of_writeWord_error {w : Word} {t : Trap} {mmu' : Mmu} (h : writeWord a w ctx mmu = .error t mmu')
    : mmu' = mmu :=
  (writeWord_eq_error_iff.mp h).2

theorem memory_mark_congr {mmu mmu' : Mmu} (h : mmu'.memory = mmu.memory) (b : PhysicalAddress)
    : (mmu'.mark b).memory = (mmu.mark b).memory := by
  unfold mark
  rw [h]
  dsimp only
  split
  . exact h
  . rfl

theorem memory_written_congr {mmu mmu' : Mmu} (h : mmu'.memory = mmu.memory)
    (places entries : List PhysicalAddress) (w : Word)
    : (mmu'.written places entries w).memory = (mmu.written places entries w).memory := by
  unfold written
  apply List.foldl_rel (r := fun mmu' mmu : Mmu => mmu'.memory = mmu.memory)
  . apply List.foldl_rel (r := fun mmu' mmu : Mmu => mmu'.memory = mmu.memory) h
    intro b _ mmu' mmu h
    exact memory_mark_congr h b
  . intro x _ mmu' mmu h
    unfold put
    rw [h]

end Mmu

end Triword
