import Mathlib.Data.List.FinRange
import Triword.Proofs.Bits
import Triword.Proofs.Mmu.Word

/-!
What a write changes. It either fails and changes nothing, or leaves its bytes in their places, marks
every entry that its walks went through, unless it has written over it, logs its places, and changes
nothing else.
-/

namespace Triword

/-! ### The flag of a changed page -/

namespace PageTableEntry

def changedByte : Byte := 0x04#8

theorem has_append (b₀ b₁ b₂ b₃ : Byte) (flag : PageFlag)
    : (⟨b₀ ++ b₁ ++ b₂ ++ b₃⟩ : PageTableEntry).has flag = b₀.getMsbD flag.place := by
  show BitVec.getMsbD (w := 24 + 8) (b₀ ++ b₁ ++ b₂ ++ b₃) flag.place = b₀.getMsbD flag.place
  rw [BitVec.getMsbD_append, BitVec.getMsbD_append, BitVec.getMsbD_append]
  cases flag <;> rfl

theorem put_changed (b₀ b₁ b₂ b₃ : Byte)
    : ((⟨b₀ ++ b₁ ++ b₂ ++ b₃⟩ : PageTableEntry).put .changed true).word
        =
      (b₀ ||| changedByte) ++ b₁ ++ b₂ ++ b₃ := by
  have hmask : BitVec.twoPow 32 26 = changedByte ++ 0#8 ++ 0#8 ++ 0#8 := by decide
  show (b₀ ++ b₁ ++ b₂ ++ b₃) ||| BitVec.twoPow 32 26 = _
  rw [hmask, BitVec.or_append, BitVec.or_append, BitVec.or_append]
  simp only [BitVec.or_zero]

theorem or_changedByte {b : Byte} (h : b.getMsbD 5 = true) : b ||| changedByte = b := by
  apply BitVec.eq_of_getLsbD_eq
  intro i hi
  have hbit : changedByte.getLsbD i = decide (i = 2) := by
    rw [show changedByte = BitVec.twoPow 8 2 from rfl, BitVec.getLsbD_twoPow]
    simp [eq_comm]
  rw [BitVec.getLsbD_or, hbit]
  by_cases heq : i = 2
  . subst heq
    simpa [BitVec.getMsbD] using h
  . simp [heq]

end PageTableEntry

theorem Address.add_ne_self {space : Space} (a : Address space) {k : Nat} (hpos : 0 < k) (hk : k < 4)
    : a.add k ≠ a := by
  intro h
  have hnat := congrArg Address.toNat h
  have hlt : a.toNat < 4294967296 := a.word.isLt
  rw [Address.toNat_add] at hnat
  omega

namespace Mmu

open PageTableEntry (changedByte)

variable {mmu mmu' : Mmu} {ctx : AccessContext} {a : VirtualAddress} {table p q : PhysicalAddress}
variable {stage : Stage} {entries used : List PhysicalAddress} {bytes : List (PhysicalAddress × Byte)}

/-! ### Marking -/

theorem wordAt_eq_append (m : Memory) (b : PhysicalAddress)
    : m.wordAt b = m.byteAt b ++ m.byteAt (b.add 1) ++ m.byteAt (b.add 2) ++ m.byteAt (b.add 3) := by
  exact Bits.ofBytes_four ..

theorem has_wordAt (m : Memory) (b : PhysicalAddress) (flag : PageFlag)
    : (⟨m.wordAt b⟩ : PageTableEntry).has flag = (m.byteAt b).getMsbD flag.place := by
  rw [wordAt_eq_append, PageTableEntry.has_append]

theorem has_changed_wordAt (m : Memory) (b : PhysicalAddress)
    : (⟨m.wordAt b⟩ : PageTableEntry).has .changed = (m.byteAt b).getMsbD 5 :=
  has_wordAt m b .changed

theorem byteAt_mark (mmu : Mmu) (b q : PhysicalAddress)
    : (mmu.mark b).memory.byteAt q
        =
      if q = b then mmu.memory.byteAt q ||| changedByte else mmu.memory.byteAt q := by
  unfold mark
  dsimp only
  rw [has_changed_wordAt]
  split
  . next hchanged =>
    split
    . next heq =>
      subst heq
      exact (PageTableEntry.or_changedByte hchanged).symm
    . rfl
  . rw [wordAt_eq_append, PageTableEntry.put_changed]
    simp only [Memory.storeWord, Memory.storeAll, Bits.bytes_append, Memory.wordPlaces,
      List.zip_cons_cons, List.zip_nil_right, List.foldl_cons, List.foldl_nil, Memory.byteAt_store]
    -- Of the four bytes that are stored only the first one is another than before.
    by_cases h₃ : q = b.add 3
    . subst h₃
      simp [b.add_ne_self (show 0 < 3 by omega) (by omega)]
    . by_cases h₂ : q = b.add 2
      . subst h₂
        simp [h₃, b.add_ne_self (show 0 < 2 by omega) (by omega)]
      . by_cases h₁ : q = b.add 1
        . subst h₁
          simp [h₃, h₂, b.add_ne_self (show 0 < 1 by omega) (by omega)]
        . simp only [h₃, h₂, h₁, ↓reduceIte]
          by_cases h₀ : q = b
          . subst h₀
            rfl
          . rw [if_neg h₀, if_neg h₀]

def markedByte (mmu : Mmu) (used : List PhysicalAddress) (q : PhysicalAddress) : Byte :=
  if q ∈ used then mmu.memory.byteAt q ||| changedByte else mmu.memory.byteAt q

theorem byteAt_foldl_mark (entries : List PhysicalAddress) (q : PhysicalAddress)
    : ∀ (mmu : Mmu), (entries.foldl mark mmu).memory.byteAt q = mmu.markedByte entries q := by
  unfold markedByte
  induction entries with
  | nil => intro mmu; rfl
  | cons b entries ih =>
    intro mmu
    rw [List.foldl_cons, ih, byteAt_mark]
    by_cases hb : q = b
    . subst hb
      by_cases hq : q ∈ entries
      . simp [hq, BitVec.or_assoc]
      . simp [hq]
    . simp [hb]

theorem log_foldl_mark (entries : List PhysicalAddress)
    : ∀ (mmu : Mmu), (entries.foldl mark mmu).log = mmu.log
        ∧ (entries.foldl mark mmu).paging = mmu.paging := by
  induction entries with
  | nil => intro mmu; exact ⟨rfl, rfl⟩
  | cons b entries ih =>
    intro mmu
    have hmark : (mmu.mark b).log = mmu.log ∧ (mmu.mark b).paging = mmu.paging := by
      unfold mark
      dsimp only
      split <;> exact ⟨rfl, rfl⟩
    rw [List.foldl_cons, ← hmark.1, ← hmark.2]
    exact ih (mmu.mark b)

theorem markedByte_congr (h : ∀ b, b ∈ entries ↔ b ∈ used ∧ (mmu.memory.byteAt b).getMsbD 5 = false)
    : mmu.markedByte entries = mmu.markedByte used := by
  funext q
  unfold markedByte
  by_cases hq : q ∈ used
  . cases hbit : (mmu.memory.byteAt q).getMsbD 5 with
    | false => simp [(h q).mpr ⟨hq, hbit⟩, hq]
    | true =>
      have hentries : q ∉ entries := by
        intro hmem
        have hfalse := ((h q).mp hmem).2
        rw [hbit] at hfalse
        cases hfalse
      simp [hentries, hq, PageTableEntry.or_changedByte hbit]
  . have hentries : q ∉ entries := fun hmem => hq ((h q).mp hmem).1
    simp [hentries, hq]

/-! ### Walks -/

/-- The entries that the walks to an address go through, as far as they come. -/
def walked (mmu : Mmu) (a : VirtualAddress) (ctx : AccessContext) : List PhysicalAddress :=
  if !mmu.paging then []
  else
    match ctx.tables with
    | .single table => [entryAddress table a]
    | .nested guest host =>
      entryAddress guest a :: match mmu.walk guest a ctx .guest with
        | .ok (middle, _) => [entryAddress host ⟨middle.word⟩]
        | .error _ => []

theorem mem_entries_of_walk (haccess : ctx.access = .write)
    (h : mmu.walk table a ctx stage = .ok (p, entries)) (b : PhysicalAddress)
    : b ∈ entries ↔ b = entryAddress table a ∧ (mmu.memory.byteAt b).getMsbD 5 = false := by
  obtain ⟨e, hentry, -, -, hr⟩ := walk_eq_ok_iff.mp h
  cases hr
  rw [(entry_eq_ok_iff.mp hentry).2, has_changed_wordAt]
  simp only [haccess, decide_true, Bool.true_and, Bool.not_eq_true']
  split
  . next hunmarked =>
    rw [List.mem_singleton]
    constructor
    . rintro rfl
      exact ⟨rfl, hunmarked⟩
    . exact And.left
  . next hmarked =>
    constructor
    . intro hb
      cases hb
    . rintro ⟨rfl, hunmarked⟩
      exact absurd hunmarked hmarked

/-- What a write has to mark are the entries on its way that are not marked. -/
theorem mem_entries_of_resolve (haccess : ctx.access = .write)
    (h : mmu.resolve a ctx = .ok (p, entries)) (b : PhysicalAddress)
    : b ∈ entries ↔ b ∈ mmu.walked a ctx ∧ (mmu.memory.byteAt b).getMsbD 5 = false := by
  unfold walked
  cases hpaging : mmu.paging with
  | false =>
    rw [resolve_of_real hpaging] at h
    cases h
    simp
  | true =>
    cases htables : ctx.tables with
    | single table =>
      rw [resolve_of_single hpaging htables] at h
      rw [mem_entries_of_walk haccess h]
      simp
    | nested guest host =>
      rw [resolve_nested_eq_ok_iff hpaging htables] at h
      obtain ⟨middle, guestEntries, hostEntries, hguest, hhost, rfl⟩ := h
      rw [List.mem_append, mem_entries_of_walk haccess hguest, mem_entries_of_walk haccess hhost]
      simp [hguest, or_and_right]

/-! ### Bytes in their places -/

theorem foldl_put_of_not_mem (hq : q ∉ bytes.map Prod.fst)
    : (bytes.foldl (fun mmu x => mmu.put x.1 x.2) mmu).memory.byteAt q = mmu.memory.byteAt q
        ∧ (bytes.foldl (fun mmu x => mmu.put x.1 x.2) mmu).log.get q = mmu.log.get q := by
  induction bytes generalizing mmu with
  | nil => exact ⟨rfl, rfl⟩
  | cons x bytes ih =>
    rw [List.map_cons, List.mem_cons, not_or] at hq
    have hput : (mmu.put x.1 x.2).memory.byteAt q = mmu.memory.byteAt q
        ∧ (mmu.put x.1 x.2).log.get q = mmu.log.get q := by
      unfold put
      dsimp only
      rw [Memory.byteAt_store, AccessLog.get_add, if_neg hq.1, if_neg hq.1]
      exact ⟨rfl, rfl⟩
    rw [List.foldl_cons, ← hput.1, ← hput.2]
    exact ih hq.2

theorem foldl_put_of_mem (hnodup : (bytes.map Prod.fst).Nodup) {x : PhysicalAddress × Byte}
    (hx : x ∈ bytes)
    : (bytes.foldl (fun mmu x => mmu.put x.1 x.2) mmu).memory.byteAt x.1 = x.2
        ∧ (bytes.foldl (fun mmu x => mmu.put x.1 x.2) mmu).log.get x.1
          =
          (mmu.log.get x.1).union ⟨false, true, mmu.memory.byteAt x.1 ≠ x.2⟩ := by
  induction bytes generalizing mmu with
  | nil => cases hx
  | cons y bytes ih =>
    rw [List.map_cons, List.nodup_cons] at hnodup
    rw [List.foldl_cons]
    cases List.mem_cons.mp hx with
    | inl heq =>
      -- No later byte comes to the place of the first one.
      subst heq
      have hlater := @foldl_put_of_not_mem (mmu.put x.1 x.2) _ _ hnodup.1
      rw [hlater.1, hlater.2]
      unfold put
      dsimp only
      rw [Memory.byteAt_store, AccessLog.get_add, if_pos rfl, if_pos rfl]
      refine ⟨rfl, ?_⟩
      by_cases hold : mmu.memory.byteAt x.1 = x.2
      . simp [hold, AccessSet.writing]
      . simp [hold, AccessSet.union, AccessSet.writing, AccessSet.modifying]
    | inr hmem =>
      have hne : x.1 ≠ y.1 := by
        intro heq
        exact hnodup.1 (heq ▸ List.mem_map_of_mem hmem)
      have hput : (mmu.put y.1 y.2).memory.byteAt x.1 = mmu.memory.byteAt x.1
          ∧ (mmu.put y.1 y.2).log.get x.1 = mmu.log.get x.1 := by
        unfold put
        dsimp only
        rw [Memory.byteAt_store, AccessLog.get_add, if_neg hne, if_neg hne]
        exact ⟨rfl, rfl⟩
      rw [← hput.1, ← hput.2]
      exact ih hnodup.2 hmem

theorem foldl_put_same (bytes : List (PhysicalAddress × Byte))
    : ∀ (mmu : Mmu), (bytes.foldl (fun mmu x => mmu.put x.1 x.2) mmu).paging = mmu.paging
        ∧ (bytes.foldl (fun mmu x => mmu.put x.1 x.2) mmu).memory.capacity = mmu.memory.capacity := by
  induction bytes with
  | nil => intro mmu; exact ⟨rfl, rfl⟩
  | cons x bytes ih => intro mmu; exact ih (mmu.put x.1 x.2)

/-! ### Writes -/

/-- The unit once bytes have been written in their places by walks that went through these entries. -/
structure Wrote (mmu mmu' : Mmu) (used : List PhysicalAddress) (bytes : List (PhysicalAddress × Byte)) :
    Prop where
  paging : mmu'.paging = mmu.paging
  capacity : mmu'.memory.capacity = mmu.memory.capacity
  nodup : (bytes.map Prod.fst).Nodup
  byteAt_place : ∀ x ∈ bytes, mmu'.memory.byteAt x.1 = x.2
  /-- Beside the bytes written only the first bytes of entries change, and in them a single bit. -/
  byteAt_other : ∀ q ∉ bytes.map Prod.fst, mmu'.memory.byteAt q = mmu.markedByte used q
  changed : ∀ b ∈ used, (∀ q ∈ Memory.wordPlaces b, q ∉ bytes.map Prod.fst)
    → (⟨mmu'.memory.wordAt b⟩ : PageTableEntry).has .changed
  /-- A byte is modified if it differs from the one in its place, the marks on entries included. -/
  log_place : ∀ x ∈ bytes, mmu'.log.get x.1
    = (mmu.log.get x.1).union ⟨false, true, mmu.markedByte used x.1 ≠ x.2⟩
  log_other : ∀ q ∉ bytes.map Prod.fst, mmu'.log.get q = mmu.log.get q

theorem getMsbD_markedByte (h : q ∈ used) : (mmu.markedByte used q).getMsbD 5 = true := by
  unfold markedByte
  rw [if_pos h, BitVec.getMsbD_or]
  simp [changedByte]

theorem wrote_foldl (hnodup : (bytes.map Prod.fst).Nodup)
    (hentries : ∀ b, b ∈ entries ↔ b ∈ used ∧ (mmu.memory.byteAt b).getMsbD 5 = false)
    : mmu.Wrote (bytes.foldl (fun mmu x => mmu.put x.1 x.2) (entries.foldl mark mmu)) used bytes := by
  have hmarked : ∀ q, (entries.foldl mark mmu).memory.byteAt q = mmu.markedByte used q := by
    intro q
    rw [byteAt_foldl_mark, markedByte_congr hentries]
  have hother : ∀ q ∉ bytes.map Prod.fst,
      (bytes.foldl (fun mmu x => mmu.put x.1 x.2) (entries.foldl mark mmu)).memory.byteAt q
        = mmu.markedByte used q := by
    intro q hq
    rw [(foldl_put_of_not_mem hq).1, hmarked]
  -- Entries are marked first and the bytes written then, so a byte wins over a mark in its place.
  constructor
  case paging => rw [(foldl_put_same bytes _).1, (log_foldl_mark entries mmu).2]
  case capacity => rw [(foldl_put_same bytes _).2, capacity_foldl_mark]
  case nodup => exact hnodup
  case byteAt_place =>
    intro x hx
    exact (foldl_put_of_mem hnodup hx).1
  case byteAt_other => exact hother
  case changed =>
    intro b hb hfree
    rw [has_changed_wordAt, hother b (hfree b (by simp [Memory.wordPlaces]))]
    exact getMsbD_markedByte hb
  case log_place =>
    intro x hx
    rw [(foldl_put_of_mem hnodup hx).2, (log_foldl_mark entries mmu).1, hmarked]
  case log_other =>
    intro q hq
    rw [(foldl_put_of_not_mem hq).2, (log_foldl_mark entries mmu).1]

theorem toNat_mod_of_resolve (h : mmu.resolve a ctx = .ok (p, entries))
    : p.toNat % pageSize = a.toNat % pageSize := by
  cases hpaging : mmu.paging with
  | false =>
    rw [resolve_of_real hpaging] at h
    cases h
    rfl
  | true =>
    cases htables : ctx.tables with
    | single table =>
      rw [resolve_of_single hpaging htables] at h
      exact toNat_mod_of_walk h
    | nested guest host =>
      rw [resolve_nested_eq_ok_iff hpaging htables] at h
      obtain ⟨middle, guestEntries, hostEntries, hguest, hhost, -⟩ := h
      exact (toNat_mod_of_walk hhost).trans (toNat_mod_of_walk hguest)

theorem place_injective {r : Fin 4 → PhysicalAddress × List PhysicalAddress}
    (h : ∀ k : Fin 4, mmu.resolve (a.add k) ctx = .ok (r k)) {j k : Fin 4} (hjk : (r j).1 = (r k).1)
    : j = k := by
  have hj := toNat_mod_of_resolve (h j)
  have hk := toNat_mod_of_resolve (h k)
  have hj' := j.isLt
  have hk' := k.isLt
  rw [hjk, hk, Address.toNat_add, Address.toNat_add, pageSize_eq] at hj
  apply Fin.ext
  omega

theorem wrote_of_writeWord_ok (haccess : ctx.access = .write) {w : Word}
    (h : writeWord a w ctx mmu = .ok () mmu')
    : ∃ p : Fin 4 → PhysicalAddress,
        (∀ k : Fin 4, ∃ entries, mmu.resolve (a.add k) ctx = .ok (p k, entries))
          ∧ mmu.Wrote mmu' ((wordAddresses a).flatMap (mmu.walked · ctx))
              (List.ofFn fun k : Fin 4 => (p k, Bits.field w (8 * k) 8)) := by
  obtain ⟨places, entries, htargets, rfl⟩ := writeWord_eq_ok_iff.mp h
  obtain ⟨r, hr, rfl, hentries⟩ := exists_bytes_of_resolveWord (holds_of_targets htargets).1
  have hbytes : (List.ofFn fun k => (r k).1).zip (Bits.bytes w)
      = List.ofFn fun k : Fin 4 => ((r k).1, Bits.field w (8 * k) 8) := rfl
  refine ⟨fun k => (r k).1, fun k => ⟨(r k).2, hr k⟩, ?_⟩
  unfold written
  rw [hbytes]
  apply wrote_foldl
  . rw [List.map_ofFn, List.nodup_ofFn]
    intro j k hjk
    exact place_injective hr hjk
  . intro b
    rw [hentries, wordAddresses_eq_ofFn, List.mem_flatMap]
    constructor
    . rintro ⟨k, hb⟩
      have hmem := (mem_entries_of_resolve haccess (hr k) b).mp hb
      exact ⟨⟨a.add k, List.mem_ofFn.mpr ⟨k, rfl⟩, hmem.1⟩, hmem.2⟩
    . rintro ⟨⟨a', ha', hb⟩, hbit⟩
      obtain ⟨k, rfl⟩ := List.mem_ofFn.mp ha'
      exact ⟨k, (mem_entries_of_resolve haccess (hr k) b).mpr ⟨hb, hbit⟩⟩

/--
Memory once a word has been stored by way of the tables. Beside its bytes, which are where their addresses were
found, only the first bytes of entries on their ways change, and in them a single bit.
-/
structure WordStored (mmu mmu' : Mmu) (a : VirtualAddress) (w : Word) (ctx : AccessContext)
    (place : Fin 4 → PhysicalAddress) : Prop where
  resolve : ∀ k : Fin 4, ∃ entries, mmu.resolve (a.add k) ctx = .ok (place k, entries)
  byteAt_place : ∀ k : Fin 4, mmu'.memory.byteAt (place k) = Bits.field w (8 * k) 8
  byteAt_other : ∀ q, (∀ k, q ≠ place k) → mmu'.memory.byteAt q = mmu.memory.byteAt q
    ∨ (∃ k : Fin 4, q ∈ mmu.walked (a.add k) ctx) ∧ mmu'.memory.byteAt q = mmu.memory.byteAt q ||| changedByte

theorem wordStored_of_writeWord_ok (haccess : ctx.access = .write) {w : Word}
    (h : writeWord a w ctx mmu = .ok () mmu') : ∃ place, mmu.WordStored mmu' a w ctx place := by
  obtain ⟨place, hplace, hwrote⟩ := wrote_of_writeWord_ok haccess h
  refine ⟨place, hplace, ?_, ?_⟩
  . intro k
    exact hwrote.byteAt_place (place k, Bits.field w (8 * k) 8) (List.mem_ofFn.mpr ⟨k, rfl⟩)
  . intro q hq
    have hother : q ∉ (List.ofFn fun k : Fin 4 => (place k, Bits.field w (8 * k) 8)).map Prod.fst := by
      rw [List.map_ofFn, List.mem_ofFn]
      rintro ⟨k, hk⟩
      exact hq k hk.symm
    rw [hwrote.byteAt_other q hother]
    unfold markedByte
    by_cases hused : q ∈ (wordAddresses a).flatMap (mmu.walked · ctx)
    . rw [if_pos hused]
      rw [wordAddresses_eq_ofFn, List.mem_flatMap] at hused
      obtain ⟨a', ha', hused⟩ := hused
      obtain ⟨k, rfl⟩ := List.mem_ofFn.mp ha'
      exact .inr ⟨⟨k, hused⟩, rfl⟩
    . exact .inl (if_neg hused)

/-! ### Single bytes -/

/-- A byte is written as a whole or not at all, as a word is. -/
theorem writeByte_eq (a : VirtualAddress) (b : Byte) (ctx : AccessContext) (mmu : Mmu)
    : writeByte a b ctx mmu
        =
      match mmu.resolve a ctx with
      | .error t => .error t mmu
      | .ok (p, entries) =>
        if mmu.memory.holds p then .ok () ((entries.foldl mark mmu).put p b)
        else .error (.beyondMemory ⟨p, mmu.memory.capacity⟩) mmu := by
  unfold writeByte
  rw [Action.get_bind_apply]
  cases hresolve : mmu.resolve a ctx with
  | error t => rfl
  | ok found =>
    obtain ⟨p, entries⟩ := found
    show (ofExcept (ofMemoryRead (mmu.memory.check p)) >>= fun _ => do
      markChanged entries
      writePlace p b : Action Unit) mmu
      = if mmu.memory.holds p then .ok () ((entries.foldl mark mmu).put p b)
        else .error (.beyondMemory ⟨p, mmu.memory.capacity⟩) mmu
    cases hholds : mmu.memory.holds p with
    | false =>
      unfold Memory.check
      rw [hholds]
      rfl
    | true =>
      rw [Memory.check_eq_ok_iff.mpr hholds]
      show (markChanged entries >>= fun _ => writePlace p b : Action Unit) mmu = _
      rw [Action.bind_of_ok (markChanged_of_resolve hresolve)]
      apply writePlace_of_holds
      rw [Memory.holds_congr (capacity_foldl_mark entries mmu), hholds]

theorem eq_of_writeByte_error {b : Byte} {t : Trap} (h : writeByte a b ctx mmu = .error t mmu')
    : mmu' = mmu := by
  rw [writeByte_eq] at h
  split at h
  . cases h
    rfl
  . split at h
    . cases h
    . cases h
      rfl

theorem wrote_of_writeByte_ok (haccess : ctx.access = .write) {b : Byte}
    (h : writeByte a b ctx mmu = .ok () mmu')
    : ∃ p entries, mmu.resolve a ctx = .ok (p, entries)
        ∧ mmu.Wrote mmu' (mmu.walked a ctx) [(p, b)] := by
  rw [writeByte_eq] at h
  split at h
  . cases h
  . next p entries hresolve =>
    split at h
    . cases h
      refine ⟨p, entries, hresolve, ?_⟩
      have hnodup : ([(p, b)].map Prod.fst).Nodup := by simp
      apply wrote_foldl hnodup
      exact mem_entries_of_resolve haccess hresolve
    . cases h

/--
A write fails and changes nothing, or leaves its bytes where they are found before it, and marks the
entries of their walks. The bytes of a word come with the most significant one first.
-/
theorem write_all_or_nothing (mmu : Mmu) (a : VirtualAddress) {ctx : AccessContext}
    (haccess : ctx.access = .write)
    : (∀ w t mmu', writeWord a w ctx mmu = .error t mmu' → mmu' = mmu)
        ∧ (∀ b t mmu', writeByte a b ctx mmu = .error t mmu' → mmu' = mmu)
        ∧ (∀ w mmu', writeWord a w ctx mmu = .ok () mmu'
            → ∃ p : Fin 4 → PhysicalAddress,
              (∀ k : Fin 4, ∃ entries, mmu.resolve (a.add k) ctx = .ok (p k, entries))
                ∧ mmu.Wrote mmu' ((wordAddresses a).flatMap (mmu.walked · ctx))
                    (List.ofFn fun k : Fin 4 => (p k, Bits.field w (8 * k) 8)))
        ∧ (∀ b mmu', writeByte a b ctx mmu = .ok () mmu'
            → ∃ p entries, mmu.resolve a ctx = .ok (p, entries)
                ∧ mmu.Wrote mmu' (mmu.walked a ctx) [(p, b)]) := by
  refine ⟨?_, ?_, ?_, ?_⟩
  . intro w t mmu' h
    exact eq_of_writeWord_error h
  . intro b t mmu' h
    exact eq_of_writeByte_error h
  . intro w mmu' h
    exact wrote_of_writeWord_ok haccess h
  . intro b mmu' h
    exact wrote_of_writeByte_ok haccess h

/-- A page that holds the table which maps it. -/
def selfMapped : Mmu where
  memory := (Memory.empty ⟨0xFFFF⟩).storeAll [(⟨0x1004⟩, 0xC0), (⟨0x1007⟩, 0x01)]
  paging := true
  log := .empty

/-- Three bytes of the entry are written over, but the first one is marked; the next page is missing. -/
theorem write_of_selfMapped
    : let ctx : AccessContext := ⟨.user, .write, .single ⟨0x1000⟩⟩
      ctx.access = .write
      ∧ (∃ mmu', writeWord ⟨0x1005⟩ 0x11223344 ctx selfMapped = .ok () mmu'
        ∧ mmu'.memory.byteAt ⟨0x1004⟩ = 0xC4
        ∧ mmu'.memory.byteAt ⟨0x1007⟩ = 0x33
        ∧ mmu'.log.get ⟨0x1004⟩ = .none
        ∧ mmu'.log.get ⟨0x1007⟩ = ⟨false, true, true⟩)
      ∧ ∃ t mmu', writeWord ⟨0x1FFE⟩ 0x11223344 ctx selfMapped = .error t mmu' ∧ mmu' = selfMapped := by
  intro ctx
  refine ⟨rfl, ?_, ?_⟩
  . have hwrite : Action.outcome (writeWord ⟨0x1005⟩ 0x11223344 ctx selfMapped) = .ok () := by
      decide +kernel
    replace hwrite := Action.eq_ok_of_outcome hwrite
    obtain ⟨-, -, hok, -⟩ := @write_all_or_nothing selfMapped ⟨0x1005⟩ ctx rfl
    obtain ⟨p, hp, hwrote⟩ := hok _ _ hwrite
    have hplace : p = fun k : Fin 4 => Address.add ⟨0x1005⟩ k := by
      have hresolve : ∀ k : Fin 4, selfMapped.resolve (Address.add ⟨0x1005⟩ k) ctx
          = .ok (Address.add ⟨0x1005⟩ k, [⟨0x1004⟩]) := by
        decide +kernel
      funext k
      obtain ⟨entries, hk⟩ := hp k
      rw [hresolve k] at hk
      exact (congrArg Prod.fst (Except.ok.inj hk)).symm
    subst hplace
    refine ⟨_, hwrite, ?_, ?_, ?_, ?_⟩
    . rw [hwrote.byteAt_other ⟨0x1004⟩ (by decide +kernel)]
      decide +kernel
    . exact hwrote.byteAt_place (⟨0x1007⟩, 0x33) (by decide +kernel)
    . rw [hwrote.log_other ⟨0x1004⟩ (by decide +kernel)]
      decide +kernel
    . rw [hwrote.log_place (⟨0x1007⟩, 0x33) (by decide +kernel)]
      decide +kernel
  . have hwrite : Action.outcome (writeWord ⟨0x1FFE⟩ 0x11223344 ctx selfMapped)
        = .error (.pageFault ⟨0, ⟨0x1008⟩, ⟨0x2000⟩, .single⟩) := by
      decide +kernel
    replace hwrite := Action.eq_error_of_outcome hwrite
    obtain ⟨herror, -⟩ := @write_all_or_nothing selfMapped ⟨0x1FFE⟩ ctx rfl
    exact ⟨_, _, hwrite, herror _ _ _ hwrite⟩

end Mmu

end Triword
