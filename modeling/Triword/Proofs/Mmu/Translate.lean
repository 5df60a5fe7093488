import Triword.Proofs.Mmu.Write

/-!
Where an address is found, in numbers: where a table has the entry of a page, which bits of the entry
say whether the page may be accessed, and what the place is. Translation is one look-up in each table.
-/

namespace Triword

namespace PageTableEntry

variable (e : PageTableEntry)

theorem has_eq_testBit (flag : PageFlag) : e.has flag = e.word.toNat.testBit (31 - flag.place) := by
  unfold has BitVec.getMsbD BitVec.getLsbD
  cases flag <;> rfl

theorem flags_eq_ofNat : e.flags = BitVec.ofNat 12 (e.word.toNat / 1048576) := by
  apply BitVec.eq_of_toNat_eq
  simp only [flags, Bits.field, BitVec.extractLsb'_toNat, Nat.shiftRight_eq_div_pow, BitVec.toNat_ofNat]

theorem toNat_frame : e.frame.toNat = e.word.toNat % 1048576 := by
  simp only [frame, Bits.field, BitVec.extractLsb'_toNat, Nat.shiftRight_eq_div_pow]
  omega

end PageTableEntry

namespace Mmu

variable {mmu : Mmu} {ctx : AccessContext} {a : VirtualAddress}

/-- Entries have four bytes each, and there is one for every page. A table goes on round the end. -/
def entryPlace (table : PhysicalAddress) (a : VirtualAddress) : PhysicalAddress :=
  ⟨BitVec.ofNat 32 (table.toNat + 4 * (a.toNat / pageSize))⟩

def bars (entry : Nat) (ctx : AccessContext) : Bool :=
  ctx.privilege = .user && entry.testBit 28
    || ctx.access = .write && !entry.testBit 30
    || ctx.access = .execute && !entry.testBit 29

def lookUp (m : Memory) (table : PhysicalAddress) (a : VirtualAddress) (ctx : AccessContext) (stage : Stage)
    : Except Trap PhysicalAddress :=
  let place := entryPlace table a
  match (Memory.wordPlaces place).find? (fun p => decide (m.capacity.toNat < p.toNat)) with
  | some p => .error (.beyondMemory ⟨p, m.capacity⟩)
  | none =>
    let entry := (m.wordAt place).toNat
    if !entry.testBit 31 then
      .error (.pageFault ⟨BitVec.ofNat 12 (entry / 1048576), place, a, stage⟩)
    else if bars entry ctx then .error .privilegeViolation
    else .ok ⟨BitVec.ofNat 32 (entry % 1048576 * pageSize + a.toNat % pageSize)⟩

theorem entryAddress_eq_entryPlace (table : PhysicalAddress) (a : VirtualAddress)
    : entryAddress table a = entryPlace table a := by
  apply Address.eq_of_toNat_eq
  rw [toNat_entryAddress, Address.toNat_page]
  exact (BitVec.toNat_ofNat (table.toNat + 4 * (a.toNat / pageSize)) 32).symm

theorem denies_eq_bars (e : PageTableEntry) (ctx : AccessContext)
    : denies e ctx = bars e.word.toNat ctx := by
  unfold denies bars
  rw [e.has_eq_testBit .kernelOnly, e.has_eq_testBit .writable, e.has_eq_testBit .executable]
  rfl

theorem append_eq_ofNat (e : PageTableEntry) (a : VirtualAddress)
    : (⟨e.frame ++ a.pageOffset⟩ : PhysicalAddress)
        =
      ⟨BitVec.ofNat 32 (e.word.toNat % 1048576 * pageSize + a.toNat % pageSize)⟩ := by
  apply Address.eq_of_toNat_eq
  rw [Address.toNat_append, e.toNat_frame, Address.toNat_pageOffset, Nat.mul_comm]
  refine (Nat.mod_eq_of_lt ?_).symm.trans (BitVec.toNat_ofNat ..).symm
  rw [pageSize_eq]
  omega

theorem entry_eq_find (mmu : Mmu) (b : PhysicalAddress)
    : mmu.entry b
        =
      match (Memory.wordPlaces b).find? (fun p => decide (mmu.memory.capacity.toNat < p.toNat)) with
      | some p => .error (.beyondMemory ⟨p, mmu.memory.capacity⟩)
      | none => .ok ⟨mmu.memory.wordAt b⟩ := by
  have hholds : (fun p => !mmu.memory.holds p)
      = fun p => decide (mmu.memory.capacity.toNat < p.toNat) := by
    funext p
    unfold Memory.holds Address.toNat
    rw [← decide_not, decide_eq_decide, BitVec.le_def, Nat.not_le]
  unfold entry Memory.readWord
  rw [Memory.mapM_readByte, hholds]
  cases (Memory.wordPlaces b).find? (fun p => decide (mmu.memory.capacity.toNat < p.toNat)) <;> rfl

theorem map_walk (mmu : Mmu) (table : PhysicalAddress) (a : VirtualAddress) (ctx : AccessContext)
    (stage : Stage)
    : (mmu.walk table a ctx stage).map Prod.fst = lookUp mmu.memory table a ctx stage := by
  rw [walk_eq, entry_eq_find, entryAddress_eq_entryPlace]
  unfold lookUp
  dsimp only
  cases (Memory.wordPlaces (entryPlace table a)).find?
      (fun p => decide (mmu.memory.capacity.toNat < p.toNat)) with
  | some p => rfl
  | none =>
    show (walkEntry table a ctx stage ⟨mmu.memory.wordAt (entryPlace table a)⟩).map Prod.fst = _
    generalize mmu.memory.wordAt (entryPlace table a) = w
    unfold walkEntry
    dsimp only
    rw [PageTableEntry.has_eq_testBit, PageTableEntry.flags_eq_ofNat, denies_eq_bars, append_eq_ofNat,
      entryAddress_eq_entryPlace]
    show Except.map _ (if !w.toNat.testBit 31 then _ else _) = _
    cases w.toNat.testBit 31 with
    | false => rfl
    | true => cases bars w.toNat ctx <;> rfl

theorem map_resolve_of_nested {guest host : PhysicalAddress} (hpaging : mmu.paging)
    (htables : ctx.tables = .nested guest host)
    : (mmu.resolve a ctx).map Prod.fst
        =
      lookUp mmu.memory guest a ctx .guest >>= fun middle =>
        lookUp mmu.memory host ⟨middle.word⟩ ctx .host := by
  rw [resolve_of_nested hpaging htables, ← map_walk]
  cases mmu.walk guest a ctx .guest with
  | error t => rfl
  | ok middle =>
    show _ = lookUp mmu.memory host ⟨middle.1.word⟩ ctx .host
    rw [← map_walk]
    show (mmu.walk host ⟨middle.1.word⟩ ctx .host >>= _).map Prod.fst = _
    cases mmu.walk host ⟨middle.1.word⟩ ctx .host <;> rfl

theorem outcome_translate (a : VirtualAddress) (ctx : AccessContext) (mmu : Mmu)
    : Action.outcome (translate a ctx mmu) = (mmu.resolve a ctx).map Prod.fst := by
  rw [translate_eq]
  cases mmu.resolve a ctx <;> rfl

/--
An address is translated as the tables of memory say, as it is before any entry is marked. Of nested
tables the host table is asked about the address that the guest table gives, and which of them failed is
reported. A translation that fails leaves the unit as it was.
-/
theorem translate_eq_lookUp (mmu : Mmu) (hpaging : mmu.paging) (a : VirtualAddress) (ctx : AccessContext)
    : (∀ table, ctx.tables = .single table
          → Action.outcome (translate a ctx mmu) = lookUp mmu.memory table a ctx .single)
        ∧ (∀ guest host, ctx.tables = .nested guest host
          → Action.outcome (translate a ctx mmu)
              =
            lookUp mmu.memory guest a ctx .guest >>= fun middle =>
              lookUp mmu.memory host ⟨middle.word⟩ ctx .host)
        ∧ ∀ t mmu', translate a ctx mmu = .error t mmu' → mmu' = mmu := by
  refine ⟨?_, ?_, ?_⟩
  . intro table htables
    rw [outcome_translate, resolve_of_single hpaging htables, map_walk]
  . intro guest host htables
    rw [outcome_translate, map_resolve_of_nested hpaging htables]
  . intro t mmu' h
    rw [translate_eq] at h
    split at h
    . cases h
      rfl
    . cases h

/-- A guest table between two words, and a host table that begins at the end of the space. -/
def askew : Mmu where
  memory := (Memory.empty ⟨0xFFFF⟩).storeAll
    [(⟨0x200D⟩, 0xC0), (⟨0x2010⟩, 5), (⟨0x2011⟩, 0xC0), (⟨0x2014⟩, 6), (⟨0x2015⟩, 0xD0),
      (⟨0x4⟩, 0xC0), (⟨0x7⟩, 9), (⟨0x8⟩, 0x60)]
  paging := true
  log := .empty

/-- Pages of `askew` that are there, that the host or the guest table denies, and that have no entry. -/
theorem translate_of_askew
    : let ctx : AccessContext := ⟨.user, .write, .nested ⟨0x2001⟩ ⟨0xFFFFFFF0⟩⟩
      Action.outcome (translate ⟨0x3ABC⟩ ctx askew) = .ok ⟨0x9ABC⟩
      ∧ translate ⟨0x4ABC⟩ ctx askew = .error (.pageFault ⟨0x600, ⟨0x8⟩, ⟨0x6ABC⟩, .host⟩) askew
      ∧ translate ⟨0x5ABC⟩ ctx askew = .error .privilegeViolation askew
      ∧ translate ⟨0x37FFABC⟩ ctx askew = .error (.beyondMemory ⟨⟨0x10000⟩, ⟨0xFFFF⟩⟩) askew
      ∧ Action.outcome (translate ⟨0x3ABC⟩ ⟨.kernel, .read, .single ⟨0x2001⟩⟩ askew) = .ok ⟨0x5ABC⟩ := by
  intro ctx
  have hpaging : askew.paging := rfl
  have hnested := fun a => (translate_eq_lookUp askew hpaging a ctx).2.1 _ _ rfl
  -- A failure that the tables give is the failure of the translation, and has changed nothing.
  have hfails : ∀ {a t}, Action.outcome (translate a ctx askew) = .error t
      → translate a ctx askew = .error t askew := by
    intro a t h
    have herror := Action.eq_error_of_outcome h
    rw [herror, (translate_eq_lookUp askew hpaging a ctx).2.2 _ _ herror]
  refine ⟨?_, ?_, ?_, ?_, ?_⟩
  . rw [hnested]
    decide +kernel
  . apply hfails
    rw [hnested]
    decide +kernel
  . apply hfails
    rw [hnested]
    decide +kernel
  . apply hfails
    rw [hnested]
    decide +kernel
  . rw [(translate_eq_lookUp askew hpaging ⟨0x3ABC⟩ ⟨.kernel, .read, .single ⟨0x2001⟩⟩).1 _ rfl]
    decide +kernel

end Mmu

end Triword
