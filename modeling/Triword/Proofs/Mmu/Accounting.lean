import Triword.Proofs.Mmu.Sequence
import Triword.Proofs.Mmu.Write

/-!
What the log accounts for. A byte that writes have changed is in the log as modified, unless it is the first byte
of a page table entry and has got nothing but the mark of a changed page.
-/

namespace Triword

namespace PageTableEntry

def BeginsWritable (b : Byte) : Prop :=
  b.getMsbD PageFlag.present.place = true ∧ b.getMsbD PageFlag.writable.place = true

theorem or_changedByte_idem (b : Byte) : b ||| changedByte ||| changedByte = b ||| changedByte := by
  rw [BitVec.or_assoc, BitVec.or_self]

end PageTableEntry

def AccessLog.Sound (log : AccessLog) : Prop :=
  ∀ q, (log.get q).modified → (log.get q).written

theorem AccessLog.sound_empty : empty.Sound := by
  intro q h
  unfold get empty at h
  rw [Std.ExtTreeMap.getD_empty] at h
  cases h

namespace Mmu

open PageTableEntry (changedByte BeginsWritable)

variable {mmu mmu' mmu₁ mmu₂ : Mmu} {ctx : AccessContext} {a : VirtualAddress} {table p b : PhysicalAddress}
variable {stage : Stage} {used entries : List PhysicalAddress} {bytes : List (PhysicalAddress × Byte)}
variable {E F : PhysicalAddress → Prop}

/-- The byte in a place has got the mark of a changed page, as that of an entry that is present and writable. -/
def Marked (mmu mmu' : Mmu) (q : PhysicalAddress) : Prop :=
  BeginsWritable (mmu.memory.byteAt q) ∧ mmu'.memory.byteAt q = mmu.memory.byteAt q ||| changedByte

/--
From one unit to another every byte that differs is modified, or is that of an entry, among these, that has been
marked. Nothing is taken from the log.
-/
structure Accounts (E : PhysicalAddress → Prop) (mmu mmu' : Mmu) : Prop where
  keeps : ∀ q, (mmu.log.get q).modified → (mmu'.log.get q).modified
  sound : mmu.log.Sound → mmu'.log.Sound
  byteAt : ∀ q, (mmu'.log.get q).modified
    ∨ mmu'.memory.byteAt q = mmu.memory.byteAt q
    ∨ E q ∧ mmu.Marked mmu' q

namespace Accounts

theorem refl (E : PhysicalAddress → Prop) (mmu : Mmu) : Accounts E mmu mmu where
  keeps _ h := h
  sound h := h
  byteAt _ := .inr (.inl rfl)

theorem mono (h : Accounts E mmu mmu') (hsub : ∀ q, E q → F q) : Accounts F mmu mmu' where
  keeps := h.keeps
  sound := h.sound
  byteAt q := (h.byteAt q).imp_right fun hq => hq.imp_right fun hmarked => ⟨hsub q hmarked.1, hmarked.2⟩

theorem trans (h₁ : Accounts E mmu mmu₁) (h₂ : Accounts E mmu₁ mmu₂) : Accounts E mmu mmu₂ where
  keeps q h := h₂.keeps q (h₁.keeps q h)
  sound h := h₂.sound (h₁.sound h)
  byteAt q := by
    rcases h₁.byteAt q with hmodified | hsame | ⟨hentry, hbegins, hgained⟩
    . exact .inl (h₂.keeps q hmodified)
    . rw [Marked, ← hsame]
      exact h₂.byteAt q
    . rcases h₂.byteAt q with hmodified | hsame' | ⟨-, -, hgained'⟩
      . exact .inl hmodified
      . exact .inr (.inr ⟨hentry, hbegins, hsame'.trans hgained⟩)
      -- A byte that has the mark keeps it as it is.
      . refine .inr (.inr ⟨hentry, hbegins, ?_⟩)
        rw [hgained', hgained, PageTableEntry.or_changedByte_idem]

theorem of_addsReads (hlog : mmu.log.AddsReads mmu'.log) (hmemory : mmu'.memory = mmu.memory)
    : Accounts E mmu mmu' where
  keeps q h := by
    rw [(hlog q).2]
    exact h
  sound h q := by
    rw [(hlog q).1, (hlog q).2]
    exact h q
  byteAt q := by
    rw [hmemory]
    exact .inr (.inl rfl)

end Accounts

theorem writable_of_walk (haccess : ctx.access = .write) (h : mmu.walk table a ctx stage = .ok (p, entries))
    : BeginsWritable (mmu.memory.byteAt (entryAddress table a)) := by
  obtain ⟨e, hentry, hpresent, hdenies, -⟩ := walk_eq_ok_iff.mp h
  have hwritable := ((denies_eq_false_iff e ctx).mp hdenies).2.1 haccess
  rw [(entry_eq_ok_iff.mp hentry).2, has_wordAt] at hpresent hwritable
  exact ⟨hpresent, hwritable⟩

theorem writable_of_mem_walked (haccess : ctx.access = .write) (h : mmu.resolve a ctx = .ok (p, entries))
    (hb : b ∈ mmu.walked a ctx) : mmu.paging ∧ ctx.tables.HasEntry b ∧ BeginsWritable (mmu.memory.byteAt b) := by
  unfold walked at hb
  cases hpaging : mmu.paging with
  | false =>
    rw [hpaging] at hb
    cases hb
  | true =>
    rw [hpaging] at hb
    cases htables : ctx.tables with
    | single table =>
      rw [resolve_of_single hpaging htables] at h
      rw [htables] at hb
      obtain rfl := List.mem_singleton.mp hb
      exact ⟨rfl, ⟨table, List.mem_cons_self, a, rfl⟩, writable_of_walk haccess h⟩
    | nested guest host =>
      rw [resolve_nested_eq_ok_iff hpaging htables] at h
      obtain ⟨middle, guestEntries, hostEntries, hguest, hhost, -⟩ := h
      simp only [htables, hguest, Bool.not_true, Bool.false_eq_true, ↓reduceIte] at hb
      cases List.mem_cons.mp hb with
      | inl heq =>
        subst heq
        exact ⟨rfl, ⟨guest, List.mem_cons_self, a, rfl⟩, writable_of_walk haccess hguest⟩
      | inr hmem =>
        obtain rfl := List.mem_singleton.mp hmem
        exact ⟨rfl, ⟨host, by simp [PageTables.toList], ⟨middle.word⟩, rfl⟩, writable_of_walk haccess hhost⟩

theorem Wrote.accounts (h : mmu.Wrote mmu' used bytes)
    (hused : ∀ q ∈ used, E q ∧ BeginsWritable (mmu.memory.byteAt q)) : Accounts E mmu mmu' := by
  have hmarked (q : PhysicalAddress) : mmu.markedByte used q = mmu.memory.byteAt q
      ∨ (E q ∧ BeginsWritable (mmu.memory.byteAt q)) ∧ mmu.markedByte used q = mmu.memory.byteAt q ||| changedByte := by
    unfold markedByte
    split
    . next hq => exact .inr ⟨hused q hq, rfl⟩
    . exact .inl rfl
  have hlog {x : PhysicalAddress × Byte} (hx : x ∈ bytes) : ((mmu'.log.get x.1).modified = true
      ↔ (mmu.log.get x.1).modified = true ∨ mmu.markedByte used x.1 ≠ x.2)
      ∧ (mmu'.log.get x.1).written = true := by
    rw [h.log_place x hx]
    simp [AccessSet.union]
  constructor
  case keeps =>
    intro q hmodified
    by_cases hq : q ∈ bytes.map Prod.fst
    . obtain ⟨x, hx, rfl⟩ := List.mem_map.mp hq
      exact (hlog hx).1.mpr (.inl hmodified)
    . rw [h.log_other q hq]
      exact hmodified
  case sound =>
    intro hsound q hmodified
    by_cases hq : q ∈ bytes.map Prod.fst
    . obtain ⟨x, hx, rfl⟩ := List.mem_map.mp hq
      exact (hlog hx).2
    . rw [h.log_other q hq] at hmodified ⊢
      exact hsound q hmodified
  case byteAt =>
    intro q
    by_cases hq : q ∈ bytes.map Prod.fst
    . obtain ⟨x, hx, rfl⟩ := List.mem_map.mp hq
      by_cases hsame : mmu.markedByte used x.1 = x.2
      -- The byte that was written was there already, but perhaps for the mark.
      . right
        unfold Marked
        rw [h.byteAt_place x hx, ← hsame, ← and_assoc]
        exact hmarked x.1
      . exact .inl ((hlog hx).1.mpr (.inr hsame))
    . right
      unfold Marked
      rw [h.byteAt_other q hq, ← and_assoc]
      exact hmarked q

theorem accounts_of_writeWord (haccess : ctx.access = .write) {w : Word} (h : writeWord a w ctx mmu = .ok () mmu')
    : Accounts (fun q => mmu.paging ∧ ctx.tables.HasEntry q) mmu mmu' := by
  obtain ⟨place, hplace, hwrote⟩ := wrote_of_writeWord_ok haccess h
  apply hwrote.accounts
  intro q hq
  rw [wordAddresses_eq_ofFn, List.mem_flatMap] at hq
  obtain ⟨a', ha', hq⟩ := hq
  obtain ⟨k, rfl⟩ := List.mem_ofFn.mp ha'
  obtain ⟨entries, hk⟩ := hplace k
  obtain ⟨hpaging, hentry, hbegins⟩ := writable_of_mem_walked haccess hk hq
  exact ⟨⟨hpaging, hentry⟩, hbegins⟩

theorem accounts_writeAll (haccess : ctx.access = .write) (words : List (VirtualAddress × Word)) (mmu : Mmu)
    : Accounts (fun q => mmu.paging ∧ ctx.tables.HasEntry q) mmu (Action.final (writeAll words ctx mmu)) := by
  induction words generalizing mmu with
  | nil => exact .refl _ mmu
  | cons x words ih =>
    rw [writeAll_cons]
    cases hx : writeWord x.1 x.2 ctx mmu with
    | error t mmu₁ =>
      rw [Action.bind_of_error hx]
      rw [eq_of_writeWord_error hx]
      exact .refl _ mmu
    | ok u mmu₁ =>
      rw [Action.bind_of_ok hx]
      have hpaging : mmu₁.paging = mmu.paging := by
        obtain ⟨place, -, hwrote⟩ := wrote_of_writeWord_ok haccess hx
        exact hwrote.paging
      have hrest := ih mmu₁
      rw [hpaging] at hrest
      exact (accounts_of_writeWord haccess hx).trans hrest

end Mmu

end Triword
