import Triword.Proofs.Mmu.Sequence

/-!
What an access depends on. Whether and where a word is found depends on the entries of the tables
alone, and what user mode reads depends beside these on the pages that the tables open to it. Writes
that succeed keep an agreement on the entries.
-/

namespace Triword

def PageTables.HasPlace (tables : PageTables) (p : PhysicalAddress) : Prop :=
  ∃ b, tables.HasEntry b ∧ p ∈ Memory.wordPlaces b

namespace Mmu

variable {mmu mmu' : Mmu} {ctx : AccessContext} {a : VirtualAddress} {p : PhysicalAddress}
variable {entries places : List PhysicalAddress} {tables : PageTables}

def Opens (mmu : Mmu) (table : PhysicalAddress) (a : VirtualAddress) (frame : BitVec 20) : Prop :=
  ∃ e, mmu.entry (entryAddress table a) = .ok e
    ∧ e.has .present
    ∧ e.has .kernelOnly = false
    ∧ e.frame = frame

/-- The place lies in a frame that the tables map and open to user mode, at every stage. -/
def UserReaches (mmu : Mmu) : PageTables → PhysicalAddress → Prop
  | .single table, p => ∃ a, mmu.Opens table a p.page
  | .nested guest host, p =>
    ∃ a middle : VirtualAddress, mmu.Opens guest a middle.page ∧ mmu.Opens host middle p.page

theorem opens_of_walk {table : PhysicalAddress} {stage : Stage} (huser : ctx.privilege = .user)
    (h : mmu.walk table a ctx stage = .ok (p, entries)) : mmu.Opens table a p.page := by
  obtain ⟨e, hentry, hpresent, hdenies, hr⟩ := walk_eq_ok_iff.mp h
  cases hr
  have hallows := (denies_eq_false_iff e ctx).mp hdenies
  exact ⟨e, hentry, hpresent, hallows.1 huser, (Address.page_append ..).symm⟩

theorem userReaches_of_resolve (hpaging : mmu.paging) (huser : ctx.privilege = .user)
    (h : mmu.resolve a ctx = .ok (p, entries)) : mmu.UserReaches ctx.tables p := by
  cases htables : ctx.tables with
  | single table =>
    rw [resolve_of_single hpaging htables] at h
    exact ⟨a, opens_of_walk huser h⟩
  | nested guest host =>
    rw [resolve_nested_eq_ok_iff hpaging htables] at h
    obtain ⟨middle, guestEntries, hostEntries, hguest, hhost, rfl⟩ := h
    exact ⟨a, ⟨middle.word⟩, opens_of_walk huser hguest, opens_of_walk huser hhost⟩

theorem userReaches_of_resolveWord (hpaging : mmu.paging) (huser : ctx.privilege = .user)
    (h : mmu.resolveWord a ctx = .ok (places, entries)) (hp : p ∈ places)
    : mmu.UserReaches ctx.tables p := by
  obtain ⟨a', entries', hresolve⟩ := exists_resolve_of_mem_places h hp
  exact userReaches_of_resolve hpaging huser hresolve

structure SameTables (tables : PageTables) (mmu mmu' : Mmu) : Prop where
  paging : mmu'.paging = mmu.paging
  memory : mmu.memory.AgreeOn tables.HasPlace mmu'.memory

namespace SameTables

theorem withLog (tables : PageTables) (mmu : Mmu) (log : AccessLog)
    : SameTables tables mmu (mmu.withLog log) :=
  ⟨rfl, .refl _ _⟩

theorem entry_eq (h : SameTables tables mmu mmu') {b : PhysicalAddress} (hb : tables.HasEntry b)
    : mmu'.entry b = mmu.entry b := by
  have hword : mmu'.memory.readWord b = mmu.memory.readWord b := by
    apply h.memory.readWord_eq
    intro p hp
    exact ⟨b, hb, hp⟩
  unfold entry
  rw [hword]

theorem resolveWord_eq (h : SameTables ctx.tables mmu mmu') (a : VirtualAddress)
    : mmu'.resolveWord a ctx = mmu.resolveWord a ctx := by
  apply resolveWord_congr h.paging
  intro b hb
  exact h.entry_eq hb

theorem targets_eq (h : SameTables ctx.tables mmu mmu') (a : VirtualAddress)
    : mmu'.targets a ctx = mmu.targets a ctx := by
  have hcheck : mmu'.memory.check = mmu.memory.check := by
    funext p
    exact h.memory.check_eq p
  unfold targets
  rw [h.resolveWord_eq, hcheck]

theorem mark (h : SameTables tables mmu mmu') {b : PhysicalAddress} (hb : tables.HasEntry b)
    (hholds : ∀ q ∈ Memory.wordPlaces b, mmu.memory.holds q)
    : SameTables tables (mmu.mark b) (mmu'.mark b) := by
  have hword : mmu'.memory.wordAt b = mmu.memory.wordAt b := by
    apply h.memory.wordAt_eq
    intro q hq
    exact ⟨⟨b, hb, hq⟩, hholds q hq⟩
  unfold Mmu.mark
  rw [hword]
  dsimp only
  split
  . exact h
  . exact ⟨h.paging, h.memory.storeWord b _⟩

theorem put (h : SameTables tables mmu mmu') (p : PhysicalAddress) (b : Byte)
    : SameTables tables (mmu.put p b) (mmu'.put p b) :=
  ⟨h.paging, h.memory.store p b⟩

theorem marks (h : SameTables tables mmu mmu') (hentries : ∀ b ∈ entries, tables.HasEntry b
      ∧ ∀ q ∈ Memory.wordPlaces b, mmu.memory.holds q)
    : SameTables tables (entries.foldl Mmu.mark mmu) (entries.foldl Mmu.mark mmu') := by
  induction entries generalizing mmu mmu' with
  | nil => exact h
  | cons b entries ih =>
    obtain ⟨hb, hholds⟩ := hentries b List.mem_cons_self
    -- Marking changes no capacity, so the other entries are still in memory.
    apply ih (h.mark hb hholds)
    intro c hc
    obtain ⟨hc, hholds⟩ := hentries c (List.mem_cons_of_mem b hc)
    refine ⟨hc, ?_⟩
    intro q hq
    rw [Memory.holds_congr (capacity_mark mmu b)]
    exact hholds q hq

theorem written (h : SameTables ctx.tables mmu mmu')
    (hresolve : mmu.resolveWord a ctx = .ok (places, entries)) (w : Word)
    : SameTables ctx.tables (mmu.written places entries w) (mmu'.written places entries w) := by
  unfold Mmu.written
  apply List.foldl_rel (r := fun mmu mmu' : Mmu => SameTables ctx.tables mmu mmu')
  . apply h.marks
    intro b hb
    exact (entries_of_resolveWord hresolve hb).2
  . intro x _ mmu mmu' h
    exact h.put x.1 x.2

theorem outcome_writeAll (h : SameTables ctx.tables mmu mmu') (words : List (VirtualAddress × Word))
    : Action.outcome (writeAll words ctx mmu') = Action.outcome (writeAll words ctx mmu) := by
  induction words generalizing mmu mmu' with
  | nil => rfl
  | cons x words ih =>
    rw [writeAll_cons]
    have htargets := h.targets_eq x.1
    cases hr : mmu.targets x.1 ctx with
    | error t =>
      rw [hr] at htargets
      rw [Action.bind_of_error (writeWord_of_targets_error hr x.2)]
      rw [Action.bind_of_error (writeWord_of_targets_error htargets x.2)]
      rfl
    | ok r =>
      -- Both write the word, and agree on the entries afterwards.
      rw [hr] at htargets
      rw [Action.bind_of_ok (writeWord_of_targets_ok hr x.2)]
      rw [Action.bind_of_ok (writeWord_of_targets_ok htargets x.2)]
      exact ih (h.written (holds_of_targets hr).1 x.2)

end SameTables

/-- The place belongs to an entry of the tables or lies in a frame that user mode reaches. -/
def Visible (mmu : Mmu) (tables : PageTables) (p : PhysicalAddress) : Prop :=
  tables.HasPlace p ∨ mmu.UserReaches tables p

theorem sameTables_of_visible (hpaging : mmu'.paging = mmu.paging)
    (h : mmu.memory.AgreeOn (mmu.Visible tables) mmu'.memory) : SameTables tables mmu mmu' :=
  ⟨hpaging, h.mono fun _ => Or.inl⟩

theorem peek_eq_of_visible (hpaging : mmu.paging) (hpaging' : mmu'.paging)
    (huser : ctx.privilege = .user) (h : mmu.memory.AgreeOn (mmu.Visible ctx.tables) mmu'.memory)
    (a : VirtualAddress) : mmu'.peek a ctx = mmu.peek a ctx := by
  have htables : SameTables ctx.tables mmu mmu' :=
    sameTables_of_visible (hpaging'.trans hpaging.symm) h
  unfold peek
  rw [htables.resolveWord_eq]
  cases hresolve : mmu.resolveWord a ctx with
  | error t => rfl
  | ok r =>
    obtain ⟨places, entries⟩ := r
    have hplaces : places.mapM mmu'.memory.readByte = places.mapM mmu.memory.readByte := by
      apply h.mapM_readByte_eq
      intro p hp
      exact .inr (userReaches_of_resolveWord hpaging huser hresolve hp)
    show (ofMemoryRead (places.mapM mmu'.memory.readByte) >>= fun bytes => pure (Bits.ofBytes bytes))
      = (ofMemoryRead (places.mapM mmu.memory.readByte) >>= fun bytes => pure (Bits.ofBytes bytes))
    rw [hplaces]

end Mmu

end Triword
