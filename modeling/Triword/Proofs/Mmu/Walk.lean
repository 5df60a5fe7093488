import Triword.Proofs.Address
import Triword.Proofs.Memory

/-!
What a walk finds. A walk through a table sees nothing of memory but the entry of the page, and a word
is resolved as its four bytes are.
-/

namespace Triword

def PageTables.toList : PageTables → List PhysicalAddress
  | .single table => [table]
  | .nested guest host => [guest, host]

def PageTables.HasEntry (tables : PageTables) (b : PhysicalAddress) : Prop :=
  ∃ table ∈ tables.toList, ∃ a : VirtualAddress, b = Mmu.entryAddress table a

namespace Mmu

variable {mmu : Mmu} {ctx : AccessContext} {a : VirtualAddress} {table b p : PhysicalAddress}
variable {stage : Stage} {entries places : List PhysicalAddress}

/-! ### One table -/

theorem entry_eq_ok_iff {e : PageTableEntry}
    : mmu.entry b = .ok e
        ↔
      (∀ p ∈ Memory.wordPlaces b, mmu.memory.holds p) ∧ e = ⟨mmu.memory.wordAt b⟩ := by
  unfold entry ofMemoryRead
  constructor
  . intro h
    cases hw : mmu.memory.readWord b with
    | error f => rw [hw] at h; cases h
    | ok w =>
      have hholds := Memory.holds_of_readWord hw
      rw [Memory.readWord_of_holds hholds] at h
      cases h
      exact ⟨hholds, rfl⟩
  . rintro ⟨hholds, rfl⟩
    rw [Memory.readWord_of_holds hholds]
    rfl

theorem entryAddress_congr {a a' : VirtualAddress} (h : a'.page = a.page) (table : PhysicalAddress)
    : entryAddress table a' = entryAddress table a := by
  show table.offset (a'.page.setWidth 32 <<< 2) = table.offset (a.page.setWidth 32 <<< 2)
  rw [h]

theorem toNat_entryAddress (table : PhysicalAddress) (a : VirtualAddress)
    : (entryAddress table a).toNat = (table.toNat + 4 * a.page.toNat) % 4294967296 := by
  have hpage : a.page.toNat < 1048576 := a.page.isLt
  show (table.offset (a.page.setWidth 32 <<< 2)).word.toNat = _
  rw [Address.word_offset, BitVec.toNat_add, BitVec.toNat_shiftLeft, BitVec.toNat_setWidth]
  rw [Nat.shiftLeft_eq]
  unfold Address.toNat
  omega

theorem denies_eq_false_iff (e : PageTableEntry) (ctx : AccessContext)
    : denies e ctx = false
        ↔
      (ctx.privilege = .user → e.has .kernelOnly = false)
        ∧ (ctx.access = .write → e.has .writable)
        ∧ (ctx.access = .execute → e.has .executable) := by
  simp [denies, and_assoc]

def walkEntry (table : PhysicalAddress) (a : VirtualAddress) (ctx : AccessContext) (stage : Stage)
    (e : PageTableEntry) : Except Trap (PhysicalAddress × List PhysicalAddress) :=
  let b := entryAddress table a
  if !e.has .present then .error (.pageFault ⟨e.flags, b, a, stage⟩)
  else if denies e ctx then .error .privilegeViolation
  else .ok (⟨e.frame ++ a.pageOffset⟩, if ctx.access = .write && !e.has .changed then [b] else [])

theorem walk_eq (mmu : Mmu) (table : PhysicalAddress) (a : VirtualAddress) (ctx : AccessContext)
    (stage : Stage)
    : mmu.walk table a ctx stage
        =
      mmu.entry (entryAddress table a) >>= walkEntry table a ctx stage := by
  rfl

theorem walk_eq_ok_iff {r : PhysicalAddress × List PhysicalAddress}
    : mmu.walk table a ctx stage = .ok r
        ↔
      ∃ e, mmu.entry (entryAddress table a) = .ok e
        ∧ e.has .present
        ∧ denies e ctx = false
        ∧ r = (⟨e.frame ++ a.pageOffset⟩,
            if ctx.access = .write && !e.has .changed then [entryAddress table a] else []) := by
  rw [walk_eq, Outcome.bind_eq_ok_iff]
  apply exists_congr
  intro e
  apply and_congr_right
  intro _
  unfold walkEntry
  cases e.has .present with
  | false => simp
  | true =>
    cases denies e ctx with
    | true => simp
    | false =>
      simp only [Bool.not_true, Bool.false_eq_true, ↓reduceIte, Except.ok.injEq, true_and]
      exact eq_comm

theorem walk_congr {mmu mmu' : Mmu}
    (h : mmu'.entry (entryAddress table a) = mmu.entry (entryAddress table a))
    : mmu'.walk table a ctx stage = mmu.walk table a ctx stage := by
  rw [walk_eq, walk_eq, h]

theorem walk_add {i : Nat} (h : a.toNat % pageSize + i < pageSize)
    (hwalk : mmu.walk table a ctx stage = .ok (p, entries))
    : mmu.walk table (a.add i) ctx stage = .ok (p.add i, entries) := by
  rw [walk_eq_ok_iff] at hwalk ⊢
  obtain ⟨e, hentry, hpresent, hdenies, hr⟩ := hwalk
  rw [entryAddress_congr (Address.page_add h)]
  refine ⟨e, hentry, hpresent, hdenies, ?_⟩
  cases hr
  rw [Address.append_pageOffset_add h]

theorem toNat_mod_of_walk (h : mmu.walk table a ctx stage = .ok (p, entries))
    : p.toNat % pageSize = a.toNat % pageSize := by
  rw [walk_eq_ok_iff] at h
  obtain ⟨e, -, -, -, hr⟩ := h
  cases hr
  rw [← Address.toNat_pageOffset, ← Address.toNat_pageOffset, Address.pageOffset_append]

theorem entries_of_walk (h : mmu.walk table a ctx stage = .ok (p, entries)) (hb : b ∈ entries)
    : ctx.access = .write ∧ b = entryAddress table a
        ∧ ∀ q ∈ Memory.wordPlaces b, mmu.memory.holds q := by
  rw [walk_eq_ok_iff] at h
  obtain ⟨e, hentry, -, -, hr⟩ := h
  cases hr
  split at hb
  . next hunmarked =>
    rw [List.mem_singleton] at hb
    subst hb
    simp only [Bool.and_eq_true, decide_eq_true_eq] at hunmarked
    exact ⟨hunmarked.1, rfl, (entry_eq_ok_iff.mp hentry).1⟩
  . cases hb

/-! ### All tables -/

theorem resolve_of_real (h : mmu.paging = false) : mmu.resolve a ctx = .ok (a.identity, []) := by
  unfold resolve
  rw [h]
  rfl

theorem resolve_of_single (h : mmu.paging) (htables : ctx.tables = .single table)
    : mmu.resolve a ctx = mmu.walk table a ctx .single := by
  unfold resolve
  rw [h, htables]
  rfl

theorem resolve_of_nested {guest host : PhysicalAddress} (h : mmu.paging)
    (htables : ctx.tables = .nested guest host)
    : mmu.resolve a ctx
        =
      mmu.walk guest a ctx .guest >>= fun middle =>
        mmu.walk host ⟨middle.1.word⟩ ctx .host >>= fun last =>
          .ok (last.1, middle.2 ++ last.2) := by
  unfold resolve
  rw [h, htables]
  rfl

theorem resolve_nested_eq_ok_iff {guest host : PhysicalAddress} (h : mmu.paging)
    (htables : ctx.tables = .nested guest host)
    : mmu.resolve a ctx = .ok (p, entries)
        ↔
      ∃ middle guestEntries hostEntries, mmu.walk guest a ctx .guest = .ok (middle, guestEntries)
        ∧ mmu.walk host ⟨middle.word⟩ ctx .host = .ok (p, hostEntries)
        ∧ entries = guestEntries ++ hostEntries := by
  rw [resolve_of_nested h htables]
  constructor
  . intro hr
    obtain ⟨⟨middle, guestEntries⟩, hguest, hr⟩ := Outcome.bind_eq_ok_iff.mp hr
    obtain ⟨⟨p', hostEntries⟩, hhost, hr⟩ := Outcome.bind_eq_ok_iff.mp hr
    cases hr
    exact ⟨middle, guestEntries, hostEntries, hguest, hhost, rfl⟩
  . rintro ⟨middle, guestEntries, hostEntries, hguest, hhost, rfl⟩
    rw [hguest]
    show mmu.walk host ⟨middle.word⟩ ctx .host >>= _ = _
    rw [hhost]
    rfl

theorem resolve_congr {mmu mmu' : Mmu} (hpaging : mmu'.paging = mmu.paging)
    (h : ∀ b, ctx.tables.HasEntry b → mmu'.entry b = mmu.entry b) (a : VirtualAddress)
    : mmu'.resolve a ctx = mmu.resolve a ctx := by
  cases hreal : mmu.paging with
  | false => rw [resolve_of_real hreal, resolve_of_real (hpaging.trans hreal)]
  | true =>
    have hwalk : ∀ table ∈ ctx.tables.toList, ∀ a stage,
        mmu'.walk table a ctx stage = mmu.walk table a ctx stage := by
      intro table htable a stage
      apply walk_congr
      apply h
      exact ⟨table, htable, a, rfl⟩
    cases htables : ctx.tables with
    | single table =>
      rw [resolve_of_single hreal htables, resolve_of_single (hpaging.trans hreal) htables]
      apply hwalk
      simp [htables, PageTables.toList]
    | nested guest host =>
      rw [resolve_of_nested hreal htables, resolve_of_nested (hpaging.trans hreal) htables]
      rw [hwalk guest (by simp [htables, PageTables.toList])]
      congr 1
      funext middle
      rw [hwalk host (by simp [htables, PageTables.toList])]

theorem resolve_add {i : Nat} (h : a.toNat % pageSize + i < pageSize) (hpaging : mmu.paging)
    (hresolve : mmu.resolve a ctx = .ok (p, entries))
    : mmu.resolve (a.add i) ctx = .ok (p.add i, entries) := by
  cases htables : ctx.tables with
  | single table =>
    rw [resolve_of_single hpaging htables] at hresolve ⊢
    exact walk_add h hresolve
  | nested guest host =>
    rw [resolve_nested_eq_ok_iff hpaging htables] at hresolve ⊢
    obtain ⟨middle, guestEntries, hostEntries, hguest, hhost, rfl⟩ := hresolve
    refine ⟨middle.add i, guestEntries, hostEntries, walk_add h hguest, ?_, rfl⟩
    -- The walk keeps the place in the page, so the host table is asked about one page as well.
    have hmiddle : (⟨middle.word⟩ : VirtualAddress).toNat % pageSize = a.toNat % pageSize :=
      toNat_mod_of_walk hguest
    have hadd : (⟨(middle.add i).word⟩ : VirtualAddress) = Address.add ⟨middle.word⟩ i := rfl
    rw [hadd]
    apply walk_add
    . rw [hmiddle]
      exact h
    . exact hhost

theorem entries_of_resolve (h : mmu.resolve a ctx = .ok (p, entries)) (hb : b ∈ entries)
    : ctx.access = .write ∧ ctx.tables.HasEntry b
        ∧ ∀ q ∈ Memory.wordPlaces b, mmu.memory.holds q := by
  cases hpaging : mmu.paging with
  | false =>
    rw [resolve_of_real hpaging] at h
    cases h
    cases hb
  | true =>
    cases htables : ctx.tables with
    | single table =>
      rw [resolve_of_single hpaging htables] at h
      obtain ⟨hwrite, heq, hholds⟩ := entries_of_walk h hb
      exact ⟨hwrite, ⟨table, by simp [PageTables.toList], a, heq⟩, hholds⟩
    | nested guest host =>
      rw [resolve_nested_eq_ok_iff hpaging htables] at h
      obtain ⟨middle, guestEntries, hostEntries, hguest, hhost, rfl⟩ := h
      rw [List.mem_append] at hb
      cases hb with
      | inl hb =>
        obtain ⟨hwrite, heq, hholds⟩ := entries_of_walk hguest hb
        exact ⟨hwrite, ⟨guest, by simp [PageTables.toList], a, heq⟩, hholds⟩
      | inr hb =>
        obtain ⟨hwrite, heq, hholds⟩ := entries_of_walk hhost hb
        exact ⟨hwrite, ⟨host, by simp [PageTables.toList], ⟨middle.word⟩, heq⟩, hholds⟩

/-! ### Words -/

def wordAddresses (a : VirtualAddress) : List VirtualAddress :=
  [a, a.add 1, a.add 2, a.add 3]

theorem resolveWord_congr {mmu mmu' : Mmu} (hpaging : mmu'.paging = mmu.paging)
    (h : ∀ b, ctx.tables.HasEntry b → mmu'.entry b = mmu.entry b) (a : VirtualAddress)
    : mmu'.resolveWord a ctx = mmu.resolveWord a ctx := by
  have hresolve : (mmu'.resolve · ctx) = (mmu.resolve · ctx) := by
    funext a
    exact resolve_congr hpaging h a
  unfold resolveWord
  rw [hpaging, hresolve, resolve_congr hpaging h a]

theorem resolve_add_of_fast {i : Nat} (hi : i < 4)
    (hfast : (!mmu.paging || a.toNat % pageSize ≤ pageSize - 4) = true)
    (h : mmu.resolve a ctx = .ok (p, entries))
    : ∃ entries', mmu.resolve (a.add i) ctx = .ok (p.add i, entries') ∧ ∀ b ∈ entries', b ∈ entries := by
  cases hpaging : mmu.paging with
  | false =>
    rw [resolve_of_real hpaging] at h ⊢
    cases h
    exact ⟨[], rfl, by simp⟩
  | true =>
    refine ⟨entries, resolve_add ?_ hpaging h, fun b hb => hb⟩
    simp only [hpaging, Bool.not_true, Bool.false_or, decide_eq_true_eq] at hfast
    rw [pageSize_eq] at hfast ⊢
    omega

/-- Whether or not one resolution serves for all its bytes, a word is resolved byte by byte. -/
theorem exists_of_resolveWord (h : mmu.resolveWord a ctx = .ok (places, entries))
    : ∃ resolved, (wordAddresses a).mapM (mmu.resolve · ctx) = .ok resolved
        ∧ places = resolved.map Prod.fst
        ∧ ∀ b, b ∈ entries ↔ ∃ r ∈ resolved, b ∈ r.2 := by
  unfold resolveWord at h
  split at h
  . next hfast =>
    obtain ⟨⟨p, entries'⟩, hresolve, h⟩ := Outcome.bind_eq_ok_iff.mp h
    cases h
    -- The other bytes lie in the same page, so their walks have no entries but those of the first.
    obtain ⟨entries₁, h₁, hsub₁⟩ := resolve_add_of_fast (show 1 < 4 by omega) hfast hresolve
    obtain ⟨entries₂, h₂, hsub₂⟩ := resolve_add_of_fast (show 2 < 4 by omega) hfast hresolve
    obtain ⟨entries₃, h₃, hsub₃⟩ := resolve_add_of_fast (show 3 < 4 by omega) hfast hresolve
    refine ⟨[(p, entries), (p.add 1, entries₁), (p.add 2, entries₂), (p.add 3, entries₃)], ?_, rfl, ?_⟩
    . simp only [wordAddresses, List.mapM_cons, List.mapM_nil, hresolve, h₁, h₂, h₃]
      rfl
    . intro b
      simp only [List.mem_cons, List.not_mem_nil, or_false, exists_eq_or_imp, exists_eq_left]
      constructor
      . intro hb
        exact Or.inl hb
      . rintro (hb | hb | hb | hb)
        . exact hb
        . exact hsub₁ b hb
        . exact hsub₂ b hb
        . exact hsub₃ b hb
  . obtain ⟨resolved, hresolved, h⟩ := Outcome.bind_eq_ok_iff.mp h
    cases h
    refine ⟨resolved, hresolved, rfl, ?_⟩
    intro b
    rw [List.mem_flatMap]

theorem exists_resolve_of_mem_places (h : mmu.resolveWord a ctx = .ok (places, entries))
    (hp : p ∈ places) : ∃ a' entries', mmu.resolve a' ctx = .ok (p, entries') := by
  obtain ⟨resolved, hresolved, rfl, -⟩ := exists_of_resolveWord h
  rw [List.mem_map] at hp
  obtain ⟨⟨q, entries'⟩, hr, rfl⟩ := hp
  obtain ⟨a', -, ha'⟩ := Outcome.exists_of_mapM_eq_ok hresolved (q, entries') hr
  exact ⟨a', entries', ha'⟩

theorem entries_of_resolveWord (h : mmu.resolveWord a ctx = .ok (places, entries)) (hb : b ∈ entries)
    : ctx.access = .write ∧ ctx.tables.HasEntry b
        ∧ ∀ q ∈ Memory.wordPlaces b, mmu.memory.holds q := by
  obtain ⟨resolved, hresolved, -, hentries⟩ := exists_of_resolveWord h
  obtain ⟨⟨q, entries'⟩, hr, hb⟩ := (hentries b).mp hb
  obtain ⟨a', -, ha'⟩ := Outcome.exists_of_mapM_eq_ok hresolved (q, entries') hr
  exact entries_of_resolve ha' hb

theorem entries_eq_nil_of_resolveWord (haccess : ctx.access ≠ .write)
    (h : mmu.resolveWord a ctx = .ok (places, entries)) : entries = [] := by
  apply List.eq_nil_iff_forall_not_mem.mpr
  intro b hb
  exact haccess (entries_of_resolveWord h hb).1

end Mmu

end Triword
