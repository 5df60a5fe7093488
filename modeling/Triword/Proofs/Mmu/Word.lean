import Triword.Proofs.Bits
import Triword.Proofs.Mmu.Access

/-!
Words against their bytes. A word is found where its four bytes are found one by one, and what cannot
be found is reported for the first byte that has no place. So a word can be read exactly if each of its
bytes has a place in memory, and it is these bytes that make it up.
-/

namespace Triword

namespace Outcome

variable {ε α β : Type} {f : α → Except ε β} {n : Nat} {g : Fin n → α}

theorem mapM_ofFn_eq_ok_iff {results : List β}
    : (List.ofFn g).mapM f = .ok results
        ↔
      ∃ r : Fin n → β, (∀ k, f (g k) = .ok (r k)) ∧ results = List.ofFn r := by
  induction n generalizing results with
  | zero =>
    simp only [List.ofFn_zero, List.mapM_nil]
    constructor
    . intro h
      cases h
      exact ⟨Fin.elim0, fun k => k.elim0, rfl⟩
    . rintro ⟨r, -, rfl⟩
      rfl
  | succ n ih =>
    rw [List.ofFn_succ, List.mapM_cons]
    constructor
    . intro h
      obtain ⟨b, hb, h⟩ := bind_eq_ok_iff.mp h
      obtain ⟨tail, htail, h⟩ := bind_eq_ok_iff.mp h
      cases h
      obtain ⟨r, hr, rfl⟩ := ih.mp htail
      refine ⟨fun k => Fin.cases b r k, ?_, ?_⟩
      . intro k
        cases k using Fin.cases with
        | zero => exact hb
        | succ k => exact hr k
      . rw [List.ofFn_succ]
        rfl
    . rintro ⟨r, hr, rfl⟩
      rw [hr 0, ih.mpr ⟨fun k => r k.succ, fun k => hr k.succ, rfl⟩, List.ofFn_succ]
      rfl

theorem mapM_ofFn_eq_error {k : Fin n} {e : ε} (hdone : ∀ j < k, ∃ b, f (g j) = .ok b)
    (hk : f (g k) = .error e) : (List.ofFn g).mapM f = .error e := by
  induction n with
  | zero => exact k.elim0
  | succ n ih =>
    rw [List.ofFn_succ, List.mapM_cons]
    cases k using Fin.cases with
    | zero =>
      rw [hk]
      rfl
    | succ k =>
      obtain ⟨b, hb⟩ := hdone 0 (Fin.succ_pos k)
      rw [hb]
      rw [ih (k := k) (fun j hj => hdone j.succ (Fin.succ_lt_succ_iff.mpr hj)) hk]
      rfl

end Outcome

namespace Mmu

variable {mmu mmu' : Mmu} {ctx : AccessContext} {a : VirtualAddress} {t : Trap}
variable {places entries : List PhysicalAddress}

/-! ### Resolving -/

theorem places_resolveWord (mmu : Mmu) (a : VirtualAddress) (ctx : AccessContext)
    : (mmu.resolveWord a ctx).map Prod.fst
        =
      ((wordAddresses a).mapM (mmu.resolve · ctx)).map (List.map Prod.fst) := by
  unfold resolveWord
  split
  . next hfast =>
    cases hresolve : mmu.resolve a ctx with
    | error t =>
      rw [wordAddresses, List.mapM_cons, hresolve]
      rfl
    | ok r =>
      obtain ⟨entries₁, h₁, -⟩ := resolve_add_of_fast (show 1 < 4 by omega) hfast hresolve
      obtain ⟨entries₂, h₂, -⟩ := resolve_add_of_fast (show 2 < 4 by omega) hfast hresolve
      obtain ⟨entries₃, h₃, -⟩ := resolve_add_of_fast (show 3 < 4 by omega) hfast hresolve
      simp only [wordAddresses, List.mapM_cons, List.mapM_nil, hresolve, h₁, h₂, h₃]
      rfl
  . unfold wordAddresses
    cases [a, a.add 1, a.add 2, a.add 3].mapM (mmu.resolve · ctx) <;> rfl

theorem wordAddresses_eq_ofFn (a : VirtualAddress)
    : wordAddresses a = List.ofFn fun k : Fin 4 => a.add k := by
  simp [wordAddresses, List.ofFn_succ, Address.add_zero]

/-- The four bytes of a word as an indexed family: where each of them is found. -/
theorem exists_bytes_of_resolveWord (h : mmu.resolveWord a ctx = .ok (places, entries))
    : ∃ r : Fin 4 → PhysicalAddress × List PhysicalAddress,
        (∀ k : Fin 4, mmu.resolve (a.add k) ctx = .ok (r k))
          ∧ places = List.ofFn (fun k => (r k).1)
          ∧ ∀ b, b ∈ entries ↔ ∃ k, b ∈ (r k).2 := by
  obtain ⟨resolved, hresolved, hplaces, hentries⟩ := exists_of_resolveWord h
  rw [wordAddresses_eq_ofFn] at hresolved
  obtain ⟨r, hr, rfl⟩ := Outcome.mapM_ofFn_eq_ok_iff.mp hresolved
  refine ⟨r, hr, ?_, ?_⟩
  . rw [hplaces, List.map_ofFn]
    rfl
  . intro b
    rw [hentries]
    constructor
    . rintro ⟨x, hx, hb⟩
      obtain ⟨k, rfl⟩ := List.mem_ofFn.mp hx
      exact ⟨k, hb⟩
    . rintro ⟨k, hb⟩
      exact ⟨r k, List.mem_ofFn.mpr ⟨k, rfl⟩, hb⟩

theorem resolveWord_of_bytes {r : Fin 4 → PhysicalAddress × List PhysicalAddress}
    (h : ∀ k : Fin 4, mmu.resolve (a.add k) ctx = .ok (r k))
    : ∃ entries, mmu.resolveWord a ctx = .ok (List.ofFn (fun k => (r k).1), entries)
        ∧ ∀ b, b ∈ entries ↔ ∃ k, b ∈ (r k).2 := by
  have hresolved : (wordAddresses a).mapM (mmu.resolve · ctx) = .ok (List.ofFn r) := by
    rw [wordAddresses_eq_ofFn]
    exact Outcome.mapM_ofFn_eq_ok_iff.mpr ⟨r, h, rfl⟩
  have hplaces := places_resolveWord mmu a ctx
  rw [hresolved] at hplaces
  cases hword : mmu.resolveWord a ctx with
  | error t =>
    rw [hword] at hplaces
    cases hplaces
  | ok found =>
    obtain ⟨places, entries⟩ := found
    obtain ⟨r', hr', hplaces', hentries⟩ := exists_bytes_of_resolveWord hword
    have hsame : r' = r := by
      funext k
      exact Except.ok.inj ((hr' k).symm.trans (h k))
    subst hsame
    exact ⟨entries, by rw [hplaces'], hentries⟩

theorem resolveWord_of_byte_error {k : Fin 4}
    (hbefore : ∀ j < k, ∃ r, mmu.resolve (a.add j) ctx = .ok r)
    (hk : mmu.resolve (a.add k) ctx = .error t) : mmu.resolveWord a ctx = .error t := by
  have hresolved : (wordAddresses a).mapM (mmu.resolve · ctx) = .error t := by
    rw [wordAddresses_eq_ofFn]
    exact Outcome.mapM_ofFn_eq_error hbefore hk
  have hplaces := places_resolveWord mmu a ctx
  rw [hresolved] at hplaces
  cases hword : mmu.resolveWord a ctx with
  | error t' =>
    rw [hword] at hplaces
    cases hplaces
    rfl
  | ok found =>
    rw [hword] at hplaces
    cases hplaces

/-! ### Reading -/

def afterReading (mmu : Mmu) (places entries : List PhysicalAddress) : Mmu :=
  let marked := entries.foldl mark mmu
  marked.withLog (places.foldl (·.add · .reading) marked.log)

theorem readWord_of_resolveWord_error (h : mmu.resolveWord a ctx = .error t)
    : readWord a ctx mmu = .error t mmu := by
  unfold readWord
  rw [Action.get_bind_apply, h]
  rfl

/-- The bytes are those from before an entry is marked, even if they lie in the entry. -/
theorem readWord_of_resolveWord_ok (h : mmu.resolveWord a ctx = .ok (places, entries))
    : readWord a ctx mmu
        =
      (ofExcept (ofMemoryRead (places.mapM mmu.memory.readByte)) >>= fun bytes => do
        set (mmu.afterReading places entries)
        return Bits.ofBytes bytes : Action Word) mmu := by
  unfold readWord
  rw [Action.get_bind_apply, h]
  show (ofExcept (ofMemoryRead (places.mapM mmu.memory.readByte)) >>= fun bytes => do
      markChanged entries
      places.forM (observe · .reading)
      return Bits.ofBytes bytes : Action Word) mmu = _
  cases ofMemoryRead (places.mapM mmu.memory.readByte) with
  | error t => rfl
  | ok bytes =>
    rw [Action.bind_of_ok (Action.ofExcept_ok_apply bytes mmu)]
    rw [Action.bind_of_ok (Action.ofExcept_ok_apply bytes mmu)]
    rw [Action.bind_of_ok (markChanged_of_resolveWord h)]
    exact Action.bind_of_ok (forM_observe places .reading _)

theorem readWord_eq_ok_iff {w : Word}
    : readWord a ctx mmu = .ok w mmu'
        ↔
      ∃ places entries, mmu.resolveWord a ctx = .ok (places, entries)
        ∧ (∀ p ∈ places, mmu.memory.holds p)
        ∧ w = Bits.ofBytes (places.map mmu.memory.byteAt)
        ∧ mmu' = mmu.afterReading places entries := by
  constructor
  . intro hread
    cases hword : mmu.resolveWord a ctx with
    | error t =>
      rw [readWord_of_resolveWord_error hword] at hread
      cases hread
    | ok found =>
      obtain ⟨places, entries⟩ := found
      rw [readWord_of_resolveWord_ok hword] at hread
      cases hbytes : places.mapM mmu.memory.readByte with
      | error f =>
        rw [hbytes] at hread
        cases hread
      | ok bytes =>
        have hholds := Memory.holds_of_mapM_readByte hbytes
        rw [Memory.mapM_readByte_of_holds hholds] at hread
        cases hread
        exact ⟨places, entries, rfl, hholds, rfl, rfl⟩
  . rintro ⟨places, entries, hword, hholds, rfl, rfl⟩
    rw [readWord_of_resolveWord_ok hword, Memory.mapM_readByte_of_holds hholds]
    rfl

theorem exists_readWord_iff {w : Word}
    : (∃ mmu', readWord a ctx mmu = .ok w mmu')
        ↔
      ∃ p : Fin 4 → PhysicalAddress,
        (∀ k : Fin 4, (∃ entries, mmu.resolve (a.add k) ctx = .ok (p k, entries))
            ∧ mmu.memory.holds (p k))
          ∧ w = mmu.memory.byteAt (p 0) ++ mmu.memory.byteAt (p 1) ++ mmu.memory.byteAt (p 2)
            ++ mmu.memory.byteAt (p 3) := by
  constructor
  . rintro ⟨mmu', hread⟩
    obtain ⟨places, entries, hword, hholds, rfl, -⟩ := readWord_eq_ok_iff.mp hread
    obtain ⟨r, hr, rfl, -⟩ := exists_bytes_of_resolveWord hword
    refine ⟨fun k => (r k).1, ?_, ?_⟩
    . intro k
      exact ⟨⟨(r k).2, hr k⟩, hholds _ (List.mem_ofFn.mpr ⟨k, rfl⟩)⟩
    . exact Bits.ofBytes_four ..
  . rintro ⟨p, hp, rfl⟩
    have hr : ∀ k : Fin 4, ∃ entries, mmu.resolve (a.add k) ctx = .ok (p k, entries) :=
      fun k => (hp k).1
    obtain ⟨entries, hword, -⟩ :=
      resolveWord_of_bytes (r := fun k => (p k, (hr k).choose)) fun k => (hr k).choose_spec
    refine ⟨_, readWord_eq_ok_iff.mpr ⟨List.ofFn p, entries, hword, ?_, ?_, rfl⟩⟩
    . intro q hq
      obtain ⟨k, rfl⟩ := List.mem_ofFn.mp hq
      exact (hp k).2
    . exact (Bits.ofBytes_four ..).symm

/--
A word is resolved exactly as its four bytes, whether or not they lie in one page; so it can be read
if each of them has a place in memory, and is made up of them in their order.
-/
theorem word_iff_bytes (mmu : Mmu) (a : VirtualAddress) (ctx : AccessContext)
    : (∀ r : Fin 4 → PhysicalAddress × List PhysicalAddress,
          (∀ k : Fin 4, mmu.resolve (a.add k) ctx = .ok (r k))
            → ∃ entries, mmu.resolveWord a ctx = .ok (List.ofFn (fun k => (r k).1), entries)
                ∧ ∀ b, b ∈ entries ↔ ∃ k, b ∈ (r k).2)
        ∧ (∀ (k : Fin 4) (t : Trap), (∀ j < k, ∃ r, mmu.resolve (a.add j) ctx = .ok r)
            → mmu.resolve (a.add k) ctx = .error t
            → mmu.resolveWord a ctx = .error t)
        ∧ (∀ w : Word, (∃ mmu', readWord a ctx mmu = .ok w mmu')
            ↔
          ∃ p : Fin 4 → PhysicalAddress,
            (∀ k : Fin 4, (∃ entries, mmu.resolve (a.add k) ctx = .ok (p k, entries))
                ∧ mmu.memory.holds (p k))
              ∧ w = mmu.memory.byteAt (p 0) ++ mmu.memory.byteAt (p 1) ++ mmu.memory.byteAt (p 2)
                ++ mmu.memory.byteAt (p 3)) := by
  refine ⟨?_, ?_, ?_⟩
  . intro r hr
    exact resolveWord_of_bytes hr
  . intro k t hbefore hk
    exact resolveWord_of_byte_error hbefore hk
  . intro w
    exact exists_readWord_iff

/-- Two tables that map the last page and the first one, so that a word can go round the end. -/
def rounding : Mmu where
  memory := (Memory.empty ⟨0x00FFFFFF⟩).storeAll
    [(⟨0x400FFC⟩, 0xC0), (⟨0x400FFF⟩, 5), (⟨0x1000⟩, 0xC0), (⟨0x1003⟩, 6),
      (⟨0x500014⟩, 0xC0), (⟨0x500017⟩, 9), (⟨0x500018⟩, 0xC0), (⟨0x50001B⟩, 3),
      (⟨0x9FFE⟩, 0xCA), (⟨0x9FFF⟩, 0xFE), (⟨0x3000⟩, 0xBA), (⟨0x3001⟩, 0xBE)]
  paging := true
  log := .empty

/-- The bytes of the word are in two pages, and the third byte of the other one has no page. -/
theorem word_iff_bytes_of_rounding
    : let ctx : AccessContext := ⟨.user, .write, .nested ⟨0x1000⟩ ⟨0x500000⟩⟩
      (∃ entries, rounding.resolveWord ⟨0xFFFFFFFE⟩ ctx
          = .ok ([⟨0x9FFE⟩, ⟨0x9FFF⟩, ⟨0x3000⟩, ⟨0x3001⟩], entries)
        ∧ ∀ b, b ∈ entries ↔ b ∈ [⟨0x400FFC⟩, ⟨0x500014⟩, ⟨0x1000⟩, ⟨0x500018⟩])
      ∧ rounding.resolveWord ⟨0x0FFE⟩ ctx = .error (.pageFault ⟨0, ⟨0x1004⟩, ⟨0x1000⟩, .guest⟩)
      ∧ ∃ mmu', readWord ⟨0xFFFFFFFE⟩ ctx rounding = .ok 0xCAFEBABE mmu' := by
  intro ctx
  let last : List PhysicalAddress := [⟨0x400FFC⟩, ⟨0x500014⟩]
  let first : List PhysicalAddress := [⟨0x1000⟩, ⟨0x500018⟩]
  let r : Fin 4 → PhysicalAddress × List PhysicalAddress
    | 0 => (⟨0x9FFE⟩, last)
    | 1 => (⟨0x9FFF⟩, last)
    | 2 => (⟨0x3000⟩, first)
    | 3 => (⟨0x3001⟩, first)
  have hr : ∀ k : Fin 4, rounding.resolve (Address.add ⟨0xFFFFFFFE⟩ k) ctx = .ok (r k) := by
    decide +kernel
  obtain ⟨hplaces, -, hread⟩ := word_iff_bytes rounding ⟨0xFFFFFFFE⟩ ctx
  refine ⟨?_, ?_, ?_⟩
  . obtain ⟨entries, hword, hentries⟩ := hplaces r hr
    refine ⟨entries, hword, ?_⟩
    intro b
    rw [hentries]
    constructor
    . rintro ⟨k, hb⟩
      have hsub : ∀ k, ∀ b ∈ (r k).2, b ∈ last ++ first := by decide
      exact hsub k b hb
    . intro hb
      cases List.mem_append.mp (show b ∈ last ++ first from hb) with
      | inl hlast => exact ⟨0, hlast⟩
      | inr hfirst => exact ⟨2, hfirst⟩
  . apply (word_iff_bytes rounding ⟨0x0FFE⟩ ctx).2.1 2
    . have hbefore : ∀ j : Fin 4, j < 2 → rounding.resolve (Address.add ⟨0x0FFE⟩ j) ctx
          = .ok (Address.add ⟨0x3FFE⟩ j, first) := by
        decide +kernel
      intro j hj
      exact ⟨_, hbefore j hj⟩
    . decide +kernel
  . refine (hread _).mpr ⟨fun k => (r k).1, ?_, ?_⟩
    . intro k
      have hholds : ∀ k, rounding.memory.holds (r k).1 := by decide +kernel
      exact ⟨⟨(r k).2, hr k⟩, hholds k⟩
    . decide +kernel

end Mmu

end Triword
