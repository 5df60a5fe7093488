import Triword.Proofs.Memory.History

/-!
Words that are written as a whole or not at all. Only the last place of a word is checked before its bytes are
stored. This is as good as checking all of them, unless the word goes round the end of the space and the end
itself lies beyond the capacity: then the write is refused with the bytes before the end stored.
-/

namespace Triword

namespace Memory

variable {m m' : Memory} {a p : PhysicalAddress} {w : Word} {e : BeyondMemory}
variable {bytes : List (PhysicalAddress × Byte)} {x : PhysicalAddress × Byte}

def wordBytes (a : PhysicalAddress) (w : Word) : List (PhysicalAddress × Byte) :=
  List.ofFn fun k : Fin 4 => (a.add k, Bits.field w (8 * k) 8)

/--
A word goes round the end of the space, of which the last place lies beyond the capacity, and one of its bytes
up to the capacity is not the one in its place.
-/
def Tears (m : Memory) (a : PhysicalAddress) (w : Word) : Prop :=
  0xFFFFFFFF < a.toNat + 3
    ∧ m.capacity.toNat < 0xFFFFFFFF
    ∧ ∃ k : Fin 4, a.toNat + k ≤ m.capacity.toNat ∧ m.byteAt (a.add k) ≠ Bits.field w (8 * k) 8

theorem holds_iff (m : Memory) (a : PhysicalAddress) : m.holds a ↔ a.toNat ≤ m.capacity.toNat :=
  decide_eq_true_iff

/-! ### The bytes of a word -/

theorem zip_wordPlaces (a : PhysicalAddress) (w : Word) : (wordPlaces a).zip (Bits.bytes w) = wordBytes a w := by
  rw [wordPlaces_eq_ofFn]
  rfl

theorem map_fst_wordBytes (a : PhysicalAddress) (w : Word) : (wordBytes a w).map Prod.fst = wordPlaces a := by
  rw [wordPlaces_eq_ofFn]
  unfold wordBytes
  rw [List.map_ofFn]
  rfl

theorem getElem?_wordBytes {n : Nat}
    : (wordBytes a w)[n]? = some x ↔ n < 4 ∧ x = (a.add n, Bits.field w (8 * n) 8) := by
  unfold wordBytes
  rw [List.getElem?_ofFn]
  split
  . next hn => simp [hn, eq_comm]
  . next hn => simp [hn]

theorem nodup_wordBytes (a : PhysicalAddress) (w : Word) : ((wordBytes a w).map Prod.fst).Nodup := by
  rw [map_fst_wordBytes, wordPlaces_eq_ofFn, List.nodup_ofFn]
  intro j k hjk
  apply Fin.ext
  exact Address.add_injective (by omega) (by omega) hjk

/-! ### Bytes stored one after the other -/

theorem byteAt_storeAll_of_not_mem (hp : p ∉ bytes.map Prod.fst) : (m.storeAll bytes).byteAt p = m.byteAt p := by
  have hfind : (bytes.reverse.find? fun x => x.1 = p) = none := by
    rw [List.find?_eq_none]
    intro x hx heq
    rw [decide_eq_true_iff] at heq
    exact hp (heq ▸ List.mem_map_of_mem (List.mem_reverse.mp hx))
  rw [byteAt_storeAll, hfind]
  rfl

theorem byteAt_storeAll_of_mem (hnodup : (bytes.map Prod.fst).Nodup) (hx : x ∈ bytes)
    : (m.storeAll bytes).byteAt x.1 = x.2 := by
  rw [byteAt_storeAll]
  cases hfind : bytes.reverse.find? fun y => y.1 = x.1 with
  | none =>
    have hnone := List.find?_eq_none.mp hfind x (List.mem_reverse.mpr hx)
    simp at hnone
  | some y =>
    have hplace : y.1 = x.1 := by simpa using List.find?_some hfind
    have hy : y ∈ bytes := List.mem_reverse.mp (List.mem_of_find?_eq_some hfind)
    rw [List.inj_on_of_nodup_map hnodup hy hx hplace]
    rfl

theorem mem_within_iff {capacity : PhysicalAddress}
    : x ∈ within capacity bytes
        ↔
      ∃ n : Nat, bytes[n]? = some x
        ∧ ∀ j ≤ n, ∀ y : PhysicalAddress × Byte, bytes[j]? = some y → y.1.toNat ≤ capacity.toNat := by
  unfold within
  induction bytes with
  | nil => simp
  | cons y bytes ih =>
    rw [List.takeWhile_cons]
    by_cases hy : y.1.word ≤ capacity.word
    . rw [if_pos (decide_eq_true hy), List.mem_cons, ih]
      constructor
      . rintro (rfl | ⟨n, hn, hbefore⟩)
        . refine ⟨0, rfl, ?_⟩
          rintro j hj z hz
          obtain rfl : j = 0 := by omega
          cases hz
          exact hy
        . refine ⟨n + 1, hn, ?_⟩
          rintro (_ | j) hj z hz
          . cases hz
            exact hy
          . exact hbefore j (by omega) z hz
      . rintro ⟨_ | n, hn, hbefore⟩
        . cases hn
          exact .inl rfl
        . refine .inr ⟨n, hn, ?_⟩
          intro j hj z hz
          exact hbefore (j + 1) (by omega) z hz
    . rw [if_neg (by simpa using hy)]
      constructor
      . intro h
        cases h
      . rintro ⟨n, -, hbefore⟩
        exact absurd (hbefore 0 (Nat.zero_le n) y rfl) hy

/-! ### Words -/

theorem readWord_storeWord (h : ∀ p ∈ wordPlaces a, m.holds p) (w : Word)
    : (m.storeWord a w).readWord a = .ok w := by
  have hholds : ∀ p ∈ wordPlaces a, (m.storeWord a w).holds p := by
    intro p hp
    rw [holds_congr (capacity_storeWord m a w)]
    exact h p hp
  have hbytes : (wordPlaces a).map (m.storeWord a w).byteAt = Bits.bytes w := by
    unfold storeWord
    rw [zip_wordPlaces, ← map_fst_wordBytes a w, List.map_map]
    have hsnd : (wordBytes a w).map Prod.snd = Bits.bytes w := rfl
    rw [← hsnd]
    apply List.map_congr_left
    intro x hx
    exact byteAt_storeAll_of_mem (nodup_wordBytes a w) hx
  rw [readWord_of_holds hholds]
  unfold Memory.wordAt
  rw [hbytes, Bits.ofBytes_bytes]

theorem byteAt_storeWord_of_not_mem (hp : p ∉ wordPlaces a) : (m.storeWord a w).byteAt p = m.byteAt p := by
  unfold storeWord
  rw [zip_wordPlaces]
  apply byteAt_storeAll_of_not_mem
  rw [map_fst_wordBytes]
  exact hp

theorem holds_of_forM_writeByte
    (h : (bytes.forM fun (p, b) => writeByte p b : Action Unit) m = .ok () m') : ∀ x ∈ bytes, m.holds x.1 := by
  induction bytes generalizing m with
  | nil => simp
  | cons y bytes ih =>
    rw [Action.forM_cons] at h
    have hy : m.holds y.1 := by
      by_contra hbeyond
      rw [Action.bind_of_error (writeByte_of_not_holds hbeyond y.2)] at h
      cases h
    rw [Action.bind_of_ok (writeByte_of_holds hy y.2)] at h
    intro x hx
    cases hx with
    | head => exact hy
    | tail _ hx => exact ih h x hx

theorem holds_of_writeWord (h : writeWord a w m = .ok () m') : ∀ p ∈ wordPlaces a, m.holds p := by
  by_cases hlast : m.holds (a.add 3)
  . rw [writeWord_of_last_holds hlast, zip_wordPlaces] at h
    intro p hp
    rw [← map_fst_wordBytes a w, List.mem_map] at hp
    obtain ⟨x, hx, rfl⟩ := hp
    exact holds_of_forM_writeByte h x hx
  . rw [writeWord_of_last_not_holds hlast] at h
    cases h

theorem mem_stores_iff (h : ¬∀ p ∈ wordPlaces a, m.holds p)
    : x ∈ stores m.capacity (.writeWord a w)
        ↔
      0xFFFFFFFF < a.toNat + 3
        ∧ m.capacity.toNat < 0xFFFFFFFF
        ∧ ∃ k : Fin 4, a.toNat + k ≤ m.capacity.toNat ∧ x = (a.add k, Bits.field w (8 * k) 8) := by
  have hlt : a.toNat < 4294967296 := a.word.isLt
  have hcapacity : m.capacity.toNat < 4294967296 := m.capacity.word.isLt
  have hbeyond : ∃ k : Fin 4, m.capacity.toNat < (a.toNat + k) % 4294967296 := by
    rw [wordPlaces_eq_ofFn] at h
    simp only [List.forall_mem_ofFn_iff, not_forall, holds_iff, Nat.not_le, Address.toNat_add] at h
    exact h
  change x ∈ ite ((a.add 3).toNat ≤ m.capacity.toNat) _ _ ↔ _
  rw [zip_wordPlaces, Address.toNat_add]
  constructor
  . intro hx
    split at hx
    . next hlast =>
      obtain ⟨n, hn, hbefore⟩ := mem_within_iff.mp hx
      obtain ⟨hn4, rfl⟩ := getElem?_wordBytes.mp hn
      have hupto (j : Nat) (hj : j ≤ n) : (a.toNat + j) % 4294967296 ≤ m.capacity.toNat := by
        have hplace := hbefore j hj _ (getElem?_wordBytes.mpr ⟨by omega, rfl⟩)
        rwa [Address.toNat_add] at hplace
      obtain ⟨k, hk⟩ := hbeyond
      have hround : 0xFFFFFFFF < a.toNat + 3 := by omega
      have hend : m.capacity.toNat < 0xFFFFFFFF := by omega
      -- Were the place beyond the end of the space, the end itself would have been met before it.
      have hn' : a.toNat + n ≤ m.capacity.toNat := by
        have hplace := hupto n (le_refl n)
        by_cases hover : a.toNat + n ≤ 0xFFFFFFFF
        . omega
        . have hlastPlace := hupto (0xFFFFFFFF - a.toNat) (by omega)
          omega
      exact ⟨hround, hend, ⟨n, hn4⟩, hn', rfl⟩
    . cases hx
  . rintro ⟨hround, hend, k, hk, rfl⟩
    rw [if_pos (by omega), mem_within_iff]
    refine ⟨k, getElem?_wordBytes.mpr ⟨k.isLt, rfl⟩, ?_⟩
    intro j hj y hy
    obtain ⟨-, rfl⟩ := getElem?_wordBytes.mp hy
    rw [Address.toNat_add]
    omega

theorem nodup_stores (a : PhysicalAddress) (w : Word)
    : ((stores m.capacity (.writeWord a w)).map Prod.fst).Nodup := by
  change (List.map Prod.fst (ite _ _ _)).Nodup
  split
  . rw [zip_wordPlaces]
    exact (nodup_wordBytes a w).sublist ((List.takeWhile_sublist _).map Prod.fst)
  . exact List.nodup_nil

theorem byteAt_storeAll_eq_iff (hnodup : (bytes.map Prod.fst).Nodup)
    : (∀ p, (m.storeAll bytes).byteAt p = m.byteAt p) ↔ ∀ x ∈ bytes, m.byteAt x.1 = x.2 := by
  constructor
  . intro h x hx
    rw [← h, byteAt_storeAll_of_mem hnodup hx]
  . intro h p
    by_cases hp : p ∈ bytes.map Prod.fst
    . obtain ⟨x, hx, rfl⟩ := List.mem_map.mp hp
      rw [byteAt_storeAll_of_mem hnodup hx, h x hx]
    . exact byteAt_storeAll_of_not_mem hp

/--
Writing a word either stores it as a whole, so that it is read back and no other byte has changed, or is refused
with every byte as it was. The exception is a word that goes round the end of the space where the end lies beyond
the capacity: it is refused with its first bytes stored, and they may differ from those there were.
-/
theorem writeWord_all_or_nothing (m : Memory) (a : PhysicalAddress) (w : Word)
    : (∀ m', writeWord a w m = .ok () m' →
        m'.readWord a = .ok w ∧ ∀ p ∉ wordPlaces a, m'.byteAt p = m.byteAt p)
      ∧ (∀ e m', writeWord a w m = .error e m' → ((∀ p, m'.byteAt p = m.byteAt p) ↔ ¬m.Tears a w)) := by
  constructor
  . intro m' h
    have hholds := holds_of_writeWord h
    rw [writeWord_of_holds hholds w] at h
    cases h
    exact ⟨readWord_storeWord hholds w, fun p hp => byteAt_storeWord_of_not_mem hp⟩
  . intro e m' h
    have hbeyond : ¬∀ p ∈ wordPlaces a, m.holds p := by
      intro hholds
      rw [writeWord_of_holds hholds w] at h
      cases h
    have hfinal : m' = m.storeAll (stores m.capacity (.writeWord a w)) := by
      rw [← afterChange_of_ne_clear Change.noConfusion m]
      show m' = Action.final (writeWord a w m)
      rw [h]
      rfl
    rw [hfinal, byteAt_storeAll_eq_iff (nodup_stores a w)]
    unfold Tears
    constructor
    . rintro hsame ⟨hround, hend, k, hk, hne⟩
      exact hne (hsame _ ((mem_stores_iff hbeyond).mpr ⟨hround, hend, k, hk, rfl⟩))
    . intro htears x hx
      obtain ⟨hround, hend, k, hk, rfl⟩ := (mem_stores_iff hbeyond).mp hx
      by_contra hne
      exact htears ⟨hround, hend, k, hk, hne⟩

/-- A word that lies within the capacity, one that goes round the end into memory, and one that runs beyond it. -/
theorem writeWord_all_or_nothing_short
    : (∃ m', writeWord ⟨0x10⟩ 0x01020304 (empty ⟨0xFF⟩) = .ok () m'
        ∧ m'.readWord ⟨0x10⟩ = .ok 0x01020304
        ∧ ∀ p ∉ wordPlaces ⟨0x10⟩, m'.byteAt p = (empty ⟨0xFF⟩).byteAt p)
      ∧ (∃ m', writeWord ⟨0xFFFFFFFE⟩ 0x01020304 (empty ⟨0xFFFFFFFF⟩) = .ok () m'
        ∧ m'.readWord ⟨0xFFFFFFFE⟩ = .ok 0x01020304
        ∧ ∀ p ∉ wordPlaces ⟨0xFFFFFFFE⟩, m'.byteAt p = (empty ⟨0xFFFFFFFF⟩).byteAt p)
      ∧ (∃ e m', writeWord ⟨0xFE⟩ 0x01020304 (empty ⟨0xFF⟩) = .error e m'
        ∧ ∀ p, m'.byteAt p = (empty ⟨0xFF⟩).byteAt p) := by
  have hinside : ∀ p ∈ wordPlaces ⟨0x10⟩, (empty ⟨0xFF⟩).holds p := by decide +kernel
  have hround : ∀ p ∈ wordPlaces ⟨0xFFFFFFFE⟩, (empty ⟨0xFFFFFFFF⟩).holds p := by decide +kernel
  have hbeyond : ¬(empty ⟨0xFF⟩).holds (Address.add ⟨0xFE⟩ 3) := by decide +kernel
  have hrefused := writeWord_of_last_not_holds hbeyond 0x01020304
  have hwhole : ¬(empty ⟨0xFF⟩).Tears ⟨0xFE⟩ 0x01020304 := fun h => absurd h.1 (by decide +kernel)
  have hstored := writeWord_of_holds hinside 0x01020304
  have hwrapped := writeWord_of_holds hround 0x01020304
  refine ⟨⟨_, hstored, ?inside⟩, ⟨_, hwrapped, ?round⟩, ⟨_, _, hrefused, ?beyond⟩⟩
  case inside => exact (writeWord_all_or_nothing _ _ _).1 _ hstored
  case round => exact (writeWord_all_or_nothing _ _ _).1 _ hwrapped
  case beyond => exact ((writeWord_all_or_nothing _ _ _).2 _ _ hrefused).mpr hwhole

/-- The byte before the end of the space stays written when the word is refused for the end itself. -/
theorem writeWord_torn
    : ∃ m', writeWord ⟨0xFFFFFFFD⟩ 0x01020304 (empty ⟨0xFFFFFFFE⟩) = .error ⟨⟨0xFFFFFFFF⟩, ⟨0xFFFFFFFE⟩⟩ m'
      ∧ ¬∀ p, m'.byteAt p = (empty ⟨0xFFFFFFFE⟩).byteAt p := by
  have houtcome : Action.outcome (writeWord ⟨0xFFFFFFFD⟩ 0x01020304 (empty ⟨0xFFFFFFFE⟩))
      = .error ⟨⟨0xFFFFFFFF⟩, ⟨0xFFFFFFFE⟩⟩ := by decide +kernel
  refine ⟨_, Action.eq_error_of_outcome houtcome, ?_⟩
  intro hsame
  exact absurd (hsame ⟨0xFFFFFFFD⟩) (by decide +kernel)

end Memory

end Triword
