import Triword.Memory
import Triword.Proofs.Action
import Triword.Proofs.Address

/-!
Checked access to memory against its bytes: what is read is what `Memory.byteAt` says, and a word is
written either as a whole or not at all.
-/

namespace Triword

namespace Memory

variable {m : Memory} {a p : PhysicalAddress}

/-! ### Stores -/

theorem wordPlaces_eq_ofFn (a : PhysicalAddress) : wordPlaces a = List.ofFn fun k : Fin 4 => a.add k := by
  simp [wordPlaces, List.ofFn_succ, Address.add_zero]

def wordAt (m : Memory) (a : PhysicalAddress) : Word :=
  Bits.ofBytes ((wordPlaces a).map m.byteAt)

def storeAll (m : Memory) (bytes : List (PhysicalAddress × Byte)) : Memory :=
  bytes.foldl (fun m (a, b) => m.store a b) m

def storeWord (m : Memory) (a : PhysicalAddress) (w : Word) : Memory :=
  m.storeAll ((wordPlaces a).zip (Bits.bytes w))

theorem byteAt_store (m : Memory) (a p : PhysicalAddress) (b : Byte)
    : (m.store a b).byteAt p = if p = a then b else m.byteAt p := by
  have hword : a.word = p.word ↔ p = a := by
    cases a
    cases p
    simp [eq_comm]
  unfold byteAt store
  dsimp only
  split
  . next hb =>
    rw [Std.ExtTreeMap.getD_erase]
    simp [hword, hb]
  . rw [Std.ExtTreeMap.getD_insert]
    simp [hword]

@[simp]
theorem capacity_store (m : Memory) (a : PhysicalAddress) (b : Byte)
    : (m.store a b).capacity = m.capacity := rfl

@[simp]
theorem capacity_storeAll (m : Memory) (bytes : List (PhysicalAddress × Byte))
    : (m.storeAll bytes).capacity = m.capacity := by
  unfold storeAll
  induction bytes generalizing m with
  | nil => rfl
  | cons head tail ih => simp [ih]

@[simp]
theorem capacity_storeWord (m : Memory) (a : PhysicalAddress) (w : Word)
    : (m.storeWord a w).capacity = m.capacity := by
  simp [storeWord]

/-! ### Checked access -/

theorem holds_congr {m m' : Memory} (h : m'.capacity = m.capacity) (a : PhysicalAddress)
    : m'.holds a = m.holds a := by
  unfold holds
  rw [h]

theorem check_eq_ok_iff : m.check a = .ok () ↔ m.holds a := by
  unfold check
  split <;> simp_all

theorem readByte_of_holds (h : m.holds a) : m.readByte a = .ok (m.byteAt a) := by
  unfold readByte
  rw [check_eq_ok_iff.mpr h]
  rfl

theorem holds_of_readByte {b : Byte} (h : m.readByte a = .ok b) : m.holds a := by
  unfold readByte check at h
  split at h
  . assumption
  . cases h

theorem mapM_readByte_of_holds {l : List PhysicalAddress} (h : ∀ a ∈ l, m.holds a)
    : l.mapM m.readByte = .ok (l.map m.byteAt) := by
  induction l with
  | nil => rfl
  | cons a l ih =>
    rw [List.mapM_cons]
    rw [readByte_of_holds (h a List.mem_cons_self)]
    rw [ih fun b hb => h b (List.mem_cons_of_mem a hb)]
    rfl

theorem holds_of_mapM_readByte {l : List PhysicalAddress} {bytes : List Byte}
    (h : l.mapM m.readByte = .ok bytes) : ∀ a ∈ l, m.holds a := by
  induction l generalizing bytes with
  | nil => simp
  | cons a l ih =>
    rw [List.mapM_cons] at h
    obtain ⟨b, hb, h⟩ := Outcome.bind_eq_ok_iff.mp h
    obtain ⟨tail, htail, -⟩ := Outcome.bind_eq_ok_iff.mp h
    intro c hc
    cases hc with
    | head => exact holds_of_readByte hb
    | tail _ hc => exact ih htail c hc

/-- What lies beyond memory is reported for the first of the places that does. -/
theorem mapM_readByte (m : Memory) (l : List PhysicalAddress)
    : l.mapM m.readByte
        =
      match l.find? (fun p => !m.holds p) with
      | some p => .error ⟨p, m.capacity⟩
      | none => .ok (l.map m.byteAt) := by
  induction l with
  | nil => rfl
  | cons a l ih =>
    rw [List.mapM_cons, List.find?_cons]
    cases hholds : m.holds a with
    | false =>
      unfold readByte check
      rw [hholds]
      rfl
    | true =>
      rw [readByte_of_holds hholds, ih]
      simp only [Bool.not_true]
      cases l.find? (fun p => !m.holds p) <;> rfl

theorem readWord_of_holds (h : ∀ p ∈ wordPlaces a, m.holds p) : m.readWord a = .ok (m.wordAt a) := by
  unfold readWord
  rw [mapM_readByte_of_holds h]
  rfl

theorem holds_of_readWord {w : Word} (h : m.readWord a = .ok w) : ∀ p ∈ wordPlaces a, m.holds p := by
  obtain ⟨bytes, hbytes, -⟩ := Outcome.bind_eq_ok_iff.mp h
  exact holds_of_mapM_readByte hbytes

theorem forM_check_eq_ok_iff {l : List PhysicalAddress}
    : l.forM m.check = .ok () ↔ ∀ a ∈ l, m.holds a := by
  induction l with
  | nil => simp; rfl
  | cons a l ih =>
    rw [List.forall_mem_cons, ← ih, ← check_eq_ok_iff]
    show (m.check a >>= fun _ => l.forM m.check) = .ok () ↔ _
    cases m.check a with
    | error e => simp [bind, Except.bind]
    | ok u => simp [bind, Except.bind]

theorem writeByte_of_holds (h : m.holds a) (b : Byte) : writeByte a b m = .ok () (m.store a b) := by
  show (ofExcept (m.check a) >>= fun _ => set (m.store a b) : Action Unit) m = _
  rw [check_eq_ok_iff.mpr h]
  rfl

theorem writeByte_of_not_holds (h : ¬m.holds a) (b : Byte) : writeByte a b m = .error ⟨a, m.capacity⟩ m := by
  show (ofExcept (m.check a) >>= fun _ => set (m.store a b) : Action Unit) m = _
  unfold check
  rw [if_neg h]
  rfl

theorem writeWord_of_last_holds (h : m.holds (a.add 3)) (w : Word)
    : writeWord a w m = (((wordPlaces a).zip (Bits.bytes w)).forM fun (p, b) => writeByte p b : Action Unit) m := by
  show (ofExcept (m.check (a.add 3)) >>= fun _ =>
    ((wordPlaces a).zip (Bits.bytes w)).forM fun (p, b) => writeByte p b : Action Unit) m = _
  rw [check_eq_ok_iff.mpr h]
  rfl

theorem writeWord_of_last_not_holds (h : ¬m.holds (a.add 3)) (w : Word)
    : writeWord a w m = .error ⟨a.add 3, m.capacity⟩ m := by
  show (ofExcept (m.check (a.add 3)) >>= fun _ =>
    ((wordPlaces a).zip (Bits.bytes w)).forM fun (p, b) => writeByte p b : Action Unit) m = _
  unfold check
  rw [if_neg h]
  rfl

theorem writeWord_of_holds (h : ∀ p ∈ wordPlaces a, m.holds p) (w : Word)
    : writeWord a w m = .ok () (m.storeWord a w) := by
  have hlast : m.holds (a.add 3) := by
    apply h
    simp [wordPlaces]
  rw [writeWord_of_last_holds hlast]
  unfold storeWord storeAll
  apply Action.forM_eq_foldl (fun m' : Memory => m'.capacity = m.capacity)
  . rintro ⟨p, b⟩ hp m' hm'
    constructor
    . apply writeByte_of_holds
      rw [holds_congr hm']
      exact h p (List.of_mem_zip hp).1
    . exact hm'
  . rfl

/-! ### Agreement -/

structure AgreeOn (P : PhysicalAddress → Prop) (m m' : Memory) : Prop where
  capacity : m'.capacity = m.capacity
  byteAt : ∀ p, P p → m.holds p → m'.byteAt p = m.byteAt p

namespace AgreeOn

variable {P Q : PhysicalAddress → Prop} {m m' : Memory}

theorem refl (P : PhysicalAddress → Prop) (m : Memory) : m.AgreeOn P m :=
  ⟨rfl, fun _ _ _ => rfl⟩

theorem mono (h : m.AgreeOn P m') (hsub : ∀ p, Q p → P p) : m.AgreeOn Q m' :=
  ⟨h.capacity, fun p hp => h.byteAt p (hsub p hp)⟩

theorem check_eq (h : m.AgreeOn P m') (p : PhysicalAddress) : m'.check p = m.check p := by
  unfold check
  rw [holds_congr h.capacity, h.capacity]

theorem readByte_eq (h : m.AgreeOn P m') {p : PhysicalAddress} (hp : P p)
    : m'.readByte p = m.readByte p := by
  unfold readByte
  rw [h.check_eq]
  cases hholds : m.holds p with
  | true => rw [h.byteAt p hp hholds]
  | false =>
    unfold check
    rw [hholds]
    rfl

theorem mapM_readByte_eq (h : m.AgreeOn P m') {l : List PhysicalAddress} (hl : ∀ p ∈ l, P p)
    : l.mapM m'.readByte = l.mapM m.readByte := by
  apply Outcome.mapM_congr
  intro p hp
  exact h.readByte_eq (hl p hp)

theorem readWord_eq (h : m.AgreeOn P m') {a : PhysicalAddress} (ha : ∀ p ∈ wordPlaces a, P p)
    : m'.readWord a = m.readWord a := by
  unfold readWord
  rw [h.mapM_readByte_eq ha]

theorem wordAt_eq (h : m.AgreeOn P m') {a : PhysicalAddress}
    (ha : ∀ p ∈ wordPlaces a, P p ∧ m.holds p) : m'.wordAt a = m.wordAt a := by
  unfold wordAt
  congr 1
  apply List.map_congr_left
  intro p hp
  exact h.byteAt p (ha p hp).1 (ha p hp).2

theorem store (h : m.AgreeOn P m') (a : PhysicalAddress) (b : Byte)
    : (m.store a b).AgreeOn P (m'.store a b) where
  capacity := h.capacity
  byteAt p hp hholds := by
    rw [byteAt_store, byteAt_store]
    split
    . rfl
    . exact h.byteAt p hp hholds

theorem storeWord (h : m.AgreeOn P m') (a : PhysicalAddress) (w : Word)
    : (m.storeWord a w).AgreeOn P (m'.storeWord a w) := by
  unfold Memory.storeWord storeAll
  apply List.foldl_rel (r := fun m m' : Memory => m.AgreeOn P m') h
  intro x _ m m' h
  exact h.store x.1 x.2

end AgreeOn

end Memory

end Triword
