import Mathlib.Data.List.Induction
import Mathlib.Data.List.TakeWhile
import Mathlib.Data.Set.Card
import Triword.Proofs.Bits
import Triword.Proofs.Memory

/-!
Memory as a map of all its places. Whatever has been asked of a new memory, a place holds the byte that was
stored there last since memory was cleared, or zero; the cells that are kept are those of the bytes other than
zero, none of which lies beyond the capacity, so they are known from what can be read.
-/

namespace Triword

namespace Memory

inductive Change where
  | writeByte (a : PhysicalAddress) (b : Byte)
  | writeWord (a : PhysicalAddress) (w : Word)
  | clear
  deriving DecidableEq

def afterChange (m : Memory) : Change → Memory
  | .writeByte a b => Action.final (writeByte a b m)
  | .writeWord a w => Action.final (writeWord a w m)
  | .clear => m.clear

def afterChanges (capacity : PhysicalAddress) (changes : List Change) : Memory :=
  changes.foldl afterChange (empty capacity)

/-! ### What changes store -/

def within (capacity : PhysicalAddress) (bytes : List (PhysicalAddress × Byte))
    : List (PhysicalAddress × Byte) :=
  bytes.takeWhile fun x => decide (x.1.word ≤ capacity.word)

/--
The bytes that a change stores, in order. A word whose last place is within the capacity is stored up to the
first place that is not; both can only be where the word goes round the end of the space.
-/
def stores (capacity : PhysicalAddress) : Change → List (PhysicalAddress × Byte)
  | .writeByte a b => within capacity [(a, b)]
  | .writeWord a w =>
    if (a.add 3).word ≤ capacity.word then within capacity ((wordPlaces a).zip (Bits.bytes w)) else []
  | .clear => []

/-- All that was stored since memory was cleared last, the latest byte first. -/
def latestStores (capacity : PhysicalAddress) (changes : List Change) : List (PhysicalAddress × Byte) :=
  (changes.reverse.takeWhile (· ≠ .clear)).flatMap fun c => (stores capacity c).reverse

def lastStored? (capacity : PhysicalAddress) (changes : List Change) (a : PhysicalAddress) : Option Byte :=
  ((latestStores capacity changes).find? fun x => x.1 = a).map Prod.snd

def Bounded (m : Memory) : Prop :=
  ∀ a, ¬m.holds a → m.byteAt a = 0

variable {m m' : Memory} {capacity a : PhysicalAddress} {b : Byte} {bytes : List (PhysicalAddress × Byte)}

theorem holds_of_mem_within {x : PhysicalAddress × Byte} (hx : x ∈ within m.capacity bytes) : m.holds x.1 :=
  List.mem_takeWhile_imp (p := fun x : PhysicalAddress × Byte => m.holds x.1) hx

theorem holds_of_mem_stores {x : PhysicalAddress × Byte} {c : Change} (hx : x ∈ stores m.capacity c)
    : m.holds x.1 := by
  cases c with
  | writeByte a b => exact holds_of_mem_within hx
  | writeWord a w =>
    change x ∈ ite _ _ _ at hx
    split at hx
    . exact holds_of_mem_within hx
    . cases hx
  | clear => cases hx

/-! ### Single changes -/

theorem byteAt_storeAll (m : Memory) (bytes : List (PhysicalAddress × Byte)) (a : PhysicalAddress)
    : (m.storeAll bytes).byteAt a
        =
      ((bytes.reverse.find? fun x => x.1 = a).map Prod.snd).getD (m.byteAt a) := by
  induction bytes generalizing m with
  | nil => rfl
  | cons x bytes ih =>
    show ((m.store x.1 x.2).storeAll bytes).byteAt a = _
    rw [ih, byteAt_store, List.reverse_cons, List.find?_append]
    cases bytes.reverse.find? fun x => x.1 = a with
    | some y => rfl
    | none =>
      by_cases hx : x.1 = a
      . simp [hx]
      . simp [hx, Ne.symm hx]

theorem final_forM_writeByte (m : Memory) (bytes : List (PhysicalAddress × Byte))
    : Action.final ((bytes.forM fun (a, b) => writeByte a b : Action Unit) m)
        =
      m.storeAll (within m.capacity bytes) := by
  unfold within
  induction bytes generalizing m with
  | nil => rfl
  | cons x bytes ih =>
    rw [Action.forM_cons, List.takeWhile_cons]
    by_cases hx : x.1.word ≤ m.capacity.word
    . have hholds : m.holds x.1 := decide_eq_true hx
      rw [Action.bind_of_ok (writeByte_of_holds hholds x.2), ih, if_pos (decide_eq_true hx)]
      rfl
    . have hbeyond : ¬m.holds x.1 := fun h => hx (of_decide_eq_true h)
      rw [Action.bind_of_error (writeByte_of_not_holds hbeyond x.2), decide_eq_false hx]
      rfl

theorem afterChange_of_ne_clear {c : Change} (hc : c ≠ .clear) (m : Memory)
    : m.afterChange c = m.storeAll (stores m.capacity c) := by
  cases c with
  | writeByte a b =>
    have hloop := final_forM_writeByte m [(a, b)]
    rw [Action.forM_cons, Action.forM_nil, bind_pure] at hloop
    exact hloop
  | writeWord a w =>
    show Action.final (writeWord a w m) = m.storeAll (ite _ _ _)
    by_cases hlast : m.holds (a.add 3)
    . rw [writeWord_of_last_holds hlast, if_pos (of_decide_eq_true hlast)]
      exact final_forM_writeByte m _
    . rw [writeWord_of_last_not_holds hlast, if_neg fun h => hlast (decide_eq_true h)]
      rfl
  | clear => exact absurd rfl hc

theorem capacity_afterChange (m : Memory) (c : Change) : (m.afterChange c).capacity = m.capacity := by
  by_cases hc : c = .clear
  . rw [hc]
    rfl
  . rw [afterChange_of_ne_clear hc, capacity_storeAll]

theorem byteAt_empty (capacity a : PhysicalAddress) : (empty capacity).byteAt a = 0 :=
  Std.ExtTreeMap.getD_empty

theorem Bounded.storeAll (h : m.Bounded) (hbytes : ∀ x ∈ bytes, m.holds x.1) : (m.storeAll bytes).Bounded := by
  intro a ha
  have hfind : (bytes.reverse.find? fun x => x.1 = a) = none := by
    rw [List.find?_eq_none]
    intro x hx heq
    apply ha
    rw [holds_congr (capacity_storeAll m bytes), ← of_decide_eq_true heq]
    exact hbytes x (List.mem_reverse.mp hx)
  rw [byteAt_storeAll, hfind]
  exact h a (by rwa [holds_congr (capacity_storeAll m bytes)] at ha)

theorem Bounded.afterChange (h : m.Bounded) (c : Change) : (m.afterChange c).Bounded := by
  by_cases hc : c = .clear
  . rw [hc]
    exact fun a _ => byteAt_empty m.capacity a
  . rw [afterChange_of_ne_clear hc]
    exact h.storeAll fun x => holds_of_mem_stores

/-! ### Histories -/

theorem afterChanges_concat (capacity : PhysicalAddress) (changes : List Change) (c : Change)
    : afterChanges capacity (changes ++ [c]) = (afterChanges capacity changes).afterChange c := by
  unfold afterChanges
  rw [List.foldl_concat]

theorem capacity_afterChanges (capacity : PhysicalAddress) (changes : List Change)
    : (afterChanges capacity changes).capacity = capacity := by
  induction changes using List.reverseRecOn with
  | nil => rfl
  | append_singleton changes c ih => rw [afterChanges_concat, capacity_afterChange, ih]

theorem bounded_afterChanges (capacity : PhysicalAddress) (changes : List Change)
    : (afterChanges capacity changes).Bounded := by
  induction changes using List.reverseRecOn with
  | nil => exact fun a _ => byteAt_empty capacity a
  | append_singleton changes c ih =>
    rw [afterChanges_concat]
    exact ih.afterChange c

theorem byteAt_afterChanges (capacity : PhysicalAddress) (changes : List Change) (a : PhysicalAddress)
    : (afterChanges capacity changes).byteAt a = (lastStored? capacity changes a).getD 0 := by
  -- From the end, where the change is that has the last word.
  induction changes using List.reverseRecOn with
  | nil => exact byteAt_empty capacity a
  | append_singleton changes c ih =>
    unfold lastStored? latestStores at ih ⊢
    rw [afterChanges_concat, List.reverse_concat, List.takeWhile_cons]
    by_cases hc : c = .clear
    . rw [hc]
      exact byteAt_empty _ a
    . rw [afterChange_of_ne_clear hc, byteAt_storeAll, capacity_afterChanges, ih]
      rw [if_pos (decide_eq_true hc), List.flatMap_cons, List.find?_append]
      cases (stores capacity c).reverse.find? fun x => x.1 = a <;> rfl

/-! ### Cells -/

theorem getElem?_cells (m : Memory) (a : PhysicalAddress)
    : m.cells[a.word]? = if m.byteAt a = 0 then none else some (m.byteAt a) := by
  have hne := m.cells_ne_zero a.word
  unfold byteAt
  rw [Std.ExtTreeMap.getD_eq_getD_getElem?]
  cases h : m.cells[a.word]? with
  | none => rfl
  | some b =>
    have hb : b ≠ 0 := by
      rintro rfl
      exact hne h
    exact (if_neg hb).symm

theorem mem_toList_iff : (a, b) ∈ m.toList ↔ m.byteAt a = b ∧ b ≠ 0 := by
  have hcell : (a, b) ∈ m.toList ↔ m.cells[a.word]? = some b := by
    rw [← Std.ExtTreeMap.mem_toList_iff_getElem?_eq_some]
    unfold toList
    rw [List.mem_map]
    constructor
    . rintro ⟨⟨w, b'⟩, hmem, heq⟩
      cases heq
      exact hmem
    . intro hmem
      exact ⟨_, hmem, rfl⟩
  rw [hcell, getElem?_cells]
  split
  . next hzero =>
    rw [hzero]
    constructor
    . intro h
      cases h
    . rintro ⟨rfl, hne⟩
      exact absurd rfl hne
  . next hne =>
    rw [Option.some_inj]
    exact ⟨fun h => ⟨h, h ▸ hne⟩, And.left⟩

theorem pairwise_toList (m : Memory) : m.toList.Pairwise fun x y => x.1.word < y.1.word := by
  have hkeys : m.cells.toList.Pairwise fun x y => compare x.1 y.1 = .lt := Std.ExtTreeMap.ordered_keys_toList
  unfold toList
  rw [List.pairwise_map]
  exact hkeys.imp compareOfLessAndEq_eq_lt.mp

theorem isEmpty_iff : m.isEmpty ↔ ∀ a, m.byteAt a = 0 := by
  unfold isEmpty
  rw [Std.ExtTreeMap.isEmpty_iff]
  constructor
  . intro h a
    unfold byteAt
    rw [h]
    exact Std.ExtTreeMap.getD_empty
  . intro h
    apply Std.ExtTreeMap.ext_getElem?
    intro w
    have hcell := m.getElem?_cells ⟨w⟩
    rw [h, if_pos rfl] at hcell
    rw [hcell, Std.ExtTreeMap.getElem?_empty]

theorem size_eq_ncard (m : Memory) : m.size = {a | m.byteAt a ≠ 0}.ncard := by
  have hnodup : (m.toList.map Prod.fst).Nodup := by
    rw [List.nodup_iff_pairwise_ne, List.pairwise_map]
    exact m.pairwise_toList.imp fun {x y} hlt heq => absurd hlt (by rw [heq]; exact BitVec.lt_irrefl _)
  have hset : {a | m.byteAt a ≠ 0} = ((m.toList.map Prod.fst).toFinset : Set PhysicalAddress) := by
    ext a
    simp only [Set.mem_ofPred_eq, List.coe_toFinset, List.mem_map, Prod.exists, mem_toList_iff]
    constructor
    . intro h
      exact ⟨a, _, ⟨rfl, h⟩, rfl⟩
    . rintro ⟨a, b, ⟨rfl, hne⟩, rfl⟩
      exact hne
  rw [hset, Set.ncard_coe_finset, List.toFinset_card_of_nodup hnodup, List.length_map]
  unfold toList
  rw [List.length_map, Std.ExtTreeMap.length_toList]
  rfl

/-! ### What can be read -/

theorem readByte_eq (m : Memory) (a : PhysicalAddress)
    : m.readByte a = if a.word ≤ m.capacity.word then .ok (m.byteAt a) else .error ⟨a, m.capacity⟩ := by
  split
  . next h => exact readByte_of_holds (decide_eq_true h)
  . next h =>
    unfold readByte check holds
    rw [decide_eq_false h]
    rfl

theorem readWord_eq (m : Memory) (a : PhysicalAddress)
    : m.readWord a = do
        let b₀ ← m.readByte a
        let b₁ ← m.readByte (a.add 1)
        let b₂ ← m.readByte (a.add 2)
        let b₃ ← m.readByte (a.add 3)
        return b₀ ++ b₁ ++ b₂ ++ b₃ := by
  unfold readWord wordPlaces
  simp only [List.mapM_cons, List.mapM_nil, bind_assoc, pure_bind, Bits.ofBytes_four]

theorem Bounded.readByte_eq_ok_iff (h : m.Bounded) : m.readByte a = .ok b ∧ b ≠ 0 ↔ m.byteAt a = b ∧ b ≠ 0 := by
  constructor
  . rintro ⟨hread, hb⟩
    rw [readByte_of_holds (holds_of_readByte hread)] at hread
    exact ⟨Except.ok.inj hread, hb⟩
  . rintro ⟨rfl, hb⟩
    exact ⟨readByte_of_holds (not_imp_comm.mp (h a) hb), hb⟩

/-- Memories in which the same can be read are made of the same cells. -/
theorem Bounded.cells_eq (h : m.Bounded) (h' : m'.Bounded) (hread : ∀ a, m'.readByte a = m.readByte a)
    : m'.cells = m.cells := by
  have hbyte (a : PhysicalAddress) : m'.byteAt a = m.byteAt a := by
    by_cases hzero : m.byteAt a = 0
    . by_contra hne
      rw [hzero] at hne
      have hmem := h'.readByte_eq_ok_iff.mpr ⟨rfl, hne⟩
      rw [hread, h.readByte_eq_ok_iff] at hmem
      exact hne (hmem.1 ▸ hzero)
    . have hmem := h.readByte_eq_ok_iff.mpr ⟨rfl, hzero⟩
      rw [← hread, h'.readByte_eq_ok_iff] at hmem
      exact hmem.1
  apply Std.ExtTreeMap.ext_getElem?
  intro w
  rw [m'.getElem?_cells ⟨w⟩, m.getElem?_cells ⟨w⟩, hbyte]

/-- A memory behaves as a total map of bytes of which the places up to its capacity can be seen. -/
structure Refines (m : Memory) (byte : PhysicalAddress → Byte) : Prop where
  readByte : ∀ a, m.readByte a = if a.word ≤ m.capacity.word then .ok (byte a) else .error ⟨a, m.capacity⟩
  readWord : ∀ a, m.readWord a = do
    let b₀ ← m.readByte a
    let b₁ ← m.readByte (a.add 1)
    let b₂ ← m.readByte (a.add 2)
    let b₃ ← m.readByte (a.add 3)
    return b₀ ++ b₁ ++ b₂ ++ b₃
  ascending : m.toList.Pairwise fun x y => x.1.word < y.1.word
  mem_toList : ∀ a b, (a, b) ∈ m.toList ↔ m.readByte a = .ok b ∧ b ≠ 0
  size : m.size = {a | ∃ b, m.readByte a = .ok b ∧ b ≠ 0}.ncard
  isEmpty : m.isEmpty ↔ ∀ a, a.word ≤ m.capacity.word → m.readByte a = .ok 0

theorem Bounded.refines (h : m.Bounded) : m.Refines m.byteAt where
  readByte := m.readByte_eq
  readWord := m.readWord_eq
  ascending := m.pairwise_toList
  mem_toList _ _ := by rw [mem_toList_iff, h.readByte_eq_ok_iff]
  size := by
    have hset : {a | ∃ b, m.readByte a = .ok b ∧ b ≠ 0} = {a | m.byteAt a ≠ 0} := by
      ext a
      simp only [Set.mem_ofPred_eq, h.readByte_eq_ok_iff, exists_eq_left']
    rw [hset, size_eq_ncard]
  isEmpty := by
    rw [isEmpty_iff]
    constructor
    . intro hzero a ha
      rw [m.readByte_eq, if_pos ha, hzero]
    . intro hread a
      by_cases ha : m.holds a
      . have hzero := hread a (of_decide_eq_true ha)
        rw [readByte_of_holds ha] at hzero
        exact Except.ok.inj hzero
      . exact h a ha

/--
Whatever has been asked of a new memory, it behaves as the map that has at each place the byte stored there
last since memory was cleared, or zero. If the same can be read in another memory of its capacity, that one has
the same cells.
-/
theorem afterChanges_refines (capacity : PhysicalAddress) (changes : List Change)
    : (afterChanges capacity changes).capacity = capacity
      ∧ (afterChanges capacity changes).Refines (fun a => (lastStored? capacity changes a).getD 0)
      ∧ ∀ changes',
          (∀ a, (afterChanges capacity changes').readByte a = (afterChanges capacity changes).readByte a) →
            (afterChanges capacity changes').cells = (afterChanges capacity changes).cells := by
  refine ⟨capacity_afterChanges capacity changes, ?refines, ?cells⟩
  case refines =>
    rw [← funext (byteAt_afterChanges capacity changes)]
    exact (bounded_afterChanges capacity changes).refines
  case cells =>
    intro changes' hread
    exact (bounded_afterChanges capacity changes).cells_eq (bounded_afterChanges capacity changes') hread

/-- A word, a byte that is refused and a zero in the place of a byte of the word. -/
def overwriting : List Change :=
  [.writeWord ⟨0x20⟩ 0x00FF0001, .writeByte ⟨0x100⟩ 7, .writeByte ⟨0x21⟩ 0]

/-- Of a word written over with zero no more is left than its last byte alone would have stored. -/
theorem afterChanges_refines_overwriting
    : (∀ a, (afterChanges ⟨0xFF⟩ [.writeByte ⟨0x23⟩ 1]).readByte a = (afterChanges ⟨0xFF⟩ overwriting).readByte a)
      ∧ (afterChanges ⟨0xFF⟩ [.writeByte ⟨0x23⟩ 1]).cells = (afterChanges ⟨0xFF⟩ overwriting).cells := by
  have hread (a : PhysicalAddress)
      : (afterChanges ⟨0xFF⟩ [.writeByte ⟨0x23⟩ 1]).readByte a = (afterChanges ⟨0xFF⟩ overwriting).readByte a := by
    have hone : latestStores ⟨0xFF⟩ [.writeByte ⟨0x23⟩ 1] = [(⟨0x23⟩, 1)] := rfl
    have hall : latestStores ⟨0xFF⟩ overwriting
          =
        [(⟨0x21⟩, 0), (⟨0x23⟩, 1), (⟨0x22⟩, 0), (⟨0x21⟩, 0xFF), (⟨0x20⟩, 0)] := by
      decide +kernel
    rw [readByte_eq, readByte_eq, capacity_afterChanges, capacity_afterChanges]
    rw [byteAt_afterChanges, byteAt_afterChanges]
    unfold lastStored?
    rw [hone, hall]
    obtain rfl | h₀ := eq_or_ne a ⟨0x20⟩
    . rfl
    obtain rfl | h₁ := eq_or_ne a ⟨0x21⟩
    . rfl
    obtain rfl | h₂ := eq_or_ne a ⟨0x22⟩
    . rfl
    obtain rfl | h₃ := eq_or_ne a ⟨0x23⟩
    . rfl
    simp only [List.find?_cons, List.find?_nil, decide_eq_false h₀.symm, decide_eq_false h₁.symm,
      decide_eq_false h₂.symm, decide_eq_false h₃.symm]
  exact ⟨hread, (afterChanges_refines ⟨0xFF⟩ overwriting).2.2 _ hread⟩

example : stores ⟨0xFFFFFFFD⟩ (.writeWord ⟨0xFFFFFFFD⟩ 0x01020304) = [(⟨0xFFFFFFFD⟩, 1)] := by
  decide +kernel

end Memory

end Triword
