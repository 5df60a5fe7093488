import Triword.Mmu
import Triword.Proofs.Adder

/-!
Arithmetic on addresses. Addresses are added as numbers round the end of the space, and an address with
its page changed keeps its distances inside the page.
-/

namespace Triword

theorem Mmu.pageSize_eq : pageSize = 4096 := rfl

namespace Address

variable {space : Space}

@[simp]
theorem word_offset (a : Address space) (distance : Word)
    : (a.offset distance).word = a.word + distance := by
  simp [offset]

@[simp]
theorem word_add (a : Address space) (k : Nat) : (a.add k).word = a.word + BitVec.ofNat 32 k := by
  simp [add]

theorem toNat_add (a : Address space) (k : Nat) : (a.add k).toNat = (a.toNat + k) % 4294967296 := by
  simp [toNat]

theorem offset_eq (a : Address space) (distance : Word) : a.offset distance = ⟨a.word + distance⟩ := by
  rw [← word_offset]

theorem eq_of_toNat_eq {a b : Address space} (h : a.toNat = b.toNat) : a = b := by
  cases a
  cases b
  simp only [mk.injEq]
  exact BitVec.eq_of_toNat_eq h

theorem add_add (a : Address space) (m n : Nat) : (a.add m).add n = a.add (m + n) := by
  apply eq_of_toNat_eq
  rw [toNat_add, toNat_add, toNat_add]
  omega

theorem add_zero (a : Address space) : a.add 0 = a := by
  have hlt : a.toNat < 4294967296 := a.word.isLt
  apply eq_of_toNat_eq
  rw [toNat_add]
  omega

theorem add_injective {a : Address space} {m n : Nat} (hm : m < 4294967296) (hn : n < 4294967296)
    (h : a.add m = a.add n) : m = n := by
  have hnat := congrArg toNat h
  rw [toNat_add, toNat_add] at hnat
  omega

def page (a : Address space) : BitVec 20 :=
  Bits.field a.word 0 20

def pageOffset (a : Address space) : BitVec 12 :=
  Bits.field a.word 20 12

theorem toNat_page (a : Address space) : a.page.toNat = a.toNat / Mmu.pageSize := by
  have hlt := a.word.isLt
  simp only [page, Bits.field, BitVec.extractLsb'_toNat, toNat, Nat.shiftRight_eq_div_pow, Mmu.pageSize_eq]
  omega

theorem toNat_pageOffset (a : Address space) : a.pageOffset.toNat = a.toNat % Mmu.pageSize := by
  simp only [pageOffset, Bits.field, BitVec.extractLsb'_toNat, toNat, Nat.shiftRight_eq_div_pow, Mmu.pageSize_eq]
  omega

theorem toNat_append (frame : BitVec 20) (offset : BitVec 12)
    : (⟨frame ++ offset⟩ : Address space).toNat = Mmu.pageSize * frame.toNat + offset.toNat := by
  have hlt := offset.isLt
  simp only [toNat, BitVec.toNat_append, Mmu.pageSize_eq]
  rw [← Nat.shiftLeft_add_eq_or_of_lt hlt, Nat.shiftLeft_eq]
  omega

theorem toNat_add_of_inside {a : Address space} {i : Nat}
    (h : a.toNat % Mmu.pageSize + i < Mmu.pageSize) : (a.add i).toNat = a.toNat + i := by
  have hlt : a.toNat < 4294967296 := a.word.isLt
  rw [Mmu.pageSize_eq] at h
  rw [toNat_add]
  omega

theorem page_add {a : Address space} {i : Nat} (h : a.toNat % Mmu.pageSize + i < Mmu.pageSize)
    : (a.add i).page = a.page := by
  apply BitVec.eq_of_toNat_eq
  rw [toNat_page, toNat_page, toNat_add_of_inside h]
  rw [Mmu.pageSize_eq] at *
  omega

/-- A walk replaces the page of an address and keeps the distances inside it. -/
theorem append_pageOffset_add {a : Address space} {i : Nat}
    (h : a.toNat % Mmu.pageSize + i < Mmu.pageSize) (frame : BitVec 20)
    : (⟨frame ++ (a.add i).pageOffset⟩ : PhysicalAddress)
      =
      Address.add ⟨frame ++ a.pageOffset⟩ i := by
  apply eq_of_toNat_eq
  rw [toNat_add_of_inside, toNat_append, toNat_append]
  . rw [toNat_pageOffset, toNat_pageOffset, toNat_add_of_inside h]
    rw [Mmu.pageSize_eq] at *
    omega
  . rw [toNat_append, toNat_pageOffset]
    rw [Mmu.pageSize_eq] at *
    omega

theorem page_append (frame : BitVec 20) (offset : BitVec 12)
    : (⟨frame ++ offset⟩ : Address space).page = frame := by
  have hlt : offset.toNat < 4096 := offset.isLt
  apply BitVec.eq_of_toNat_eq
  rw [toNat_page, toNat_append, Mmu.pageSize_eq]
  omega

theorem pageOffset_append (frame : BitVec 20) (offset : BitVec 12)
    : (⟨frame ++ offset⟩ : Address space).pageOffset = offset := by
  have hlt : offset.toNat < 4096 := offset.isLt
  apply BitVec.eq_of_toNat_eq
  rw [toNat_pageOffset, toNat_append, Mmu.pageSize_eq]
  omega

end Address

end Triword
