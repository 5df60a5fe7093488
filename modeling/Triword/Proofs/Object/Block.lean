import Triword.Object.Block
import Triword.Proofs.LabelTable

/-!
Programs as blocks. A program is put together again from its blocks; and any blocks, in whatever order, are
those of a program if one of them holds code and no two of them hold the same label.
-/

namespace Triword

namespace Object

variable {p : Program} {bs : List Block}

def bindings (bs : List Block) : List (String × VirtualAddress) :=
  bs.filterMap Block.label?

theorem filterMap_code?_labels (labels : List (String × VirtualAddress))
    : (labels.map fun (name, address) => Block.label name address).filterMap Block.code? = [] := by
  induction labels with
  | nil => rfl
  | cons x labels ih => exact ih

theorem bindings_labels (labels : List (String × VirtualAddress))
    : bindings (labels.map fun (name, address) => Block.label name address) = labels := by
  induction labels with
  | nil => rfl
  | cons x labels ih => exact congrArg (x :: ·) ih

theorem ofBlocks?_eq_some_iff
    : ofBlocks? bs = some p
        ↔
      bs.filterMap Block.code? = [(p.origin, p.words)]
        ∧ LabelTable.ofList? (bindings bs) = some p.labels := by
  unfold ofBlocks?
  constructor
  . intro h
    split at h
    . next origin words hcode =>
      obtain ⟨labels, hlabels, rfl⟩ := Option.map_eq_some_iff.mp h
      exact ⟨hcode, hlabels⟩
    . cases h
  . rintro ⟨hcode, hlabels⟩
    unfold bindings at hlabels
    rw [hcode, hlabels]
    rfl

theorem isSome_ofBlocks?_iff
    : (ofBlocks? bs).isSome
        ↔
      (bs.filterMap Block.code?).length = 1 ∧ ((bindings bs).map Prod.fst).Nodup := by
  rw [← LabelTable.isSome_ofList?_iff, Option.isSome_iff_exists, Option.isSome_iff_exists]
  constructor
  . rintro ⟨p, hp⟩
    obtain ⟨hcode, hlabels⟩ := ofBlocks?_eq_some_iff.mp hp
    exact ⟨congrArg List.length hcode, p.labels, hlabels⟩
  . rintro ⟨hcode, labels, hlabels⟩
    obtain ⟨⟨origin, words⟩, hcode⟩ := List.length_eq_one_iff.mp hcode
    exact ⟨⟨origin, words, labels⟩, ofBlocks?_eq_some_iff.mpr ⟨hcode, hlabels⟩⟩

theorem ofBlocks?_blocks (p : Program) : ofBlocks? (blocks p) = some p := by
  rw [ofBlocks?_eq_some_iff]
  constructor
  . exact congrArg ((p.origin, p.words) :: ·) (filterMap_code?_labels p.labels.toList)
  . have hbindings : bindings (blocks p) = p.labels.toList := bindings_labels p.labels.toList
    rw [hbindings]
    exact p.labels.ofList?_toList

end Object

end Triword
