import Triword.Instruction
import Triword.Proofs.Action

/-!
Headers against what they stand for. The header of every instruction is decoded as it was encoded, and its
fields are looked up as what they were. The other way round, a word that has been decoded and looked up is
the header of what was found.
-/

namespace Triword

@[simp]
theorem InstructionType.ofCode?_code (t : InstructionType) : ofCode? t.code = some t := by
  cases t <;> rfl

@[simp]
theorem Operation.ofOpcode?_opcode (op : Operation) : ofOpcode? op.type op.opcode = some op := by
  cases op <;> rfl

@[simp]
theorem OperandKind.ofCode?_code (k : OperandKind) : ofCode? k.code = some k := by
  cases k <;> rfl

@[simp]
theorem AddressingMode.ofCode?_code (m : AddressingMode) : ofCode? m.code = some m := by
  cases m <;> rfl

@[simp]
theorem Register.ofCode?_code (r : Register) : ofCode? r.code = some r := by
  cases r <;> rfl

theorem code_of_find? {α β : Type} [BEq β] [LawfulBEq β] {all : List α} {code : α → β} {b : β} {a : α}
    (h : all.find? (fun x => code x == b) = some a) : code a = b := by
  exact beq_iff_eq.mp (List.find?_some (p := fun x => code x == b) h)

theorem Operation.codes_of_ofOpcode? {type : InstructionType} {opcode : BitVec 7} {op : Operation}
    (h : ofOpcode? type opcode = some op) : op.type = type ∧ op.opcode = opcode := by
  unfold ofOpcode? at h
  have hcodes := List.find?_some h
  rw [Bool.and_eq_true, beq_iff_eq, beq_iff_eq] at hcodes
  exact hcodes

theorem SlotCode.eq_of_resolve {s : SlotCode} {slot : Slot} (h : s.resolve = .ok slot)
    : s = ⟨slot.mode.code, slot.kind.code⟩ := by
  unfold resolve at h
  split at h
  . next kind hkind =>
    split at h
    . next mode hmode =>
      cases h
      dsimp only
      rw [code_of_find? hkind, code_of_find? hmode]
    . cases h
  . cases h

def Shape.header (s : Shape) : Header where
  type := s.operation.type.code
  opcode := s.operation.opcode
  first := ⟨s.first.mode.code, s.first.kind.code⟩
  second := ⟨s.second.mode.code, s.second.kind.code⟩

namespace Header

theorem fields_append (type : BitVec 3) (d₁ : BitVec 2) (opcode : BitVec 7) (d₂ mode₁ : BitVec 2)
    (kind₁ : BitVec 7) (mode₂ : BitVec 2) (kind₂ : BitVec 7)
    : let w : Word := type ++ d₁ ++ opcode ++ d₂ ++ mode₁ ++ kind₁ ++ mode₂ ++ kind₂
      (Bits.field w 0 3 = type ∧ Bits.field w 3 2 = d₁ ∧ Bits.field w 5 7 = opcode ∧ Bits.field w 12 2 = d₂)
        ∧ (Bits.field w 14 2 = mode₁ ∧ Bits.field w 16 7 = kind₁)
        ∧ Bits.field w 23 2 = mode₂ ∧ Bits.field w 25 7 = kind₂ := by
  intro w
  unfold Bits.field w
  simp (disch := omega) only [BitVec.extractLsb'_append_eq_of_le, BitVec.extractLsb'_append_eq_of_add_le]
  simp only [Nat.reduceSub, BitVec.extractLsb'_eq_self, and_self]

theorem decode_encode (h : Header) : decode h.encode = .ok h := by
  obtain ⟨type, opcode, ⟨mode₁, kind₁⟩, ⟨mode₂, kind₂⟩⟩ := h
  obtain ⟨⟨htype, hd₁, hopcode, hd₂⟩, ⟨hmode₁, hkind₁⟩, hmode₂, hkind₂⟩ :=
    fields_append type delimiter opcode delimiter mode₁ kind₁ mode₂ kind₂
  unfold decode encode
  dsimp only
  rw [htype, hd₁, hopcode, hd₂, hmode₁, hkind₁, hmode₂, hkind₂]
  exact if_pos ⟨rfl, rfl⟩

theorem encode_ne_zero (h : Header) : h.encode ≠ 0 := by
  intro hzero
  have hdecode := decode_encode h
  rw [hzero] at hdecode
  cases hdecode

theorem append_fields (w : Word)
    : Bits.field w 0 3 ++ Bits.field w 3 2 ++ Bits.field w 5 7 ++ Bits.field w 12 2 ++ Bits.field w 14 2
        ++ Bits.field w 16 7 ++ Bits.field w 23 2 ++ Bits.field w 25 7
      =
      w := by
  unfold Bits.field
  simp only [Nat.reduceSub, BitVec.extractLsb'_append_extractLsb'_eq_extractLsb']
  exact BitVec.extractLsb'_eq_self

theorem encode_of_decode {w : Word} {h : Header} (hdecode : decode w = .ok h) : h.encode = w := by
  unfold decode at hdecode
  split at hdecode
  . next hdelimiters =>
    cases hdecode
    conv => rhs; rw [← append_fields w, hdelimiters.1, hdelimiters.2]
    rfl
  . cases hdecode

theorem eq_of_resolve {h : Header} {s : Shape} (hresolve : h.resolve = .ok s) : h = s.header := by
  unfold resolve at hresolve
  split at hresolve
  . next op hop =>
    obtain ⟨first, hfirst, hresolve⟩ := Outcome.bind_eq_ok_iff.mp hresolve
    obtain ⟨second, hsecond, hresolve⟩ := Outcome.bind_eq_ok_iff.mp hresolve
    cases hresolve
    obtain ⟨type, htype, hopcode⟩ := Option.bind_eq_some_iff.mp hop
    obtain ⟨htype', hopcode'⟩ := Operation.codes_of_ofOpcode? hopcode
    obtain ⟨t, o, s₁, s₂⟩ := h
    unfold Shape.header
    dsimp only at *
    rw [htype', hopcode', code_of_find? htype, SlotCode.eq_of_resolve hfirst, SlotCode.eq_of_resolve hsecond]
  . cases hresolve

theorem getMsbD_encode_congr {h h' : Header} {k : Nat} (htype : h'.type = h.type)
    (hopcode : h'.opcode = h.opcode) (hkind₁ : h'.first.kind = h.first.kind)
    (hkind₂ : h'.second.kind = h.second.kind)
    (hmode₁ : k = 14 ∨ k = 15 → h'.first.mode = h.first.mode)
    (hmode₂ : k = 23 ∨ k = 24 → h'.second.mode = h.second.mode)
    : h'.encode.getMsbD k = h.encode.getMsbD k := by
  unfold encode
  simp only [BitVec.getMsbD_append, htype, hopcode, hkind₁, hkind₂]
  -- From the right: the second kind and mode, and then the first ones.
  split
  . rfl
  split
  . rw [hmode₂ (by omega)]
  split
  . rfl
  split
  . rw [hmode₁ (by omega)]
  . rfl

end Header

namespace Instruction

def shape (i : Instruction) : Shape :=
  ⟨i.operation, ⟨i.first.mode, i.first.kind⟩, ⟨i.second.mode, i.second.kind⟩⟩

theorem resolve_header (i : Instruction) : i.header.resolve = .ok i.shape := by
  simp [header, Header.resolve, SlotCode.resolve, shape]
  rfl

end Instruction

end Triword
