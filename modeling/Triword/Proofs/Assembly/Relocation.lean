import Triword.Proofs.Alike
import Triword.Proofs.Assembly.Labels

/-!
Programs at another origin. Both passes over a source text go the same way wherever the program starts:
the first binds the same labels, further on by the distance of the origins, and the second makes the same
instructions of the lines, in which the operands that are labels have moved along.
-/

namespace Triword

/-! ### What moves -/

namespace Operand

def moved (distance : Word) (o : Operand) : Operand :=
  if o.kind = .label then { o with value := o.value + distance } else o

variable (distance : Word) (o : Operand)

@[simp]
theorem kind_moved : (o.moved distance).kind = o.kind := by
  unfold moved
  split
  . rfl
  . rfl

@[simp]
theorem mode_moved : (o.moved distance).mode = o.mode := by
  unfold moved
  split
  . rfl
  . rfl

theorem value_moved
    : (o.moved distance).value = if o.kind = .label then o.value + distance else o.value := by
  unfold moved
  split
  . rfl
  . rfl

end Operand

namespace Instruction

def moved (distance : Word) (i : Instruction) : Instruction :=
  ⟨i.operation, i.first.moved distance, i.second.moved distance⟩

@[simp]
theorem header_moved (distance : Word) (i : Instruction) : (i.moved distance).header = i.header := by
  simp [header, moved]

theorem length_flatMap_encode (is : List Instruction) : (is.flatMap encode).length = 3 * is.length := by
  induction is with
  | nil => rfl
  | cons i is ih =>
    rw [List.flatMap_cons, List.length_append, ih, List.length_cons]
    unfold encode
    rw [List.length_cons, List.length_cons, List.length_cons, List.length_nil]
    omega

theorem getElem?_flatMap_encode {is : List Instruction} {k : Nat} {i : Instruction} (hi : is[k]? = some i)
    {j : Nat} (hj : j < 3) : (is.flatMap encode)[3 * k + j]? = i.encode[j]? := by
  induction is generalizing k with
  | nil => cases hi
  | cons first is ih =>
    have hlength : first.encode.length = 3 := rfl
    rw [List.flatMap_cons]
    cases k with
    | zero =>
      cases hi
      rw [Nat.mul_zero, Nat.zero_add, List.getElem?_append_left (by omega)]
    | succ k =>
      rw [List.getElem?_append_right (by omega), ← ih hi]
      congr 1
      omega

end Instruction

/-- The second table has the same labels as the first one, each `distance` further on. -/
def LabelTable.IsMoved (distance : Word) (t t' : LabelTable) : Prop :=
  ∀ name, t'.lookup? name = (t.lookup? name).map fun a => a.offset distance

namespace LabelTable

variable {distance : Word} {t t' : LabelTable}

theorem isMoved_empty : IsMoved distance .empty .empty := by
  intro name
  rw [lookup?_empty]
  rfl

theorem IsMoved.insert?_of_none (h : IsMoved distance t t') {label : String} {a b : VirtualAddress}
    (hinsert : t.insert? label a = none) : t'.insert? label b = none := by
  cases hlookup : t.lookup? label with
  | none =>
    obtain ⟨u, hu⟩ := exists_insert?_of_free hlookup a
    rw [hu] at hinsert
    cases hinsert
  | some c =>
    have hlabel := h label
    rw [hlookup] at hlabel
    exact insert?_of_bound hlabel b

theorem IsMoved.insert?_of_some (h : IsMoved distance t t') {label : String} {a : VirtualAddress}
    {u : LabelTable} (hinsert : t.insert? label a = some u)
    : ∃ u', t'.insert? label (a.offset distance) = some u' ∧ IsMoved distance u u' := by
  obtain ⟨hfree, hlookup⟩ := lookup?_of_insert? hinsert
  have hlabel := h label
  rw [hfree] at hlabel
  obtain ⟨u', hinsert'⟩ := exists_insert?_of_free hlabel (a.offset distance)
  refine ⟨u', hinsert', ?_⟩
  intro name
  rw [hlookup, (lookup?_of_insert? hinsert').2]
  split
  . rfl
  . exact h name

end LabelTable

namespace Assembly

open LabelTable (IsMoved)
open Outcome (Alike)

variable {distance : Word} {t t' : LabelTable}

/-! ### The first pass -/

theorem instructionAddress_offset (origin : VirtualAddress) (distance : Word) (k : Nat)
    : instructionAddress (origin.offset distance) k = (instructionAddress origin k).offset distance := by
  unfold instructionAddress Address.add
  rw [Address.offset_eq, Address.offset_eq, Address.offset_eq, Address.offset_eq]
  rw [Address.mk.injEq, BitVec.add_assoc, BitVec.add_assoc, BitVec.add_comm distance]

theorem locateLabelsFrom_offset (l : Language) (origin : VirtualAddress) (h : IsMoved distance t t')
    (k : Nat) (lines : List SourceLine)
    : Alike (IsMoved distance) (locateLabelsFrom l origin t k lines)
        (locateLabelsFrom l (origin.offset distance) t' k lines) := by
  -- The tables differ from line to line, but always by the same distance.
  induction lines generalizing t t' k with
  | nil => exact .ok h
  | cons line lines ih =>
    cases hlabel : l.declaredLabel? line.text with
    | none =>
      rw [locateLabelsFrom_instruction hlabel, locateLabelsFrom_instruction hlabel]
      exact ih h (k + 1)
    | some label =>
      cases hinsert : t.insert? label (instructionAddress origin k) with
      | none =>
        have hinsert' := h.insert?_of_none hinsert (b := instructionAddress (origin.offset distance) k)
        rw [locateLabelsFrom_duplicate hlabel hinsert, locateLabelsFrom_duplicate hlabel hinsert']
        exact .error _
      | some u =>
        obtain ⟨u', hinsert', hmoved⟩ := h.insert?_of_some hinsert
        rw [← instructionAddress_offset] at hinsert'
        rw [locateLabelsFrom_label hlabel hinsert, locateLabelsFrom_label hlabel hinsert']
        exact ih hmoved k

/-! ### The second pass -/

theorem encodeOperand_moved (h : IsMoved distance t t') {kind : OperandKind} {text : String}
    (hkind : ∀ token, Token.read text = .ok token → token.kind = kind)
    : encodeOperand t' kind text = (encodeOperand t kind text).map (Operand.moved distance) := by
  unfold encodeOperand
  cases hread : Token.read text with
  | error e => rfl
  | ok token =>
    obtain rfl := hkind token hread
    -- Of all tokens, only a label is looked up; what the others stand for is in the text.
    cases token with
    | label name =>
      show encodeToken t' (.label name) >>= _ = (encodeToken t (.label name) >>= _).map _
      unfold encodeToken
      dsimp only
      rw [h name]
      cases t.lookup? name with
      | none => rfl
      | some a =>
        show Except.ok (Operand.mk .label .direct (a.offset distance).word) = _
        rw [Address.word_offset]
        rfl
    | immediate v =>
      show encodeToken t' (.immediate v) >>= _ = (encodeToken t (.immediate v) >>= _).map _
      unfold encodeToken
      dsimp only
      cases Bits.ofInteger v with
      | error e => rfl
      | ok w => rfl
    | address w => rfl
    | register r => rfl
    | indirect r => rfl

/-- The words of instructions here, and there the words of the same instructions once they have moved. -/
def Moves (distance : Word) (ws ws' : List Word) : Prop :=
  ∃ is : List Instruction, ws = is.flatMap Instruction.encode
    ∧ ws' = (is.map (Instruction.moved distance)).flatMap Instruction.encode

theorem moves_nil (distance : Word) : Moves distance [] [] :=
  ⟨[], rfl, rfl⟩

theorem moves_append {vs vs' ws ws' : List Word} (hv : Moves distance vs vs') (hw : Moves distance ws ws')
    : Moves distance (vs ++ ws) (vs' ++ ws') := by
  obtain ⟨is, rfl, rfl⟩ := hv
  obtain ⟨js, rfl, rfl⟩ := hw
  refine ⟨is ++ js, ?_, ?_⟩
  . rw [List.flatMap_append]
  . rw [List.map_append, List.flatMap_append]

theorem moves_flatten {parts parts' : List (List Word)} (h : List.Forall₂ (Moves distance) parts parts')
    : Moves distance parts.flatten parts'.flatten := by
  induction h with
  | nil => exact moves_nil distance
  | cons hfirst _ ih => exact moves_append hfirst ih

theorem instructionOf_moved (op : Operation) (operands : List Operand)
    : instructionOf op (operands.map (Operand.moved distance))
        =
      (instructionOf op operands).moved distance := by
  have hslot : ∀ o : Option Operand,
      (o.map (Operand.moved distance)).getD .absent = (o.getD .absent).moved distance := by
    intro o
    cases o <;> rfl
  unfold instructionOf Instruction.moved
  rw [List.getElem?_map, List.getElem?_map, hslot, hslot]

theorem encodeMatch_moved (h : IsMoved distance t t') {m : Language.Match} {text : String}
    (hm : m ∈ Language.bundled.variantsMatching text)
    : Alike (Moves distance) (encodeMatch t m) (encodeMatch t' m) := by
  unfold encodeMatch
  have hoperands : m.variant.operands.mapM (fun o =>
        encodeOperand t' o.kind ((m.captures.named? o.name).getD ""))
      = (m.variant.operands.mapM fun o =>
        encodeOperand t o.kind ((m.captures.named? o.name).getD "")).map
          (List.map (Operand.moved distance)) := by
    rw [← Outcome.mapM_map]
    apply Outcome.mapM_congr
    intro o ho
    exact encodeOperand_moved h fun _ => kind_of_captures hm ho
  -- The operands there are those here, moved: so both fail, or both give the words of one instruction.
  cases hfirst : m.variant.operands.mapM fun o =>
      encodeOperand t o.kind ((m.captures.named? o.name).getD "") with
  | error e =>
    rw [hfirst] at hoperands
    rw [hoperands]
    exact .error e
  | ok operands =>
    rw [hfirst] at hoperands
    rw [hoperands]
    obtain ⟨op, hop, hencode, -⟩ := encode_of_match hm hfirst
    obtain ⟨op', hop', hencode', -⟩ := encode_of_match hm hoperands
    obtain rfl : op = op' := Option.some.inj (hop.symm.trans hop')
    refine .ok ⟨[instructionOf op operands], ?_, ?_⟩
    . rw [hencode, List.flatMap_singleton]
    . rw [hencode', instructionOf_moved, List.map_singleton, List.flatMap_singleton]

section

variable {l : Language}

/-- Every match of the language becomes an instruction that moves with its labels. -/
def MatchesMove (l : Language) : Prop :=
  ∀ (distance : Word) (t t' : LabelTable) (text : String), t.IsMoved distance t'
    → ∀ m ∈ l.variantsMatching text, Alike (Moves distance) (encodeMatch t m) (encodeMatch t' m)

theorem encodeText_moved (hl : MatchesMove l) (h : IsMoved distance t t') (text : String)
    : Alike (Moves distance) (encodeText l t text) (encodeText l t' text) := by
  have hmatch := hl distance t t' text h
  unfold encodeText
  generalize l.variantsMatching text = ms at hmatch ⊢
  cases ms with
  | nil => exact .error _
  | cons m ms =>
    cases ms with
    | nil => exact hmatch m (List.mem_singleton_self m)
    | cons m' ms => exact .error _

theorem encodeLine_moved (hl : MatchesMove l) (h : IsMoved distance t t') (line : SourceLine)
    : Alike (Moves distance) (encodeLine l t line) (encodeLine l t' line) := by
  unfold encodeLine
  cases l.declaredLabel? line.text with
  | some label => exact .ok (moves_nil distance)
  | none => exact (encodeText_moved hl h line.text).mapError _

theorem encodeLines_moved (hl : MatchesMove l) (h : IsMoved distance t t') (lines : List SourceLine)
    : Alike (Moves distance) (encodeLines l t lines) (encodeLines l t' lines) := by
  have hparts := Alike.mapM fun line (_ : line ∈ lines) => encodeLine_moved hl h line
  unfold encodeLines
  generalize lines.mapM (encodeLine l t) = x at hparts ⊢
  generalize lines.mapM (encodeLine l t') = y at hparts ⊢
  cases hparts with
  | error e => exact .error e
  | ok hparts => exact .ok (moves_flatten hparts)

/-! ### Both passes -/

theorem assemble_offset (hl : MatchesMove l) (source : String) (origin : VirtualAddress) (distance : Word)
    : Alike (fun p q => Moves distance p.words q.words ∧ p.labels.IsMoved distance q.labels)
        (assemble l origin source) (assemble l (origin.offset distance) source) := by
  apply (locateLabelsFrom_offset l origin LabelTable.isMoved_empty 0 (sourceLines l source)).bind
  intro t t' ht
  apply (encodeLines_moved hl ht (sourceLines l source)).bind
  intro ws ws' hws
  exact .ok ⟨hws, ht⟩

end

theorem matchesMove_bundled : MatchesMove .bundled := by
  intro distance t t' text h m hm
  exact encodeMatch_moved h hm

/-! ### Single words -/

theorem instruction_of_moves {ws ws' : List Word} (h : Moves distance ws ws') {k : Nat} {w : Word}
    (hw : ws[3 * k]? = some w)
    : ∃ i : Instruction, w = i.header.encode
        ∧ ∀ j < 3, ws[3 * k + j]? = i.encode[j]? ∧ ws'[3 * k + j]? = (i.moved distance).encode[j]? := by
  obtain ⟨is, rfl, rfl⟩ := h
  have hk : k < is.length := by
    have hlength := (List.getElem?_eq_some_iff.mp hw).1
    rw [Instruction.length_flatMap_encode] at hlength
    omega
  have hi : is[k]? = some is[k] := List.getElem?_eq_getElem hk
  have hmoved : (is.map (Instruction.moved distance))[k]? = some (is[k].moved distance) := by
    rw [List.getElem?_map, hi]
    rfl
  have hplace := fun j (hj : j < 3) => Instruction.getElem?_flatMap_encode hi hj
  refine ⟨is[k], ?_, ?_⟩
  . have hfirst := (hplace 0 (by omega)).symm.trans hw
    exact (Option.some.inj hfirst).symm
  . intro j hj
    exact ⟨hplace j hj, Instruction.getElem?_flatMap_encode hmoved hj⟩

theorem resolve_encode (i : Instruction)
    : Header.decode i.header.encode >>= Header.resolve = .ok i.shape := by
  rw [Header.decode_encode]
  exact i.resolve_header

theorem length_of_moves {ws ws' : List Word} (h : Moves distance ws ws') : ws.length = ws'.length := by
  obtain ⟨is, rfl, rfl⟩ := h
  rw [Instruction.length_flatMap_encode, Instruction.length_flatMap_encode, List.length_map]

/--
A source text is wrong in the same way wherever its program starts, or right everywhere. If it is right,
the programs differ in their labels and in the operands that are labels, all of which are as far apart as
the origins are, round the end of the space.
-/
theorem assemble_elsewhere (source : String) (o₁ o₂ : VirtualAddress)
    : (∃ e, assemble .bundled o₁ source = .error e ∧ assemble .bundled o₂ source = .error e)
        ∨ ∃ p q, assemble .bundled o₁ source = .ok p
          ∧ assemble .bundled o₂ source = .ok q
          ∧ p.words.length = q.words.length
          ∧ (∀ k h, p.words[3 * k]? = some h
            → q.words[3 * k]? = some h
              ∧ ∃ shape, Header.decode h >>= Header.resolve = .ok shape
                ∧ ∀ j slot, [shape.first, shape.second][j]? = some slot
                  → ∃ w, p.words[3 * k + (1 + j)]? = some w
                    ∧ q.words[3 * k + (1 + j)]?
                      = some (if slot.kind = .label then w + (o₂.word - o₁.word) else w))
          ∧ ∀ name, q.labels.lookup? name
            = (p.labels.lookup? name).map fun a => ⟨a.word + (o₂.word - o₁.word)⟩ := by
  have hword : o₁.word + (o₂.word - o₁.word) = o₂.word := by
    rw [BitVec.add_comm, BitVec.sub_add_cancel]
  have horigin : o₁.offset (o₂.word - o₁.word) = o₂ := by
    rw [Address.offset_eq, hword]
  have halike := assemble_offset matchesMove_bundled source o₁ (o₂.word - o₁.word)
  rw [horigin] at halike
  -- From here on it only matters that the two results are alike.
  generalize o₂.word - o₁.word = distance at halike ⊢
  generalize assemble .bundled o₁ source = x at halike ⊢
  generalize assemble .bundled o₂ source = y at halike ⊢
  cases halike with
  | error e => exact .inl ⟨e, rfl, rfl⟩
  | @ok p q h =>
    obtain ⟨hwords, hlabels⟩ := h
    refine .inr ⟨p, q, rfl, rfl, length_of_moves hwords, ?_, ?_⟩
    . intro k h hk
      obtain ⟨i, rfl, hplaces⟩ := instruction_of_moves hwords hk
      refine ⟨?_, i.shape, resolve_encode i, ?_⟩
      . have hheader := (hplaces 0 (by omega)).2
        unfold Instruction.encode at hheader
        rw [Instruction.header_moved] at hheader
        exact hheader
      . intro j slot hslot
        match j, hslot with
        | 0, rfl =>
          obtain ⟨hp, hq⟩ := hplaces 1 (by omega)
          exact ⟨i.first.value, hp, hq.trans (congrArg some (i.first.value_moved distance))⟩
        | 1, rfl =>
          obtain ⟨hp, hq⟩ := hplaces 2 (by omega)
          exact ⟨i.second.value, hp, hq.trans (congrArg some (i.second.value_moved distance))⟩
    . intro name
      simp only [hlabels name, Address.offset_eq]

end Assembly

end Triword
