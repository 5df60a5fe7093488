import Triword.Proofs.Assembly.Encode
import Triword.Proofs.Assembly.Shown
import Triword.Proofs.Assembly.Source
import Triword.Proofs.Language.Writing

/-!
Instructions as they are shown. What is shown of an instruction whose operands are all shown in full is a source
text of one line, and it is assembled to the words of the instruction.
-/

namespace Triword

def Instruction.present (i : Instruction) : List Operand :=
  [i.first, i.second].filter Operand.isPresent

/--
The variant is one of the operation and the slots are filled as the variant has it: with operands of its kinds,
all shown in full, and with nothing where it has none.
-/
structure Language.Variant.Describes (v : Variant) (i : Instruction) : Prop where
  type : v.type = i.operation.type
  opcode : v.opcode = i.operation.opcode
  first : i.first.kind = (v.operands.map VariantOperand.kind)[0]?.getD .absent
  second : i.second.kind = (v.operands.map VariantOperand.kind)[1]?.getD .absent
  shown : ∀ o ∈ [i.first, i.second], o = .absent ∨ o.IsShown

namespace Assembly

open Triword.Language (bundled)
open Language.Bundled (separated operationOf variantOf formOf instructions knownTypes IsWritten Written)

variable {i : Instruction} {v : Language.Variant} {origin : VirtualAddress} {line : String}

/-! ### Operands -/

theorem kind_ne_absent_of_isShown {o : Operand} (h : o.IsShown) : o.kind ≠ .absent := by
  cases h <;> exact nofun

theorem eq_absent {o : Operand} (h : o = .absent ∨ o.IsShown) (hkind : o.kind = .absent) : o = .absent := by
  obtain rfl | hshown := h
  . rfl
  . exact absurd hkind (kind_ne_absent_of_isShown hshown)

theorem isShown_of_present {o : Operand} (h : o = .absent ∨ o.IsShown) (hkind : o.kind ≠ .absent) : o.IsShown := by
  obtain rfl | hshown := h
  . exact absurd rfl hkind
  . exact hshown

theorem isPresent_eq {o : Operand} (hkind : o.kind ≠ .absent) : o.isPresent = true :=
  bne_iff_ne.mpr hkind

theorem present_of_describes (hv : v ∈ bundled.variants) (h : v.Describes i)
    : i.present.map Operand.kind = v.operands.map Language.VariantOperand.kind
      ∧ (∀ o ∈ i.present, o.IsShown)
      ∧ i = instructionOf i.operation i.present := by
  have hkinds : ∀ kind ∈ v.operands.map Language.VariantOperand.kind, kind ≠ .absent := by
    intro kind hkind habsent
    have hknown := (Language.Bundled.of_mem_variants hv).2.2.2 kind hkind
    rw [habsent] at hknown
    exact absurd hknown (by decide)
  have hcount : (v.operands.map Language.VariantOperand.kind).length ≤ 2 := Language.Bundled.length_kinds_le hv
  obtain ⟨-, -, hfirst, hsecond, hshown⟩ := h
  obtain ⟨op, first, second⟩ := i
  obtain ⟨hshown₁, hshown₂⟩ : (first = .absent ∨ first.IsShown) ∧ (second = .absent ∨ second.IsShown) := by
    simpa using hshown
  unfold Instruction.present
  generalize v.operands.map Language.VariantOperand.kind = kinds at hkinds hcount hfirst hsecond
  -- The kinds tell which of the two slots are filled.
  match kinds with
  | [] =>
    obtain rfl := eq_absent hshown₁ hfirst
    obtain rfl := eq_absent hshown₂ hsecond
    exact ⟨rfl, nofun, rfl⟩
  | [k] =>
    obtain rfl := eq_absent hshown₂ hsecond
    have hpresent : first.kind ≠ .absent := hfirst ▸ hkinds k List.mem_cons_self
    have hlist : [first, Operand.absent].filter Operand.isPresent = [first] :=
      List.filter_cons_of_pos (isPresent_eq hpresent)
    dsimp only
    rw [hlist]
    exact ⟨congrArg ([·]) hfirst, List.forall_mem_singleton.mpr (isShown_of_present hshown₁ hpresent), rfl⟩
  | [k, l] =>
    have hpresent₁ : first.kind ≠ .absent := hfirst ▸ hkinds k List.mem_cons_self
    have hpresent₂ : second.kind ≠ .absent := hsecond ▸ hkinds l (List.mem_cons_of_mem k List.mem_cons_self)
    have hlist : [first, second].filter Operand.isPresent = [first, second] := by
      rw [List.filter_cons_of_pos (isPresent_eq hpresent₁), List.filter_cons_of_pos (isPresent_eq hpresent₂)]
      rfl
    dsimp only
    rw [hlist, List.map_cons, List.map_singleton, hfirst, hsecond]
    refine ⟨rfl, List.forall_mem_cons.mpr ⟨isShown_of_present hshown₁ hpresent₁, ?_⟩, rfl⟩
    exact List.forall_mem_singleton.mpr (isShown_of_present hshown₂ hpresent₂)
  | _ :: _ :: _ :: _ => simp at hcount

/-! ### Variants -/

theorem variantOf_mem_variants {r : Language.InstructionRule} {types : List Language.KnownType}
    (hr : r ∈ instructions) (htypes : types ∈ Language.combinations knownTypes r.operands r.illegalCombinations)
    : variantOf r types ∈ bundled.variants := by
  rw [Language.bundled_eq]
  exact List.mem_flatMap.mpr ⟨r, hr, List.mem_map_of_mem htypes⟩

theorem holds_mnemonics : ∀ r ∈ instructions, ∃ r' ∈ instructions,
    r'.mnemonic = (operationOf r.mnemonic).mnemonic ∧ formOf r' = formOf r := by
  decide +kernel

theorem operationOf_mnemonic (op : Operation) : operationOf op.mnemonic = op := by
  cases op <;> decide +kernel

/-- Where an operation has several mnemonics, their variants have the same kinds of operands. -/
theorem exists_variant_of_mnemonic {op : Operation} (hv : v ∈ bundled.variants) (htype : v.type = op.type)
    (hopcode : v.opcode = op.opcode)
    : ∃ v' ∈ bundled.variants, v'.mnemonic = op.mnemonic ∧ v'.type = op.type ∧ v'.opcode = op.opcode
        ∧ v'.operands.map Language.VariantOperand.kind = v.operands.map Language.VariantOperand.kind := by
  obtain ⟨r, hr, types, htypes, rfl⟩ := Language.Bundled.exists_of_mem_variants hv
  have hop : operationOf r.mnemonic = op := by
    apply Option.some.inj
    rw [← Operation.ofOpcode?_opcode (operationOf r.mnemonic), ← Operation.ofOpcode?_opcode op, ← htype, ← hopcode,
      ← (Language.Bundled.operation_of_mnemonic hr).2]
    rfl
  obtain ⟨r', hr', hmnemonic, hform⟩ := holds_mnemonics r hr
  obtain ⟨hoperands, hillegal⟩ := Prod.mk.inj hform
  rw [hop] at hmnemonic
  have htypes' : types ∈ Language.combinations knownTypes r'.operands r'.illegalCombinations := by
    rw [hoperands, hillegal]
    exact htypes
  refine ⟨variantOf r' types, variantOf_mem_variants hr' htypes', hmnemonic, ?_, ?_, ?_⟩
  . show r'.type = op.type
    rw [(Language.Bundled.operation_of_mnemonic hr').2, hmnemonic, operationOf_mnemonic]
  . show (operationOf r'.mnemonic).opcode = op.opcode
    rw [hmnemonic, operationOf_mnemonic]
  . rw [Language.Bundled.kinds_variantOf (Language.length_of_mem_combinations htypes'),
      Language.Bundled.kinds_variantOf (Language.length_of_mem_combinations htypes)]

/-! ### Lines -/

theorem toList_display (i : Instruction)
    : i.display.toList
        =
      i.operation.mnemonic.toList ++ separated (i.present.map fun o => o.display.toList) := by
  have hcount : i.present.length ≤ 2 := List.length_filter_le _ _
  unfold Instruction.display
  unfold Instruction.present at hcount ⊢
  generalize [i.first, i.second].filter Operand.isPresent = operands at hcount
  match operands with
  | [] => simp [separated]
  | [o] => simp [separated, toString]
  | [o, o'] => simp [separated, toString]
  | _ :: _ :: _ :: _ => simp at hcount

theorem written_of_isShown {operands : List Operand} (h : ∀ o ∈ operands, o.IsShown)
    : Written (operands.map Operand.kind) (operands.map fun o => o.display.toList) := by
  induction operands with
  | nil => exact .nil
  | cons o operands ih =>
    obtain ⟨ho, hoperands⟩ := List.forall_mem_cons.mp h
    exact .cons (accepts_of_isShown ho) (ih hoperands)

theorem mapM_encodeOperand {t : LabelTable} {vs : List Language.VariantOperand} {operands : List Operand}
    {text : Language.VariantOperand → String}
    (hkinds : vs.map Language.VariantOperand.kind = operands.map Operand.kind)
    (htexts : vs.map text = operands.map Operand.display) (h : ∀ o ∈ operands, o.IsShown)
    : vs.mapM (fun x => encodeOperand t x.kind (text x)) = .ok operands := by
  induction operands generalizing vs with
  | nil =>
    obtain rfl := List.map_eq_nil_iff.mp htexts
    rfl
  | cons o operands ih =>
    obtain ⟨x, vs, rfl, hkind, hkinds⟩ := List.map_eq_cons_iff.mp hkinds
    rw [List.map_cons, List.map_cons, List.cons.injEq] at htexts
    obtain ⟨ho, hoperands⟩ := List.forall_mem_cons.mp h
    rw [List.mapM_cons, hkind, htexts.1, encodeOperand_of_isShown ho, ih hkinds htexts.2 hoperands]
    rfl

/-! ### Sources -/

theorem sourceLines_eq_singleton {l : Language} (hl : l.comment = Language.Bundled.comment)
    (hnewline : '\n' ∉ line.toList) (hsemicolon : ';' ∉ line.toList) (hne : line.toList ≠ [])
    (htrim : Text.trimList line.toList = line.toList)
    : sourceLines l line = [⟨1, line⟩] := by
  have hsaid : said line.toList = line.toList := (said_of_not_mem hsemicolon).trans htrim
  rw [sourceLines_eq hl, List.splitOn_eq_singleton hnewline, Text.keptFrom_cons, hsaid, if_neg hne]
  show [SourceLine.mk 1 (String.ofList line.toList)] = _
  rw [String.ofList_toList]

theorem assemble_of_line {l : Language} {words : List Word} (hlines : sourceLines l line = [⟨1, line⟩])
    (hlabel : l.declaredLabel? line = none) (hwords : encodeText l .empty line = .ok words)
    : assemble l origin line = .ok ⟨origin, words, .empty⟩ := by
  have hlocated : locateLabels l origin [⟨1, line⟩] = .ok .empty := by
    unfold locateLabels locateLabelsFrom
    dsimp only
    rw [hlabel]
    rfl
  have hline : encodeLine l .empty ⟨1, line⟩ = .ok words := by
    unfold encodeLine
    dsimp only
    rw [hlabel, hwords]
    rfl
  have hencoded : encodeLines l .empty [⟨1, line⟩] = .ok words := by
    unfold encodeLines
    rw [List.mapM_cons, hline]
    show Except.ok [words].flatten = _
    rw [List.flatten_singleton]
  unfold assemble
  dsimp only
  rw [hlines, hlocated]
  show (do let words ← encodeLines l .empty [⟨1, line⟩]; return ⟨origin, words, .empty⟩ : Except Error Program) = _
  rw [hencoded]
  rfl

theorem encodeText_of_singleton {l : Language} {t : LabelTable} {m : Language.Match}
    (h : l.variantsMatching line = [m]) : encodeText l t line = encodeMatch t m := by
  unfold encodeText
  rw [h]

theorem encodeMatch_of_mapM {t : LabelTable} {m : Language.Match} {operands : List Operand}
    (h : m.variant.operands.mapM (fun o => encodeOperand t o.kind ((m.captures.named? o.name).getD ""))
      = .ok operands)
    : encodeMatch t m = .ok (encodeVariant m.variant operands) := by
  unfold encodeMatch
  rw [h]
  rfl

theorem encodeVariant_eq {op : Operation} (htype : v.type = op.type) (hopcode : v.opcode = op.opcode)
    (operands : List Operand) : encodeVariant v operands = (instructionOf op operands).encode := by
  unfold encodeVariant
  dsimp only
  rw [htype, hopcode]
  rfl

/-- What is shown of an instruction of the bundled language is assembled to its words. -/
theorem assemble_display (hv : v ∈ bundled.variants) (h : v.Describes i) (origin : VirtualAddress)
    : assemble bundled origin i.display = .ok ⟨origin, i.encode, .empty⟩ := by
  obtain ⟨hkinds, hshown, hi⟩ := present_of_describes hv h
  obtain ⟨v', hv', hmnemonic, htype, hopcode, hkinds'⟩ := exists_variant_of_mnemonic hv h.type h.opcode
  have hwritten : IsWritten v' (i.present.map fun o => o.display.toList) i.display := by
    refine ⟨?_, ?_⟩
    . rw [hmnemonic]
      exact toList_display i
    . rw [hkinds', ← hkinds]
      exact written_of_isShown hshown
  obtain ⟨hnewline, hsemicolon, hne, htrim⟩ := Language.Bundled.isPlain_of_isWritten hv' hwritten
  obtain ⟨c, hmatch, htexts⟩ := Language.Bundled.variantsMatching_of_isWritten hv' hwritten
  have hlabel : bundled.declaredLabel? i.display = none := by
    rw [Option.eq_none_iff_forall_ne_some]
    intro name hname
    rw [Language.Bundled.variantsMatching_of_declares hname] at hmatch
    cases hmatch
  have hdisplays : v'.operands.map (fun o => (c.named? o.name).getD "") = i.present.map Operand.display := by
    rw [htexts, List.map_map]
    exact List.map_congr_left fun o _ => String.ofList_toList
  have hwords : encodeText bundled .empty i.display = .ok i.encode := by
    have hsame : v'.operands.map Language.VariantOperand.kind = i.present.map Operand.kind := by
      rw [hkinds', hkinds]
    have hoperands := mapM_encodeOperand (t := .empty) hsame hdisplays hshown
    rw [encodeText_of_singleton hmatch, encodeMatch_of_mapM (m := ⟨v', c⟩) hoperands,
      encodeVariant_eq htype hopcode, ← hi]
  exact assemble_of_line (sourceLines_eq_singleton (by rw [Language.bundled_eq]) hnewline hsemicolon hne htrim)
    hlabel hwords

/-- A number below zero is moved to where a register points. -/
theorem assemble_display_moving
    : let i : Instruction := ⟨.mov, ⟨.immediate, .direct, -5⟩, ⟨.register, .indirect, Register.ebx.code⟩⟩
      ∃ v ∈ bundled.variants, v.Describes i
        ∧ i.display = "MOV $-5, *%ebx"
        ∧ assemble bundled .zero i.display = .ok ⟨.zero, i.encode, .empty⟩ := by
  intro i
  obtain ⟨r, hr, types, htypes, hmnemonic, hkinds⟩ : ∃ r ∈ instructions,
      ∃ types ∈ Language.combinations knownTypes r.operands r.illegalCombinations,
        operationOf r.mnemonic = .mov ∧ types.map Language.KnownType.kind = [.immediate, .register] := by
    decide +kernel
  have hv := variantOf_mem_variants hr htypes
  have hdescribes : (variantOf r types).Describes i := by
    constructor
    . exact (Language.Bundled.operation_of_mnemonic hr).2.trans (congrArg Operation.type hmnemonic)
    . exact congrArg Operation.opcode hmnemonic
    . rw [Language.Bundled.kinds_variantOf (Language.length_of_mem_combinations htypes), hkinds]
      rfl
    . rw [Language.Bundled.kinds_variantOf (Language.length_of_mem_combinations htypes), hkinds]
      rfl
    . intro o ho
      obtain rfl | rfl : o = i.first ∨ o = i.second := by simpa using ho
      . exact .inr (.immediate (-5))
      . exact .inr (.indirect .ebx)
  exact ⟨_, hv, hdescribes, by decide +kernel, assemble_display hv hdescribes .zero⟩

end Assembly

end Triword
