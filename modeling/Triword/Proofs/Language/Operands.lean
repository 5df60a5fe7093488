import Triword.Proofs.Language.Bundled
import Triword.Proofs.Regex.Groups

/-!
The variants of the bundled language and what their groups capture. The text that is captured for an
operand is one of the operand's kind, as its first characters tell.
-/

namespace Triword

namespace Language

namespace Bundled

open Regex (Node CharSet)

theorem exists_of_mem_variants {v : Variant} (hv : v ∈ bundled.variants)
    : ∃ r ∈ instructions, ∃ types ∈ combinations knownTypes r.operands r.illegalCombinations,
        v = variantOf r types := by
  rw [bundled_eq] at hv
  obtain ⟨r, hr, hv⟩ := List.mem_flatMap.mp hv
  obtain ⟨types, htypes, rfl⟩ := List.mem_map.mp hv
  exact ⟨r, hr, types, htypes, rfl⟩

theorem kinds_variantOf {r : InstructionRule} {types : List KnownType}
    (hlength : types.length = r.operands.length)
    : (variantOf r types).operands.map VariantOperand.kind = types.map KnownType.kind := by
  have hcount : types.length ≤ (r.operands.map OperandRule.name).length := by
    simp [hlength]
  have hzip : ((r.operands.map OperandRule.name).zip types).map Prod.snd = types := List.map_snd_zip hcount
  conv => rhs; rw [← hzip]
  simp only [variantOf, List.map_map, Function.comp_def]

theorem length_operands_le {v : Variant} (hv : v ∈ bundled.variants) : v.operands.length ≤ maxOperands := by
  obtain ⟨r, hr, types, htypes, rfl⟩ := exists_of_mem_variants hv
  have hcount : r.operands.length ≤ maxOperands := (holds_forms _ (formOf_mem_forms hr)).length
  rw [← length_of_mem_combinations htypes] at hcount
  rw [← List.length_map VariantOperand.kind, kinds_variantOf (length_of_mem_combinations htypes)]
  rw [List.length_map]
  exact hcount

theorem operation_of_mnemonic {r : InstructionRule} (hr : r ∈ instructions)
    : Operation.ofMnemonic? r.mnemonic = some (operationOf r.mnemonic) ∧ r.type = (operationOf r.mnemonic).type :=
  (holds_instructions r hr).2.2

theorem bodies_operandNode (n : Nat) (kind : OperandKind) : (operandNode kind).bodies n = [] := by
  cases kind <;> rfl

theorem bodies_lineNode (n : Nat) (mnemonic : String) (kinds : List OperandKind)
    : (lineNode mnemonic kinds).bodies n = Node.bodiesAll n (operandNodes kinds) := by
  have hletters : Node.bodiesAll n (mnemonic.toList.map anyCase) = [] := by
    induction mnemonic.toList with
    | nil => rfl
    | cons c cs ih => exact ih
  show Node.bodiesAll n (mnemonic.toList.map anyCase ++ operandNodes kinds ++ [.look .textEnd]) = _
  rw [Node.bodiesAll_append, Node.bodiesAll_append, hletters]
  exact List.append_nil _

theorem exists_lookup {names : List String} {kinds : List OperandKind} (hnodup : names.Nodup)
    (hcount : names.length ≤ maxOperands) (hlength : kinds.length = names.length) {name : String}
    {kind : OperandKind} (h : (name, kind) ∈ names.zip kinds)
    : ∃ n, (groupNames names).lookup name = some n
        ∧ Node.bodiesAll n (operandNodes kinds) = [operandNode kind] := by
  have hcount : names.length ≤ 2 := hcount
  cases names with
  | nil => cases h
  | cons a names =>
    cases kinds with
    | nil => cases h
    | cons k kinds =>
      cases names with
      | nil =>
        obtain rfl : kinds = [] := by simpa using hlength
        obtain ⟨rfl, rfl⟩ : name = a ∧ kind = k := by simpa using h
        refine ⟨1, by simp [groupNames], ?_⟩
        simp [operandNodes, Node.bodiesAll, Node.bodies, blanks, bodies_operandNode]
      | cons b names =>
        obtain rfl : names = [] := by simpa using hcount
        cases kinds with
        | nil => simp at hlength
        | cons l kinds =>
          obtain rfl : kinds = [] := by simpa using hlength
          have hab : (a == b) = false := by simpa using hnodup
          obtain ⟨rfl, rfl⟩ | ⟨rfl, rfl⟩ : name = a ∧ kind = k ∨ name = b ∧ kind = l := by simpa using h
          . refine ⟨1, by simp [groupNames, List.lookup_cons, hab], ?_⟩
            simp [operandNodes, Node.bodiesAll, Node.bodies, blanks, bodies_operandNode]
          . refine ⟨2, by simp [groupNames], ?_⟩
            simp [operandNodes, Node.bodiesAll, Node.bodies, blanks, bodies_operandNode]

/-- What is captured for an operand of a variant is written as operands of its kind are. -/
theorem matches_of_named? {v : Variant} (hv : v ∈ bundled.variants) {o : VariantOperand} (ho : o ∈ v.operands)
    {line : String} {c : Regex.Expression.Captures} (hc : v.regex.captures? line = some c) {text : String}
    (htext : c.named? o.name = some text) : (operandNode o.kind).Matches text.toList := by
  obtain ⟨r, hr, types, htypes, rfl⟩ := exists_of_mem_variants hv
  have hform : Form.Holds (r.operands, r.illegalCombinations) := holds_forms _ (formOf_mem_forms hr)
  have hlength := length_of_mem_combinations htypes
  obtain ⟨x, hx, rfl⟩ := List.mem_map.mp ho
  have hmem : (x.1, x.2.kind) ∈ (r.operands.map OperandRule.name).zip (types.map KnownType.kind) := by
    rw [List.zip_map_right]
    exact List.mem_map_of_mem hx
  have hcount : (r.operands.map OperandRule.name).length ≤ maxOperands := by
    rw [List.length_map]
    exact hform.length
  obtain ⟨n, hlookup, hbodies⟩ := exists_lookup hform.nodup hcount (by simp [hlength]) hmem
  have hnames : c.names = groupNames (r.operands.map OperandRule.name) :=
    (Regex.Expression.exists_passes hc).2.1
  have hall : (lineNode r.mnemonic (types.map KnownType.kind)).bodies n = [operandNode x.2.kind] :=
    (bodies_lineNode _ _ _).trans hbodies
  have hflat : Node.IsFlat n ((variantOf r types).regex.node.bodies n) := by
    show Node.IsFlat n ((lineNode r.mnemonic (types.map KnownType.kind)).bodies n)
    rw [hall]
    exact List.forall_mem_singleton.mpr (bodies_operandNode n _)
  have hnumbered : c.numbered? n = some text := by
    unfold Regex.Expression.Captures.named? at htext
    dsimp only at htext
    rw [hnames, hlookup] at htext
    exact htext
  obtain ⟨b, hb, hmatches⟩ := Regex.Expression.exists_matches_of_numbered? hflat hc hnumbered
  replace hb : b ∈ (lineNode r.mnemonic (types.map KnownType.kind)).bodies n := hb
  rw [hall, List.mem_singleton] at hb
  rw [← hb]
  exact hmatches

end Bundled

end Language

end Triword
