import Triword.Proofs.Language.Expressions
import Triword.Proofs.Language.Variants

/-!
The bundled language as it is made from its definition: all expressions can be read and none takes too
much room, so every instruction has its variants, whose expressions are given here.
-/

namespace Triword

namespace Language

namespace Bundled

open Regex (Node CharSet)

/-! ### Variants -/

def operationOf (mnemonic : String) : Operation :=
  (Operation.ofMnemonic? mnemonic).getD .nop

def variantOf (r : InstructionRule) (types : List KnownType) : Variant where
  mnemonic := r.mnemonic
  type := r.type
  opcode := (operationOf r.mnemonic).opcode
  operands := ((r.operands.map OperandRule.name).zip types).map fun o => ⟨o.1, o.2.kind⟩
  regex := {
    source := whole (fillTemplate r.regex ((r.operands.map OperandRule.name).zip types))
    node := lineNode r.mnemonic (types.map KnownType.kind)
    names := groupNames (r.operands.map OperandRule.name) }

def variantsOf (r : InstructionRule) : List Variant :=
  (combinations knownTypes r.operands r.illegalCombinations).map (variantOf r)

/-! ### Forms of instructions -/

/-- What an instruction has in common with others that differ in the mnemonic only. -/
abbrev Form := List OperandRule × List (List String)

def formOf (r : InstructionRule) : Form :=
  (r.operands, r.illegalCombinations)

def forms : List Form :=
  (instructions.map formOf).eraseDups

def mnemonicsOf (f : Form) : List String :=
  (instructions.filter fun r => formOf r == f).map InstructionRule.mnemonic

/-- A fact about all instructions is one about the mnemonics of each form. -/
theorem forall_instructions {P : Form → String → Prop}
    (h : ∀ f ∈ forms, ∀ mnemonic ∈ mnemonicsOf f, P f mnemonic) {r : InstructionRule}
    (hr : r ∈ instructions) : P (formOf r) r.mnemonic := by
  apply h
  . exact List.mem_eraseDups.mpr (List.mem_map_of_mem hr)
  . exact List.mem_map_of_mem (List.mem_filter.mpr ⟨hr, beq_self_eq_true _⟩)

/-! ### Templates -/

theorem toList_template (mnemonic : String) (operands : List OperandRule)
    : (template mnemonic operands).toList = mnemonic.toList ++ (template "" operands).toList := by
  unfold template
  cases operands <;> simp

theorem regex_eq_template : ∀ r ∈ instructions, r.regex = template r.mnemonic r.operands := by
  unfold instructions
  repeat refine List.forall_mem_cons.mpr ⟨rfl, ?_⟩
  exact List.forall_mem_nil _

/-- The placeholder of the second operand does not come about by filling that of the first one. -/
def fillable : List (String × KnownType) → Bool
  | o :: p :: _ =>
    !(placeholder p.1).toList.contains '*'
      && !Text.occursIn (placeholder o.1).toList (placeholder p.1).toList
      && !Text.occursIn (placeholder p.1).toList ('\\' :: 's' :: '+' :: groupChars o ['\\', 's', '*', ',', '\\', 's'])
  | _ => true

theorem toList_group (o : String × KnownType) (rest : List Char)
    : s!"(?P<{o.1}>{o.2.regex})".toList ++ rest = groupChars o rest := by
  simp [groupChars, toString]

theorem filledChars_one (o : OperandRule) (t : KnownType) (rest : List Char)
    : filledChars (template "" [o]).toList [(o.name, t)] ++ rest = operandChars rest [(o.name, t)] := by
  obtain ⟨needle, hneedle⟩ := exists_toList_placeholder o.name
  have htemplate : template "" [o] = "" ++ "\\s+" ++ placeholder o.name := rfl
  have hchars : (template "" [o]).toList = ['\\', 's', '+'] ++ (placeholder o.name).toList := by
    simp [htemplate]
  show Text.replaceFrom (placeholder o.name).toList s!"(?P<{o.name}>{t.regex})".toList 0 _ ++ rest = _
  rw [hchars, hneedle, Text.replaceFrom_append (by decide), Text.replaceFrom_needle_self, List.append_assoc,
    toList_group (o.name, t)]
  rfl

theorem filledChars_two {o p : OperandRule} {t u : KnownType} (h : fillable [(o.name, t), (p.name, u)])
    (rest : List Char)
    : filledChars (template "" [o, p]).toList [(o.name, t), (p.name, u)] ++ rest
        =
      operandChars rest [(o.name, t), (p.name, u)] := by
  obtain ⟨first, hfirst⟩ := exists_toList_placeholder o.name
  obtain ⟨second, hsecond⟩ := exists_toList_placeholder p.name
  let before := '\\' :: 's' :: '+' :: groupChars (o.name, t) ['\\', 's', '*', ',', '\\', 's']
  obtain ⟨⟨hstar, hother⟩, hbefore⟩ : ('*' ∉ (placeholder p.name).toList
      ∧ Text.occursIn (placeholder o.name).toList (placeholder p.name).toList = false)
      ∧ Text.occursIn (placeholder p.name).toList before = false := by
    simpa [fillable] using h
  have htemplate : template "" [o, p]
      = "" ++ "\\s+" ++ (placeholder o.name ++ "\\s*,\\s*" ++ placeholder p.name) := rfl
  have hchars : (template "" [o, p]).toList
      = ['\\', 's', '+'] ++ ((placeholder o.name).toList
        ++ (['\\', 's', '*', ',', '\\', 's', '*'] ++ (placeholder p.name).toList)) := by
    simp [htemplate]
  have hfilled : Text.replaceFrom (placeholder o.name).toList s!"(?P<{o.name}>{t.regex})".toList 0
      (template "" [o, p]).toList = before ++ '*' :: (placeholder p.name).toList := by
    rw [hfirst] at hother
    rw [hchars, hfirst, Text.replaceFrom_append (by decide), Text.replaceFrom_needle,
      Text.replaceFrom_append (by decide), Text.replaceFrom_eq_self hother, toList_group (o.name, t)]
    simp [before, groupChars]
  have hboth : filledChars (template "" [o, p]).toList [(o.name, t), (p.name, u)]
      = before ++ '*' :: s!"(?P<{p.name}>{u.regex})".toList := by
    show Text.replaceFrom (placeholder p.name).toList _ 0 (Text.replaceFrom (placeholder o.name).toList _ 0 _) = _
    rw [hfilled, Text.replaceFrom_append_cons hbefore hstar, hsecond, Text.replaceFrom_needle_self]
  rw [hboth]
  simp [before, operandChars, groupChars, toString]

theorem filledChars_template {operands : List OperandRule} {types : List KnownType}
    (hcount : operands.length ≤ maxOperands) (hlength : types.length = operands.length)
    (h : fillable ((operands.map OperandRule.name).zip types)) (rest : List Char)
    : filledChars (template "" operands).toList ((operands.map OperandRule.name).zip types) ++ rest
        =
      operandChars rest ((operands.map OperandRule.name).zip types) := by
  match operands, types with
  | [], [] => rfl
  | [o], [t] => exact filledChars_one o t rest
  | [o, p], [t, u] => exact filledChars_two h rest
  | _ :: _ :: _ :: _, _ => simp [maxOperands] at hcount

/-! ### Reading the definition -/

structure Form.Holds (f : Form) : Prop where
  length : f.1.length ≤ maxOperands
  nodup : (f.1.map OperandRule.name).Nodup
  operands : ∀ o ∈ f.1, isIdentifier o.name ∧ Regex.Reader.canName o.name.toList
    ∧ Text.occursIn (placeholder o.name).toList (template "" f.1).toList
    ∧ ∀ name ∈ o.allowedTypes, IsKnown knownTypes name
  illegal : ∀ names ∈ f.2, ∀ name ∈ names, IsKnown knownTypes name
  fillable : ∀ types ∈ combinations knownTypes f.1 f.2, fillable ((f.1.map OperandRule.name).zip types)

instance (f : Form) : Decidable f.Holds :=
  decidable_of_iff (_ ∧ _ ∧ _ ∧ _ ∧ _)
    ⟨fun ⟨length, nodup, operands, illegal, fillable⟩ => ⟨length, nodup, operands, illegal, fillable⟩,
      fun ⟨length, nodup, operands, illegal, fillable⟩ => ⟨length, nodup, operands, illegal, fillable⟩⟩

theorem holds_forms : ∀ f ∈ forms, f.Holds := by
  decide +kernel

theorem holds_instructions : ∀ r ∈ instructions,
    (r.mnemonic.toList.all letters.contains ∧ 2 ≤ r.mnemonic.toList.length)
      ∧ (Bits.ofDigits 7 r.opcode).toOption = some (operationOf r.mnemonic).opcode
      ∧ Operation.ofMnemonic? r.mnemonic = some (operationOf r.mnemonic)
      ∧ r.type = (operationOf r.mnemonic).type := by
  decide +kernel

theorem holds_types : ∀ x ∈ operandTypes.zip knownTypes,
    (Bits.ofDigits 7 x.1.code).toOption.bind OperandKind.ofCode? = some x.2.kind
      ∧ (operandNode x.2.kind).cost + 216 ≤ Regex.Room.limit := by
  decide +kernel

theorem holds_formats : ∀ x ∈ [comment, declaration, usage],
    Regex.reads .standard x.source.toList false x.node x.names ∧ x.node.cost + 216 ≤ Regex.Room.limit := by
  decide +kernel

theorem cost_variants : ∀ f ∈ forms, ∀ mnemonic ∈ mnemonicsOf f, ∀ types ∈ combinations knownTypes f.1 f.2,
    (lineNode mnemonic (types.map KnownType.kind)).cost + 216 ≤ Regex.Room.limit := by
  decide +kernel

variable {props : Regex.Properties}

section

variable {r : InstructionRule} {types : List KnownType}

theorem formOf_mem_forms (hr : r ∈ instructions) : formOf r ∈ forms :=
  List.mem_eraseDups.mpr (List.mem_map_of_mem hr)

theorem letters_mnemonic (hr : r ∈ instructions) : ∀ c ∈ r.mnemonic.toList, c ∈ letters := by
  simpa using (holds_instructions r hr).1.1

theorem readable_operands (hr : r ∈ instructions)
    (htypes : types ∈ combinations knownTypes r.operands r.illegalCombinations)
    : Readable ((r.operands.map OperandRule.name).zip types) := by
  have hform := holds_forms _ (formOf_mem_forms hr)
  have hlength : (r.operands.map OperandRule.name).length ≤ types.length := by
    rw [length_of_mem_combinations htypes, List.length_map]
  constructor
  . rw [List.length_zip, List.length_map]
    exact Nat.le_trans (Nat.min_le_left ..) hform.length
  . intro o ho
    obtain ⟨rule, hrule, heq⟩ := List.mem_map.mp (List.of_mem_zip ho).1
    rw [← heq]
    exact (hform.operands rule hrule).2.1
  . rw [List.map_fst_zip hlength]
    exact hform.nodup
  . intro o ho
    exact mem_of_mem_combinations htypes o.2 (List.of_mem_zip ho).2

theorem toList_pattern (hr : r ∈ instructions)
    (htypes : types ∈ combinations knownTypes r.operands r.illegalCombinations)
    : (whole (fillTemplate r.regex ((r.operands.map OperandRule.name).zip types))).toList
        =
      lineChars r.mnemonic ((r.operands.map OperandRule.name).zip types) := by
  have hform := holds_forms _ (formOf_mem_forms hr)
  have hmnemonic : '_' ∉ r.mnemonic.toList := fun h => absurd (letters_mnemonic hr _ h) (by decide)
  have hfilled : filledChars (template "" r.operands).toList ((r.operands.map OperandRule.name).zip types)
      ++ [')', '$'] = operandChars [')', '$'] ((r.operands.map OperandRule.name).zip types) :=
    filledChars_template hform.length (length_of_mem_combinations htypes) (hform.fillable types htypes) _
  rw [toList_whole, toList_fillTemplate, regex_eq_template r hr, toList_template, filledChars_append hmnemonic]
  unfold lineChars
  rw [← hfilled]
  simp

theorem read?_pattern (hr : r ∈ instructions)
    (htypes : types ∈ combinations knownTypes r.operands r.illegalCombinations)
    : Regex.read? props (whole (fillTemplate r.regex ((r.operands.map OperandRule.name).zip types))).toList true
        =
      some (lineNode r.mnemonic (types.map KnownType.kind), groupNames (r.operands.map OperandRule.name)) := by
  have hlength := length_of_mem_combinations htypes
  have htwo := (holds_instructions r hr).1.2
  have hkinds : ((r.operands.map OperandRule.name).zip types).map (·.2.kind) = types.map KnownType.kind := by
    have hzip : ((r.operands.map OperandRule.name).zip types).map Prod.snd = types :=
      List.map_snd_zip (by simp [hlength])
    conv => rhs; rw [← hzip]
    rw [List.map_map]
    rfl
  have hnames : ((r.operands.map OperandRule.name).zip types).map Prod.fst = r.operands.map OperandRule.name :=
    List.map_fst_zip (by simp [hlength])
  rw [toList_pattern hr htypes, reads_line (letters_mnemonic hr) htwo (readable_operands hr htypes), hkinds, hnames]

end

theorem ofDigits_opcode {r : InstructionRule} (hr : r ∈ instructions)
    : Bits.ofDigits 7 r.opcode = .ok (operationOf r.mnemonic).opcode := by
  have hopcode := (holds_instructions r hr).2.1
  cases h : Bits.ofDigits 7 r.opcode with
  | error e =>
    rw [h] at hopcode
    cases hopcode
  | ok opcode =>
    rw [h] at hopcode
    cases hopcode
    rfl

theorem knownType_eq {t : OperandType} {kind : OperandKind}
    (h : (t, knownType t kind) ∈ operandTypes.zip knownTypes)
    : Language.knownType props t = .ok (knownType t kind) := by
  obtain ⟨hcode, hcost⟩ := holds_types _ h
  have hread : readRegex props (knownType t kind).regex true = _ :=
    readRegex_of_read? (read?_knownType (List.of_mem_zip h).2) hcost
  unfold Language.knownType
  dsimp only at hcode
  rw [hcode]
  show (do
    discard (readRegex props (knownType t kind).regex true)
    return knownType t kind : Except DefinitionError KnownType) = _
  rw [hread]
  rfl

theorem mapM_knownType : operandTypes.mapM (Language.knownType props) = .ok knownTypes := by
  have himmediate : Language.knownType props immediate = .ok (knownType immediate .immediate) :=
    knownType_eq (by simp [operandTypes, knownTypes])
  have hregister : Language.knownType props register = .ok (knownType register .register) :=
    knownType_eq (by simp [operandTypes, knownTypes])
  have hmemory : Language.knownType props memory = .ok (knownType memory .memory) :=
    knownType_eq (by simp [operandTypes, knownTypes])
  have hlabel : Language.knownType props label = .ok (knownType label .label) :=
    knownType_eq (by simp [operandTypes, knownTypes])
  unfold operandTypes
  rw [List.mapM_cons, himmediate, List.mapM_cons, hregister, List.mapM_cons, hmemory, List.mapM_cons, hlabel]
  rfl

theorem occursIn_append {needle cs : List Char} (h : Text.occursIn needle cs) (before : List Char)
    : Text.occursIn needle (before ++ cs) := by
  induction before with
  | nil => exact h
  | cons c before ih =>
    rw [List.cons_append, Text.occursIn, ih, Bool.or_true]

theorem instructionVariants_eq {r : InstructionRule} (hr : r ∈ instructions)
    : instructionVariants props knownTypes r = .ok (variantsOf r) := by
  have hform := holds_forms _ (formOf_mem_forms hr)
  have hoperands : ∀ o ∈ r.operands, o.Holds knownTypes r.regex.toList := by
    intro o ho
    obtain ⟨hname, -, hplaceholder, htypes⟩ := hform.operands o ho
    refine ⟨hname, ?_, htypes⟩
    rw [regex_eq_template r hr, toList_template]
    exact occursIn_append hplaceholder _
  rw [Language.instructionVariants_eq (ofDigits_opcode hr) hform.length hoperands hform.illegal]
  apply Outcome.mapM_eq_ok_map
  intro types htypes
  apply variant_eq
  . exact read?_pattern hr htypes
  . exact forall_instructions cost_variants hr types htypes

theorem readRegex_format {x : Regex.Expression} (hx : x ∈ [comment, declaration, usage])
    : readRegex .standard x.source false = .ok { source := x.source, node := x.node, names := x.names } := by
  obtain ⟨hreads, hcost⟩ := holds_formats x hx
  exact readRegex_of_read? (Regex.read?_of_reads hreads) hcost

theorem ofDefinition_of_variants {rules : List InstructionRule} {variants : List (List Variant)}
    (h : rules.mapM (instructionVariants .standard knownTypes) = .ok variants)
    : ofDefinition .standard { definition with instructions := rules }
        =
      .ok ⟨comment, declaration, usage, variants.flatten⟩ := by
  apply Language.ofDefinition_eq
  . exact readRegex_format (x := comment) (by simp)
  . exact readRegex_format (x := declaration) (by simp)
  . exact readRegex_format (x := usage) (by simp)
  . exact mapM_knownType
  . exact h

/-- Any of the instructions make a language without the others. -/
theorem ofDefinition_of_subset {rules : List InstructionRule} (h : ∀ r ∈ rules, r ∈ instructions)
    : ofDefinition .standard { definition with instructions := rules }
        =
      .ok ⟨comment, declaration, usage, (rules.map variantsOf).flatten⟩ := by
  exact ofDefinition_of_variants (Outcome.mapM_eq_ok_map fun r hr => instructionVariants_eq (h r hr))

theorem ofDefinition_eq : ofDefinition .standard definition
    = .ok ⟨comment, declaration, usage, (instructions.map variantsOf).flatten⟩ := by
  exact ofDefinition_of_subset fun _ hr => hr

end Bundled

theorem bundled_eq
    : bundled
        =
      ⟨Bundled.comment, Bundled.declaration, Bundled.usage, Bundled.instructions.flatMap Bundled.variantsOf⟩ := by
  unfold bundled
  rw [Bundled.ofDefinition_eq, List.flatMap_def]
  rfl

end Language

end Triword
