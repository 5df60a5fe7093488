import Triword.Language.Basic
import Triword.Proofs.Action
import Triword.Proofs.Regex.Renumber
import Triword.Proofs.Regex.Room
import Triword.Proofs.Text.Occurrence

/-!
How variants are made from the definition of an instruction. The expression of a variant is read from
characters that the template and the types of the operands give.
-/

namespace Triword

/-! ### Reading expressions -/

namespace Regex

def reads (props : Properties) (source : List Char) (ignoreCase : Bool) (node : Node) (names : List (String × Nat)) :
    Bool :=
  (read? props source ignoreCase).any fun found => found.1.same node && found.2 == names

theorem read?_of_reads {props : Properties} {source : List Char} {ignoreCase : Bool} {node : Node}
    {names : List (String × Nat)} (h : reads props source ignoreCase node names)
    : read? props source ignoreCase = some (node, names) := by
  unfold reads at h
  cases hread : read? props source ignoreCase with
  | none =>
    rw [hread] at h
    cases h
  | some found =>
    rw [hread, Option.any_some, Bool.and_eq_true, beq_iff_eq] at h
    rw [← Node.eq_of_same h.1, ← h.2]

end Regex

namespace Language

variable {props : Regex.Properties}

theorem readRegex_of_read? {source : String} {ignoreCase : Bool} {node : Regex.Node}
    {names : List (String × Nat)} (h : Regex.read? props source.toList ignoreCase = some (node, names))
    (hcost : node.cost + 216 ≤ Regex.Room.limit)
    : readRegex props source ignoreCase = .ok { source, node, names } := by
  have hread : Regex.Expression.read? props source ignoreCase = some { source, node, names } := by
    unfold Regex.Expression.read?
    rw [h]
    exact if_pos (Regex.Node.fits_of_cost_le hcost)
  unfold readRegex
  rw [hread]

/-! ### Templates -/

def filledChars (template : List Char) (operands : List (String × KnownType)) : List Char :=
  operands.foldl (fun pattern o =>
    Text.replaceFrom (placeholder o.1).toList s!"(?P<{o.1}>{o.2.regex})".toList 0 pattern) template

theorem toList_fillTemplate (template : String) (operands : List (String × KnownType))
    : (fillTemplate template operands).toList = filledChars template.toList operands := by
  unfold fillTemplate filledChars
  induction operands generalizing template with
  | nil => rfl
  | cons o operands ih =>
    rw [List.foldl_cons, List.foldl_cons, ih]
    unfold Text.replaceAll
    rw [String.toList_ofList]

theorem exists_toList_placeholder (name : String) : ∃ cs, (placeholder name).toList = '_' :: cs := by
  unfold placeholder
  refine ⟨'_' :: (name.toUpper.toList ++ ['_', '_']), ?_⟩
  simp [toString]

/-- What a placeholder begins with does not occur before it, so that much of the template stays. -/
theorem filledChars_append {before : List Char} (hbefore : '_' ∉ before) (template : List Char)
    (operands : List (String × KnownType))
    : filledChars (before ++ template) operands = before ++ filledChars template operands := by
  unfold filledChars
  induction operands generalizing template with
  | nil => rfl
  | cons o operands ih =>
    obtain ⟨needle, hneedle⟩ := exists_toList_placeholder o.1
    rw [List.foldl_cons, List.foldl_cons, hneedle, Text.replaceFrom_append hbefore, ih]

theorem toList_whole (pattern : String)
    : (whole pattern).toList = "^(?:".toList ++ pattern.toList ++ ")$".toList := by
  unfold whole
  simp [toString]

/-! ### Types of operands -/

def IsKnown (types : List KnownType) (name : String) : Prop :=
  (types.find? fun t => t.name == name).isSome

instance (types : List KnownType) (name : String) : Decidable (IsKnown types name) :=
  inferInstanceAs (Decidable (_ = true))

def typesNamed (types : List KnownType) (names : List String) : List KnownType :=
  names.filterMap fun name => types.find? fun t => t.name == name

theorem mapM_typeNamed {types : List KnownType} {names : List String} (mnemonic : String)
    (h : ∀ name ∈ names, IsKnown types name)
    : names.mapM (typeNamed types mnemonic) = .ok (typesNamed types names)
        ∧ (typesNamed types names).map KnownType.name = names := by
  induction names with
  | nil => exact ⟨rfl, rfl⟩
  | cons name names ih =>
    obtain ⟨hname, hnames⟩ := List.forall_mem_cons.mp h
    obtain ⟨t, ht⟩ := Option.isSome_iff_exists.mp hname
    obtain ⟨ih, ihnames⟩ := ih hnames
    have htype : typeNamed types mnemonic name = .ok t := by
      unfold typeNamed
      rw [ht]
    have hcons : typesNamed types (name :: names) = t :: typesNamed types names := by
      unfold typesNamed
      rw [List.filterMap_cons, ht]
    have hbeq := List.find?_some ht
    have hteq : t.name = name := beq_iff_eq.mp hbeq
    rw [List.mapM_cons, htype, ih, hcons, List.map_cons, ihnames, hteq]
    exact ⟨rfl, rfl⟩

structure OperandRule.Holds (o : OperandRule) (types : List KnownType) (template : List Char) : Prop where
  name : isIdentifier o.name
  placeholder : Text.occursIn (placeholder o.name).toList template
  types : ∀ name ∈ o.allowedTypes, IsKnown types name

theorem allowedTypes_eq {types : List KnownType} {r : InstructionRule} {o : OperandRule}
    (h : o.Holds types r.regex.toList) : allowedTypes types r o = .ok (typesNamed types o.allowedTypes) := by
  unfold allowedTypes
  rw [(mapM_typeNamed r.mnemonic h.types).1, h.name, h.placeholder]
  rfl

/-! ### Variants -/

def combinations (types : List KnownType) (operands : List OperandRule) (illegal : List (List String))
    : List (List KnownType) :=
  (choices (operands.map fun o => typesNamed types o.allowedTypes)).filter fun combination =>
    !illegal.contains (combination.map KnownType.name)

theorem mem_of_mem_typesNamed {types : List KnownType} {names : List String} {t : KnownType}
    (h : t ∈ typesNamed types names) : t ∈ types := by
  obtain ⟨name, -, hname⟩ := List.mem_filterMap.mp h
  exact List.mem_of_find?_eq_some hname

theorem length_of_mem_choices {α : Type} {lists : List (List α)} {choice : List α}
    (h : choice ∈ choices lists) : choice.length = lists.length := by
  induction lists generalizing choice with
  | nil =>
    rw [List.mem_singleton.mp h]
    rfl
  | cons xs rest ih =>
    obtain ⟨x, -, h⟩ := List.mem_flatMap.mp h
    obtain ⟨tail, htail, rfl⟩ := List.mem_map.mp h
    rw [List.length_cons, List.length_cons, ih htail]

theorem exists_mem_of_mem_choices {α : Type} {lists : List (List α)} {choice : List α}
    (h : choice ∈ choices lists) : ∀ x ∈ choice, ∃ xs ∈ lists, x ∈ xs := by
  induction lists generalizing choice with
  | nil =>
    rw [List.mem_singleton.mp h]
    nofun
  | cons xs rest ih =>
    obtain ⟨x, hx, h⟩ := List.mem_flatMap.mp h
    obtain ⟨tail, htail, rfl⟩ := List.mem_map.mp h
    refine List.forall_mem_cons.mpr ⟨⟨xs, List.mem_cons_self, hx⟩, fun y hy => ?_⟩
    obtain ⟨ys, hys, hy⟩ := ih htail y hy
    exact ⟨ys, List.mem_cons_of_mem xs hys, hy⟩

theorem length_of_mem_combinations {types chosen : List KnownType} {operands : List OperandRule}
    {illegal : List (List String)} (h : chosen ∈ combinations types operands illegal)
    : chosen.length = operands.length := by
  rw [length_of_mem_choices ((List.mem_filter.mp h).1), List.length_map]

theorem mem_of_mem_combinations {types chosen : List KnownType} {operands : List OperandRule}
    {illegal : List (List String)} (h : chosen ∈ combinations types operands illegal) : ∀ t ∈ chosen, t ∈ types := by
  intro t ht
  obtain ⟨ts, hts, ht⟩ := exists_mem_of_mem_choices (List.mem_filter.mp h).1 t ht
  obtain ⟨o, -, rfl⟩ := List.mem_map.mp hts
  exact mem_of_mem_typesNamed ht

theorem instructionVariants_eq {types : List KnownType} {r : InstructionRule} {opcode : BitVec 7}
    (hopcode : Bits.ofDigits 7 r.opcode = .ok opcode) (hlength : r.operands.length ≤ maxOperands)
    (hoperands : ∀ o ∈ r.operands, o.Holds types r.regex.toList)
    (hillegal : ∀ names ∈ r.illegalCombinations, ∀ name ∈ names, IsKnown types name)
    : instructionVariants props types r
        =
      (combinations types r.operands r.illegalCombinations).mapM (variant props r opcode) := by
  have hcount : ¬r.operands.length > maxOperands := Nat.not_lt.mpr hlength
  have hallowed : r.operands.mapM (allowedTypes types r)
      = .ok (r.operands.map fun o => typesNamed types o.allowedTypes) :=
    Outcome.mapM_eq_ok_map fun o ho => allowedTypes_eq (hoperands o ho)
  have hnames : r.illegalCombinations.mapM (·.mapM (typeNamed types r.mnemonic))
      = .ok (r.illegalCombinations.map (typesNamed types)) :=
    Outcome.mapM_eq_ok_map fun names h => (mapM_typeNamed r.mnemonic (hillegal names h)).1
  have hback : (r.illegalCombinations.map (typesNamed types)).map (·.map KnownType.name)
      = r.illegalCombinations := by
    rw [List.map_map]
    exact (List.map_congr_left fun names h => (mapM_typeNamed r.mnemonic (hillegal names h)).2).trans
      (List.map_id _)
  unfold instructionVariants combinations
  rw [hopcode, hallowed, hnames]
  conv => rhs; rw [← hback]
  exact if_neg hcount

theorem variant_eq {r : InstructionRule} {opcode : BitVec 7} {types : List KnownType} {node : Regex.Node}
    {names : List (String × Nat)}
    (hread : Regex.read? props (whole (fillTemplate r.regex ((r.operands.map OperandRule.name).zip types))).toList true
      = some (node, names))
    (hcost : node.cost + 216 ≤ Regex.Room.limit)
    : variant props r opcode types = .ok {
        mnemonic := r.mnemonic
        type := r.type
        opcode := opcode
        operands := ((r.operands.map OperandRule.name).zip types).map fun o => ⟨o.1, o.2.kind⟩
        regex := {
          source := whole (fillTemplate r.regex ((r.operands.map OperandRule.name).zip types))
          node := node
          names := names } } := by
  unfold variant
  dsimp only
  rw [readRegex_of_read? hread hcost]
  rfl

/-! ### Languages -/

theorem ofDefinition_eq {d : Definition} {comment declaration usage : Regex.Expression}
    {types : List KnownType} {variants : List (List Variant)}
    (hcomment : readRegex props d.commentFormat false = .ok comment)
    (hdeclaration : readRegex props d.labelFormats.declaration false = .ok declaration)
    (husage : readRegex props (whole d.labelFormats.usage) false = .ok usage)
    (htypes : d.operandTypes.mapM (knownType props) = .ok types)
    (hvariants : d.instructions.mapM (instructionVariants props types) = .ok variants)
    : ofDefinition props d = .ok ⟨comment, declaration, usage, variants.flatten⟩ := by
  unfold ofDefinition
  rw [hcomment, hdeclaration, husage, htypes]
  show (do
    let variants ← d.instructions.mapM (instructionVariants props types)
    return ⟨comment, declaration, usage, variants.flatten⟩ : Except DefinitionError Language) = _
  rw [hvariants]
  rfl

/-! ### How many operands there are -/

theorem length_operands_of_variant {r : InstructionRule} {opcode : BitVec 7} {types : List KnownType}
    {v : Variant} (h : variant props r opcode types = .ok v) : v.operands.length ≤ r.operands.length := by
  obtain ⟨regex, -, h⟩ := Outcome.bind_eq_ok_iff.mp h
  cases h
  rw [List.length_map, List.length_zip, List.length_map]
  exact Nat.min_le_left ..

theorem length_operands_of_instructionVariants {types : List KnownType} {r : InstructionRule}
    {variants : List Variant} (h : instructionVariants props types r = .ok variants)
    : ∀ v ∈ variants, v.operands.length ≤ maxOperands := by
  obtain ⟨opcode, -, h⟩ := Outcome.bind_eq_ok_iff.mp h
  split at h
  . cases h
  . next hcount =>
    obtain ⟨allowed, -, h⟩ := Outcome.bind_eq_ok_iff.mp h
    obtain ⟨illegal, -, h⟩ := Outcome.bind_eq_ok_iff.mp h
    intro v hv
    obtain ⟨combination, -, hvariant⟩ := Outcome.exists_of_mapM_eq_ok h v hv
    exact Nat.le_trans (length_operands_of_variant hvariant) (Nat.not_lt.mp hcount)

theorem length_operands_of_ofDefinition {d : Definition} {l : Language} (h : ofDefinition props d = .ok l)
    {v : Variant} (hv : v ∈ l.variants) : v.operands.length ≤ maxOperands := by
  obtain ⟨comment, -, h⟩ := Outcome.bind_eq_ok_iff.mp h
  obtain ⟨declaration, -, h⟩ := Outcome.bind_eq_ok_iff.mp h
  obtain ⟨usage, -, h⟩ := Outcome.bind_eq_ok_iff.mp h
  obtain ⟨types, -, h⟩ := Outcome.bind_eq_ok_iff.mp h
  obtain ⟨variants, hvariants, h⟩ := Outcome.bind_eq_ok_iff.mp h
  cases h
  obtain ⟨part, hpart, hv⟩ := List.mem_flatten.mp hv
  obtain ⟨r, -, hr⟩ := Outcome.exists_of_mapM_eq_ok hvariants part hpart
  exact length_operands_of_instructionVariants hr v hv

end Language

end Triword
