import Triword.Proofs.Alike
import Triword.Proofs.Language.Bundled
import Triword.Proofs.Language.Layout

/-!
The groups of operands. Where the placeholders in the template of an instruction stand apart, in groups and
alternatives or outside them, each operand of a variant has a group of its own, which is made from the type of the
operand. Nothing but that each placeholder occurs somewhere is seen to when a language is made, so a variant may also
be without a group for one of its operands.
-/

namespace Triword

namespace Language

variable {props : Regex.Properties}

/-! ### Choices of types -/

theorem exists_of_typeNamed {types : List KnownType} {mnemonic name : String} {t : KnownType}
    (h : typeNamed types mnemonic name = .ok t) : t ∈ types ∧ t.name = name := by
  unfold typeNamed at h
  split at h
  . next hfind =>
    cases h
    have hname := List.find?_some hfind
    exact ⟨List.mem_of_find?_eq_some hfind, eq_of_beq hname⟩
  . cases h

theorem exists_of_allowedTypes {types ts : List KnownType} {r : InstructionRule} {o : OperandRule}
    (h : allowedTypes types r o = .ok ts)
    : isIdentifier o.name ∧ ∀ t ∈ ts, t ∈ types ∧ t.name ∈ o.allowedTypes := by
  unfold allowedTypes at h
  cases hname : isIdentifier o.name with
  | false =>
    rw [hname] at h
    cases h
  | true =>
    rw [hname] at h
    replace h : (if !Text.occursIn (placeholder o.name).toList r.regex.toList then _ else _ :
      Except DefinitionError (List KnownType)) = _ := h
    split at h
    . cases h
    . refine ⟨rfl, fun t ht => ?_⟩
      obtain ⟨name, hmem, htype⟩ := Outcome.exists_of_mapM_eq_ok h t ht
      obtain ⟨ht, rfl⟩ := exists_of_typeNamed htype
      exact ⟨ht, hmem⟩

def OperandRule.Allows (props : Regex.Properties) (o : OperandRule) (d : Definition) (t : KnownType) : Prop :=
  t.name ∈ o.allowedTypes ∧ ∃ rule ∈ d.operandTypes, knownType props rule = .ok t

structure Makes (props : Regex.Properties) (d : Definition) (r : InstructionRule) (types : List KnownType)
    (v : Variant) : Prop where
  rule : r ∈ d.instructions
  allowed : List.Forall₂ (fun o t => o.Allows props d t) r.operands types
  made : ∃ opcode, variant props r opcode types = .ok v

def operandsOf (r : InstructionRule) (types : List KnownType) : List (String × KnownType) :=
  (r.operands.map OperandRule.name).zip types

/--
Each operand of a variant has a group of its own, with the number that goes with its name, and the body of this
group is what is read of the expression of its type.
-/
structure Captures (props : Regex.Properties) (v : Variant) (operands : List (String × KnownType)) : Prop where
  operands_eq : v.operands = operands.map fun o => ⟨o.1, o.2.kind⟩
  distinct : (v.operands.map VariantOperand.name).Nodup
  group : ∀ o ∈ operands, ∃ number node inner, v.regex.names.lookup o.1 = some number
    ∧ Regex.read? props o.2.regex.toList true = some (node, inner) ∧ v.regex.node.bodies number = [node.renumber number]
  apart : ∀ o ∈ operands, ∀ p ∈ operands, v.regex.names.lookup o.1 = v.regex.names.lookup p.1 → o = p

theorem lookup_of_mem {names : List (String × Nat)} {name : String} {number : Nat}
    (hdistinct : Regex.Reader.Distinct names) (h : (name, number) ∈ names) : names.lookup name = some number := by
  induction names with
  | nil => cases h
  | cons g names ih =>
    obtain ⟨hnew, hdistinct⟩ := List.nodup_cons.mp hdistinct
    obtain rfl | h := List.mem_cons.mp h
    . simp
    . have hne : (name == g.1) = false := by
        rw [beq_eq_false_iff_ne]
        exact fun heq => hnew (List.mem_map.mpr ⟨_, h, heq⟩)
      rw [List.lookup_cons, hne]
      exact ih hdistinct h

theorem read?_of_readRegex {source : String} {ignoreCase : Bool} {e : Regex.Expression}
    (h : readRegex props source ignoreCase = .ok e)
    : Regex.read? props source.toList ignoreCase = some (e.node, e.names) := by
  unfold readRegex at h
  split at h
  . next e' hread =>
    cases h
    obtain ⟨⟨node, names⟩, hread', h⟩ := Option.bind_eq_some_iff.mp hread
    replace h : (if node.fits then some _ else none) = some e := h
    split at h
    . cases h
      exact hread'
    . cases h
  . cases h

section

variable {d : Definition} {r : InstructionRule} {types : List KnownType} {v : Variant} {layout : Layout}

theorem exists_rule_of_mem_operandsOf {o : String × KnownType} (h : Makes props d r types v)
    (ho : o ∈ operandsOf r types) : ∃ rule ∈ r.operands, rule.name = o.1 ∧ rule.Allows props d o.2 := by
  unfold operandsOf at ho
  rw [List.zip_map_left] at ho
  obtain ⟨⟨rule, t⟩, hmem, rfl⟩ := List.mem_map.mp ho
  exact ⟨rule, (List.of_mem_zip hmem).1, rfl, List.forall₂_zip h.allowed hmem⟩

theorem isSome_read?_of_knownType {rule : OperandType} {t : KnownType} (h : knownType props rule = .ok t)
    : (Regex.read? props t.regex.toList true).isSome := by
  unfold knownType at h
  split at h
  . obtain ⟨⟨⟩, hread, h⟩ := Outcome.bind_eq_ok_iff.mp h
    cases h
    cases hregex : readRegex props rule.regex true with
    | error e =>
      rw [hregex] at hread
      cases hread
    | ok e =>
      rw [read?_of_readRegex hregex]
      rfl
  . cases h

theorem holds_slots (h : Makes props d r types v) (hnames : ∀ o ∈ operandsOf r types, isIdentifier o.1)
    (hfits : layout.Fits props r.regex (operandsOf r types)) : ∀ s ∈ layout.slots.places, s.Holds props := by
  intro s hs
  rw [Layout.slots, Regex.Pieces.places_map] at hs
  obtain ⟨o, ho, rfl⟩ := List.mem_map.mp hs
  have ho : o ∈ operandsOf r types := hfits.perm.subset ho
  obtain ⟨-, -, -, -, rule, -, hknown⟩ := exists_rule_of_mem_operandsOf h ho
  constructor
  . exact not_mem_of_isIdentifier (hnames o ho) (by decide)
  . exact isSome_read?_of_knownType hknown
  . exact hfits.types o ho

theorem exists_found (h : Makes props d r types v) (hnames : ∀ o ∈ operandsOf r types, isIdentifier o.1)
    (hfits : layout.Fits props r.regex (operandsOf r types))
    : v.operands = (operandsOf r types).map (fun o => ⟨o.1, o.2.kind⟩)
        ∧ ∃ numbered groups, numbered.map Prod.fst = layout.pieces.places.map operandSlot
          ∧ Regex.Reader.Found props numbered v.regex.node.bodies 0 [] groups v.regex.names := by
  obtain ⟨opcode, hvariant⟩ := h.made
  obtain ⟨regex, hread, hv⟩ := Outcome.bind_eq_ok_iff.mp hvariant
  cases hv
  replace hread : Regex.read? props (whole (fillTemplate r.regex (operandsOf r types))).toList true = _ :=
    read?_of_readRegex hread
  have hchars : (whole (fillTemplate r.regex (operandsOf r types))).toList
      = '^' :: '(' :: (Regex.Opening.unnumbered.chars
        ++ (layout.first ++ (layout.slots.chars Regex.Slot.group ++ [')', '$']))) := by
    rw [toList_whole, hfits.toList_fillTemplate hnames]
    simp [Regex.Opening.chars]
  rw [hchars] at hread
  have hpieces : layout.slots.Holds props := (Regex.Pieces.holds_map operandSlot _).mpr hfits.pieces
  obtain ⟨numbered, groups, hplaces, hfound⟩ :=
    Regex.exists_found_of_read? hfits.begins hpieces (holds_slots h hnames hfits) hread
  rw [Layout.slots, Regex.Pieces.places_map] at hplaces
  exact ⟨rfl, numbered, groups, hplaces, hfound⟩

theorem captures_of_makes (h : Makes props d r types v) (hnames : ∀ rule ∈ r.operands, isIdentifier rule.name)
    (hfits : layout.Fits props r.regex (operandsOf r types)) : Captures props v (operandsOf r types) := by
  have hidentifiers : ∀ o ∈ operandsOf r types, isIdentifier o.1 := by
    intro o ho
    obtain ⟨rule, hrule, heq, -⟩ := exists_rule_of_mem_operandsOf h ho
    rw [← heq]
    exact hnames rule hrule
  obtain ⟨hoperands, numbered, groups, hplaces, hfound⟩ := exists_found h hidentifiers hfits
  have hdistinct : Regex.Reader.Distinct v.regex.names := hfound.distinct List.nodup_nil
  -- Each operand is that of a group, which is found by its name.
  have hgroup : ∀ o ∈ operandsOf r types, ∃ number, (operandSlot o, number) ∈ numbered
      ∧ v.regex.names.lookup o.1 = some number := by
    intro o ho
    have hslot : operandSlot o ∈ numbered.map Prod.fst := by
      rw [hplaces]
      exact List.mem_map_of_mem (hfits.perm.symm.subset ho)
    obtain ⟨⟨slot, number⟩, hmem, rfl⟩ := List.mem_map.mp hslot
    exact ⟨number, hmem, lookup_of_mem hdistinct (hfound.own _ hmem).2.2.1⟩
  constructor
  . exact hoperands
  . rw [hoperands, List.map_map]
    exact hfits.nodup_operands
  . intro o ho
    obtain ⟨number, hmem, hlookup⟩ := hgroup o ho
    obtain ⟨-, -, -, node, inner, hbody, hbodies⟩ := hfound.own _ hmem
    exact ⟨number, node, inner, hlookup, hbody, hbodies⟩
  . intro o ho p hp heq
    obtain ⟨number, hmem, hlookup⟩ := hgroup o ho
    obtain ⟨number', hmem', hlookup'⟩ := hgroup p hp
    obtain rfl : number = number' := Option.some.inj (hlookup.symm.trans (heq.trans hlookup'))
    have hnumbers : (numbered.map Prod.snd).Nodup := hfound.increasing.imp Nat.ne_of_lt
    have hsame := List.inj_on_of_nodup_map hnumbers hmem hmem' rfl
    have hname : o.1 = p.1 := congrArg (·.1.name) hsame
    exact List.inj_on_of_nodup_map hfits.nodup_operands ho hp hname

end

theorem forall₂_of_mem_choices {α β : Type} {R : α → β → Prop} {l : List α} {lists : List (List β)} {choice : List β}
    (h : List.Forall₂ (fun a xs => ∀ x ∈ xs, R a x) l lists) (hchoice : choice ∈ choices lists)
    : List.Forall₂ R l choice := by
  induction h generalizing choice with
  | nil =>
    rw [List.mem_singleton.mp hchoice]
    exact .nil
  | cons hxs _ ih =>
    obtain ⟨x, hx, hrest⟩ := List.mem_flatMap.mp hchoice
    obtain ⟨tail, htail, rfl⟩ := List.mem_map.mp hrest
    exact .cons (hxs x hx) (ih htail)

theorem exists_of_instructionVariants {types : List KnownType} {r : InstructionRule} {variants : List Variant}
    (h : instructionVariants props types r = .ok variants)
    : (∀ rule ∈ r.operands, isIdentifier rule.name)
        ∧ ∀ v ∈ variants, ∃ opcode chosen, variant props r opcode chosen = .ok v
          ∧ List.Forall₂ (fun rule t => t ∈ types ∧ t.name ∈ rule.allowedTypes) r.operands chosen := by
  obtain ⟨opcode, -, h⟩ := Outcome.bind_eq_ok_iff.mp h
  split at h
  . cases h
  . obtain ⟨allowed, hallowed, h⟩ := Outcome.bind_eq_ok_iff.mp h
    obtain ⟨illegal, -, h⟩ := Outcome.bind_eq_ok_iff.mp h
    have hrules : List.Forall₂ (fun rule ts => isIdentifier rule.name
        ∧ ∀ t ∈ ts, t ∈ types ∧ t.name ∈ rule.allowedTypes) r.operands allowed :=
      (Outcome.forall₂_of_mapM_eq_ok hallowed).imp fun _ _ => exists_of_allowedTypes
    obtain ⟨hnames, htypes⟩ := (List.forall₂_and_left _ _).mp hrules
    refine ⟨hnames, fun v hv => ?_⟩
    obtain ⟨chosen, hchosen, hvariant⟩ := Outcome.exists_of_mapM_eq_ok h v hv
    exact ⟨opcode, chosen, hvariant, forall₂_of_mem_choices htypes (List.mem_filter.mp hchosen).1⟩

/-! ### The bundled language -/

namespace Bundled

section

variable {r : InstructionRule} {types : List KnownType}

def withCommas {α : Type} : List α → Regex.Pieces α
  | [] => .done
  | [o] => .place o [] .done
  | o :: operands => .place o "\\s*,\\s*".toList (withCommas operands)

def start (r : InstructionRule) : List Char :=
  r.mnemonic.toList ++ if r.operands.isEmpty then [] else "\\s+".toList

def layout (r : InstructionRule) (types : List KnownType) : Layout :=
  ⟨start r, withCommas (operandsOf r types)⟩

theorem map_withCommas {α β : Type} (f : α → β) (operands : List α)
    : (withCommas operands).map f = withCommas (operands.map f) := by
  induction operands with
  | nil => rfl
  | cons o operands ih =>
    cases operands with
    | nil => rfl
    | cons p operands => exact congrArg (Regex.Pieces.place (f o) _) ih

theorem places_withCommas {α : Type} (operands : List α) : (withCommas operands).places = operands := by
  induction operands with
  | nil => rfl
  | cons o operands ih =>
    cases operands with
    | nil => rfl
    | cons p operands => exact congrArg (o :: ·) ih

theorem holds_withCommas {α : Type} (operands : List α) : (withCommas operands).Holds .standard := by
  have hparts : ∀ part ∈ [[], "\\s*,\\s*".toList], Regex.Follows .standard part := by
    decide +kernel
  induction operands with
  | nil => trivial
  | cons o operands ih =>
    cases operands with
    | nil => exact ⟨hparts _ List.mem_cons_self, trivial⟩
    | cons p operands => exact ⟨hparts _ (List.mem_cons_of_mem _ List.mem_cons_self), ih⟩

theorem holds_templates : ∀ f ∈ forms,
    (template "" f.1).toList = (if f.1.isEmpty then [] else "\\s+".toList)
        ++ (withCommas (f.1.map OperandRule.name)).chars (fun name => (placeholder name).toList)
      ∧ (∀ o ∈ f.1, Text.occurrences (placeholder o.name).toList (template "" f.1).toList = 1)
      ∧ ∀ types ∈ combinations knownTypes f.1 f.2, ((f.1.map OperandRule.name).zip types).Pairwise fun o p =>
        Text.occurrences (placeholder p.1).toList (operandGroup o) = 0 := by
  decide +kernel

theorem begins_start : ∀ r ∈ instructions, Regex.Begins .standard (start r) := by
  decide +kernel

theorem holds_groups : ∀ t ∈ knownTypes, Regex.Reader.SetsNoFlags t.regex.toList := by
  decide +kernel

theorem fits_layout (hr : r ∈ instructions) (htypes : types ∈ combinations knownTypes r.operands r.illegalCombinations)
    : (layout r types).Fits .standard r.regex (operandsOf r types) := by
  obtain ⟨htemplate, honce, hapart⟩ := holds_templates _ (formOf_mem_forms hr)
  have hmnemonic : '_' ∉ r.mnemonic.toList := fun h => absurd (letters_mnemonic hr _ h) (by decide)
  have hregex : r.regex.toList = r.mnemonic.toList ++ (template "" r.operands).toList := by
    rw [regex_eq_template r hr, toList_template]
  have hnames : (operandsOf r types).map Prod.fst = r.operands.map OperandRule.name :=
    List.map_fst_zip (by rw [List.length_map, length_of_mem_combinations htypes])
  constructor
  . have hplaces : (withCommas (r.operands.map OperandRule.name)).chars (fun name => (placeholder name).toList)
        = (withCommas (operandsOf r types)).chars placeholderChars := by
      rw [← hnames, ← map_withCommas, Regex.Pieces.chars_map]
      rfl
    rw [hregex, Layout.chars, layout, start, ← hplaces, List.append_assoc]
    exact congrArg (r.mnemonic.toList ++ ·) htemplate
  . exact .of_eq (places_withCommas _)
  . intro o ho
    obtain ⟨needle, hneedle⟩ := exists_toList_placeholder o.1
    obtain ⟨rule, hrule, heq⟩ := List.mem_map.mp (List.of_mem_zip ho).1
    have hform := honce rule hrule
    rw [heq, hneedle] at hform
    rw [hregex, hneedle, Text.occurrences_append_of_not_mem hmnemonic]
    exact hform
  . exact hapart types htypes
  . exact begins_start r hr
  . exact holds_withCommas _
  . exact fun o ho => holds_groups o.2 (mem_of_mem_combinations htypes o.2 (List.of_mem_zip ho).2)

theorem makes_variantOf (hr : r ∈ instructions)
    (htypes : types ∈ combinations knownTypes r.operands r.illegalCombinations)
    : Makes .standard definition r types (variantOf r types) := by
  have hallows : ∀ rule ∈ r.operands, ∀ t ∈ typesNamed knownTypes rule.allowedTypes,
      rule.Allows .standard definition t := by
    intro rule _ t ht
    refine ⟨?_, Outcome.exists_of_mapM_eq_ok mapM_knownType t (mem_of_mem_typesNamed ht)⟩
    obtain ⟨name, hname, hfind⟩ := List.mem_filterMap.mp ht
    have hbeq := List.find?_some hfind
    rw [eq_of_beq hbeq]
    exact hname
  have hlists : List.Forall₂ (fun rule ts => ∀ t ∈ ts, rule.Allows .standard definition t) r.operands
      (r.operands.map fun rule => typesNamed knownTypes rule.allowedTypes) :=
    List.forall₂_map_right_iff.mpr (List.forall₂_same.mpr hallows)
  refine ⟨hr, forall₂_of_mem_choices hlists (List.mem_filter.mp htypes).1, (operationOf r.mnemonic).opcode, ?_⟩
  exact variant_eq (read?_pattern hr htypes) (forall_instructions cost_variants hr types htypes)

end

end Bundled

theorem captures_of_bundled {v : Variant} (hv : v ∈ bundled.variants)
    : ∃ r types, Makes .standard Bundled.definition r types v ∧ Captures .standard v (operandsOf r types) := by
  rw [bundled_eq] at hv
  obtain ⟨r, hr, hv⟩ := List.mem_flatMap.mp hv
  obtain ⟨types, htypes, rfl⟩ := List.mem_map.mp hv
  have hmakes := Bundled.makes_variantOf hr htypes
  have hnames : ∀ rule ∈ r.operands, isIdentifier rule.name :=
    fun rule hrule => ((Bundled.holds_forms _ (Bundled.formOf_mem_forms hr)).operands rule hrule).1
  exact ⟨r, types, hmakes, captures_of_makes hmakes hnames (Bundled.fits_layout hr htypes)⟩

/-! ### Languages -/

/--
Every variant of a language is made from an instruction and a choice of types for its operands. Where the placeholders
in the template of the instruction stand apart, each operand has a group of its own.
-/
theorem captures_of_ofDefinition {d : Definition} {l : Language} (h : ofDefinition props d = .ok l) {v : Variant}
    (hv : v ∈ l.variants)
    : (∃ r types, Makes props d r types v)
        ∧ ∀ (r : InstructionRule) (types : List KnownType) (layout : Layout), Makes props d r types v →
          layout.Fits props r.regex (operandsOf r types) → Captures props v (operandsOf r types) := by
  obtain ⟨comment, -, h⟩ := Outcome.bind_eq_ok_iff.mp h
  obtain ⟨declaration, -, h⟩ := Outcome.bind_eq_ok_iff.mp h
  obtain ⟨usage, -, h⟩ := Outcome.bind_eq_ok_iff.mp h
  obtain ⟨types, htypes, h⟩ := Outcome.bind_eq_ok_iff.mp h
  obtain ⟨variants, hvariants, h⟩ := Outcome.bind_eq_ok_iff.mp h
  cases h
  constructor
  . obtain ⟨part, hpart, hv⟩ := List.mem_flatten.mp hv
    obtain ⟨r, hr, hpart⟩ := Outcome.exists_of_mapM_eq_ok hvariants part hpart
    obtain ⟨opcode, chosen, hvariant, hchosen⟩ := (exists_of_instructionVariants hpart).2 v hv
    refine ⟨r, chosen, hr, hchosen.imp fun rule t ht => ⟨ht.2, ?_⟩, opcode, hvariant⟩
    exact Outcome.exists_of_mapM_eq_ok htypes t ht.1
  . intro r chosen layout hmakes hfits
    obtain ⟨j, hj⟩ := List.mem_iff_getElem?.mp hmakes.rule
    obtain ⟨part, hpart, -⟩ := Outcome.getElem?_of_mapM_eq_ok hvariants hj
    exact captures_of_makes hmakes (exists_of_instructionVariants hpart).1 hfits

def registerType : KnownType :=
  Bundled.knownType Bundled.register .register

theorem captures_of_add
    : Captures .standard (Bundled.variantOf (Bundled.binary .add) [registerType, registerType])
        (operandsOf (Bundled.binary .add) [registerType, registerType]) := by
  have hr : Bundled.binary .add ∈ Bundled.instructions := List.mem_cons_self
  have htypes : [registerType, registerType] ∈ combinations Bundled.knownTypes (Bundled.binary .add).operands
      (Bundled.binary .add).illegalCombinations :=
    List.mem_of_getElem? (show _[2]? = _ from rfl)
  have hv : Bundled.variantOf (Bundled.binary .add) [registerType, registerType]
      ∈ Bundled.instructions.flatMap Bundled.variantsOf :=
    List.mem_flatMap.mpr ⟨_, hr, List.mem_map_of_mem htypes⟩
  exact (captures_of_ofDefinition Bundled.ofDefinition_eq hv).2 _ _ _ (Bundled.makes_variantOf hr htypes)
    (Bundled.fits_layout hr htypes)

/-- Placeholders may stand in groups and in alternatives, and before repetitions. -/
example :
    let a := ("a", registerType)
    let b := ("b", registerType)
    let choice : Regex.Pieces (String × KnownType) := .place b "+".toList (.bar [] (.place a [] .done))
    let body : Regex.Pieces (String × KnownType) := .group .numbered [] choice [] .done
    Layout.Fits .standard ⟨"X".toList, .group .unnumbered "\\s+".toList body "{1,2}".toList .done⟩
      "X(?:\\s+(__B__+|__A__)){1,2}" [a, b] := by
  intro a b choice body
  constructor
  . decide +kernel
  . exact .swap ..
  . decide +kernel
  . decide +kernel
  . decide +kernel
  . decide +kernel
  . decide +kernel

/-! ### Names that differ in case -/

/-- The operands have one placeholder between them. -/
def colliding : InstructionRule where
  mnemonic := "X"
  opcode := "0000000"
  type := .register
  operands := [Bundled.operand "a" [Bundled.register], Bundled.operand "A" [Bundled.register]]
  illegalCombinations := []
  regex := "X __A__"

theorem holds_colliding : ∀ o ∈ colliding.operands, o.Holds Bundled.knownTypes colliding.regex.toList := by
  have hall : ∀ o ∈ colliding.operands, isIdentifier o.name
      ∧ Text.occursIn (placeholder o.name).toList colliding.regex.toList
      ∧ ∀ name ∈ o.allowedTypes, IsKnown Bundled.knownTypes name := by
    decide +kernel
  exact fun o ho => ⟨(hall o ho).1, (hall o ho).2.1, (hall o ho).2.2⟩

/-- The first operand takes the placeholder, and the second one is without a group. -/
theorem no_group_of_colliding
    : ∃ l v, ofDefinition .standard { Bundled.definition with instructions := [colliding] } = .ok l ∧ v ∈ l.variants
        ∧ ∃ o ∈ v.operands, v.regex.names.lookup o.name = none := by
  let pattern := whole (fillTemplate colliding.regex (operandsOf colliding [registerType, registerType]))
  have hread : (Regex.read? .standard pattern.toList true).any fun found =>
      found.2 == [("a", 1)] && decide (found.1.cost + 216 ≤ Regex.Room.limit) := by
    decide +kernel
  obtain ⟨⟨node, names⟩, hread, hfound⟩ := (Option.any_eq_true _ _).mp hread
  obtain ⟨hnames, hcost⟩ := Bool.and_eq_true_iff.mp hfound
  obtain ⟨v, hv, hoperands, hgroups⟩ : ∃ v, variant .standard colliding 0 [registerType, registerType] = .ok v
      ∧ v.operands = [⟨"a", .register⟩, ⟨"A", .register⟩] ∧ v.regex.names = [("a", 1)] :=
    ⟨_, variant_eq hread (of_decide_eq_true hcost), rfl, eq_of_beq hnames⟩
  have hcombinations : combinations Bundled.knownTypes colliding.operands colliding.illegalCombinations
      = [[registerType, registerType]] := rfl
  have hopcode : Bits.ofDigits 7 colliding.opcode = .ok 0 := rfl
  have hvariants : [colliding].mapM (instructionVariants .standard Bundled.knownTypes) = .ok [[v]] := by
    rw [List.mapM_cons, instructionVariants_eq hopcode (by decide) holds_colliding nofun, hcombinations,
      List.mapM_cons, hv]
    rfl
  refine ⟨_, v, Bundled.ofDefinition_of_variants hvariants, List.mem_cons_self, ⟨"A", .register⟩, ?_, ?_⟩
  . rw [hoperands]
    exact List.mem_cons_of_mem _ List.mem_cons_self
  . rw [hgroups]
    rfl

end Language

end Triword
