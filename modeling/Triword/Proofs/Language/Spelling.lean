import Mathlib.Data.Bool.AllAny
import Mathlib.Data.List.TakeWhile
import Triword.Proofs.Assembly.Token
import Triword.Proofs.Language.Lines
import Triword.Proofs.Regex.Characters

/-!
How an instruction of the bundled language is spelled. The mnemonic reaches to the first blank, the operands
are what blanks and a comma set apart, and each of them tells its kind by its first characters; so the text of
a line alone says which variant may match it, and what the groups of the variant hold.
-/

namespace Triword

namespace Language

namespace Bundled

open Regex (Node CharSet Place Mark)

/-! ### Letters -/

def capitals : List Char :=
  letters.take 26

theorem capitals_mnemonic : ∀ r ∈ instructions, ∀ c ∈ r.mnemonic.toList, c ∈ capitals := by
  have hall : ∀ r ∈ instructions, r.mnemonic.toList.all (· ∈ capitals) := by
    decide +kernel
  exact fun r hr => List.all_iff_forall_prop.mp (hall r hr)

/-- The capital letter for which a character can stand in a mnemonic. Two of them are none of ASCII. -/
def capital (c : Char) : Char :=
  if c = '\u017F' then 'S' else if c = '\u212A' then 'K' else c.toUpper

theorem holds_capitals : ∀ a ∈ capitals, ∀ r ∈ (CharSet.single a).foldCase.toRanges,
    r.1 = r.2 ∧ capital (Char.ofNat r.1) = a ∧ CharSet.blank.contains (Char.ofNat r.1) = false :=
  List.all_iff_forall_prop.mp (by decide +kernel)

theorem of_contains_anyCase {a c : Char} (ha : a ∈ capitals) (hc : (CharSet.single a).foldCase.contains c)
    : capital c = a ∧ CharSet.blank.contains c = false := by
  obtain ⟨r, hr, hlow, hhigh⟩ := CharSet.exists_range_of_contains hc
  obtain ⟨hsame, hcapital, hblank⟩ := holds_capitals a ha r hr
  obtain rfl : c = Char.ofNat r.1 := by
    rw [Nat.le_antisymm hlow (hsame ▸ hhigh), Char.ofNat_toNat]
  exact ⟨hcapital, hblank⟩

/-! ### Operands -/

def kindOf (t : List Char) : OperandKind :=
  if '$' ∈ t then .immediate else if '@' ∈ t then .memory else if '%' ∈ t then .register else .label

/-- Kinds of operand, each with a sigil that is not found in operands of the kind. -/
def foreignSigils : List (OperandKind × Char) :=
  [(.memory, '$'), (.register, '$'), (.register, '@'), (.label, '$'), (.label, '@'), (.label, '%')]

theorem holds_foreignSigils : ∀ x ∈ foreignSigils, ∀ s ∈ (operandNode x.1).sets, s.contains x.2 = false := by
  decide +kernel

theorem sigil_not_mem {kind : OperandKind} {t : List Char} {c : Char} (h : (operandNode kind).Matches t)
    (hx : (kind, c) ∈ foreignSigils) : c ∉ t := by
  intro hc
  obtain ⟨s, hs, hcontains⟩ := Node.among_of_matches h c hc
  rw [holds_foreignSigils _ hx s hs] at hcontains
  cases hcontains

theorem sigil_mem {c : Char} {as : List Node} {t : List Char}
    (h : (Node.cat (optional '*' :: .literal [c] :: as)).Matches t) : c ∈ t := by
  obtain ⟨ds, rfl | rfl⟩ := Assembly.Token.begins_with_sigil h
  . exact List.mem_cons_self
  . exact List.mem_cons_of_mem _ List.mem_cons_self

theorem kindOf_of_matches {kind : OperandKind} {t : List Char} (hkind : kind ≠ .absent)
    (h : (operandNode kind).Matches t) : kindOf t = kind := by
  unfold kindOf
  cases kind with
  | absent => exact absurd rfl hkind
  | immediate => rw [if_pos (sigil_mem h)]
  | memory => rw [if_neg (sigil_not_mem h (by decide)), if_pos (sigil_mem h)]
  | register =>
    rw [if_neg (sigil_not_mem h (by decide)), if_neg (sigil_not_mem h (by decide)), if_pos (sigil_mem h)]
  | label =>
    rw [if_neg (sigil_not_mem h (by decide)), if_neg (sigil_not_mem h (by decide)),
      if_neg (sigil_not_mem h (by decide))]

theorem ne_nil_of_matches {kind : OperandKind} {t : List Char} (hkind : kind ≠ .absent)
    (h : (operandNode kind).Matches t) : t ≠ [] := by
  cases kind with
  | absent => exact absurd rfl hkind
  | immediate | memory | register => exact List.ne_nil_of_mem (sigil_mem h)
  | label =>
    obtain ⟨cs, ds, rfl, hset, -⟩ := Node.exists_of_matches_cat_cons h
    obtain ⟨c, -, rfl⟩ := Node.exists_of_matches_set hset
    exact List.cons_ne_nil c ds

def isOperandChar (c : Char) : Bool :=
  !CharSet.blank.contains c && c != ','

theorem holds_sets : ∀ kind ∈ knownTypes.map KnownType.kind, ∀ s ∈ (operandNode kind).sets,
    s.apart .blank ∧ s.contains ',' = false := by
  decide +kernel

theorem isOperandChar_of_matches {kind : OperandKind} {t : List Char}
    (hkind : kind ∈ knownTypes.map KnownType.kind) (h : (operandNode kind).Matches t)
    : ∀ c ∈ t, isOperandChar c := by
  intro c hc
  obtain ⟨s, hs, hcontains⟩ := Node.among_of_matches h c hc
  obtain ⟨hapart, hcomma⟩ := holds_sets kind hkind s hs
  have hne : c ≠ ',' := by
    rintro rfl
    rw [hcontains] at hcomma
    cases hcomma
  simp [isOperandChar, CharSet.contains_of_apart hapart hcontains, hne]

/-! ### Lines -/

def operandTexts (cs : List Char) : List (List Char) :=
  match cs.dropWhile CharSet.blank.contains with
  | [] => []
  | c :: cs =>
    let text := (c :: cs).takeWhile isOperandChar
    match ((c :: cs).dropWhile isOperandChar).dropWhile CharSet.blank.contains with
    | [] => [text]
    | _ :: rest => [text, rest.dropWhile CharSet.blank.contains]

section

variable {gap t u rest : List Char}

theorem dropWhile_gap (hgap : ∀ c ∈ gap, CharSet.blank.contains c) (cs : List Char)
    : (gap ++ cs).dropWhile CharSet.blank.contains = cs.dropWhile CharSet.blank.contains :=
  List.dropWhile_append_of_pos hgap

theorem dropWhile_operand (ht : t ≠ []) (hchars : ∀ c ∈ t, isOperandChar c) (rest : List Char)
    : (t ++ rest).dropWhile CharSet.blank.contains = t ++ rest := by
  obtain ⟨c, cs, rfl⟩ := List.exists_cons_of_ne_nil ht
  have hc : isOperandChar c := hchars c List.mem_cons_self
  have hblank : ¬CharSet.blank.contains c := by
    intro hblank
    simp [isOperandChar, hblank] at hc
  rw [List.cons_append, List.dropWhile_cons, if_neg hblank]

theorem operandTexts_eq (hgap : ∀ c ∈ gap, CharSet.blank.contains c) (ht : t ≠ [])
    (hchars : ∀ c ∈ t, isOperandChar c) (hrest : ∀ c ∈ rest.head?, isOperandChar c = false)
    : operandTexts (gap ++ (t ++ rest))
        =
      match rest.dropWhile CharSet.blank.contains with
      | [] => [t]
      | _ :: rest => [t, rest.dropWhile CharSet.blank.contains] := by
  have hnone : rest.takeWhile isOperandChar = [] ∧ rest.dropWhile isOperandChar = rest := by
    cases rest with
    | nil => exact ⟨rfl, rfl⟩
    | cons c cs =>
      have hc : isOperandChar c = false := hrest c rfl
      rw [List.takeWhile_cons, List.dropWhile_cons, hc]
      exact ⟨rfl, rfl⟩
  unfold operandTexts
  rw [dropWhile_gap hgap, dropWhile_operand ht hchars]
  obtain ⟨c, cs, hcs⟩ := List.exists_cons_of_ne_nil (List.append_ne_nil_of_left_ne_nil ht rest)
  rw [hcs]
  dsimp only
  rw [← hcs, List.takeWhile_append_of_pos hchars, List.dropWhile_append_of_pos hchars, hnone.1, hnone.2,
    List.append_nil]

theorem operandTexts_one (hgap : ∀ c ∈ gap, CharSet.blank.contains c) (ht : t ≠ [])
    (hchars : ∀ c ∈ t, isOperandChar c) : operandTexts (gap ++ t) = [t] := by
  have hhead : ∀ c ∈ ([] : List Char).head?, isOperandChar c = false := nofun
  have heq := operandTexts_eq hgap ht hchars hhead
  rw [List.append_nil] at heq
  exact heq

theorem operandTexts_two {gap₁ gap₂ : List Char} (hgap : ∀ c ∈ gap, CharSet.blank.contains c) (ht : t ≠ [])
    (hchars : ∀ c ∈ t, isOperandChar c) (hgap₁ : ∀ c ∈ gap₁, CharSet.blank.contains c)
    (hgap₂ : ∀ c ∈ gap₂, CharSet.blank.contains c) (hu : u ≠ []) (hchars' : ∀ c ∈ u, isOperandChar c)
    : operandTexts (gap ++ (t ++ (gap₁ ++ ',' :: (gap₂ ++ u)))) = [t, u] := by
  rw [operandTexts_eq hgap ht hchars, dropWhile_gap hgap₁]
  . have hcomma : ¬CharSet.blank.contains ',' := by decide +kernel
    rw [List.dropWhile_cons, if_neg hcomma]
    dsimp only
    rw [dropWhile_gap hgap₂, ← List.append_nil u, dropWhile_operand hu hchars']
  . intro c hc
    cases gap₁ with
    | nil =>
      cases hc
      decide +kernel
    | cons d ds =>
      cases hc
      have hblank := hgap₁ c List.mem_cons_self
      simp [isOperandChar, hblank]

end

/-! ### Passages through lines -/

section

variable {p q : Place} {ms : List Mark} {text : List Char}

theorem exists_of_passes_letters {letters : List Char} (hletters : ∀ a ∈ letters, a ∈ capitals)
    (h : Node.PassesAll (letters.map anyCase) p q ms)
    : ∃ cs, p.Reads cs q ∧ cs.map capital = letters ∧ (∀ c ∈ cs, CharSet.blank.contains c = false) ∧ ms = [] := by
  induction letters generalizing p ms with
  | nil =>
    obtain ⟨rfl, rfl⟩ := h
    exact ⟨[], rfl, rfl, List.forall_mem_nil _, rfl⟩
  | cons a letters ih =>
    obtain ⟨ha, hletters⟩ := List.forall_mem_cons.mp hletters
    obtain ⟨r, ms₁, ms₂, ⟨c, hc, hfirst, rfl⟩, hrest, rfl⟩ := h
    obtain ⟨cs, hreads, hcapitals, hblanks, rfl⟩ := ih hletters hrest
    obtain ⟨hcapital, hblank⟩ := of_contains_anyCase ha hc
    refine ⟨c :: cs, hfirst.trans hreads, ?_, List.forall_mem_cons.mpr ⟨hblank, hblanks⟩, rfl⟩
    rw [List.map_cons, hcapital, hcapitals]

theorem exists_of_passes_blanks {min : Nat} (hp : p.IsIn text) (h : (blanks min).Passes p q ms)
    : ∃ gap, p.Reads gap q ∧ (∀ c ∈ gap, CharSet.blank.contains c) ∧ min ≤ gap.length ∧ ms = [] := by
  obtain ⟨gap, hreads, hgap, hmin⟩ := Node.exists_reads_of_row h
  exact ⟨gap, hreads, hgap, hmin, Node.eq_nil_of_passes (fun n => rfl) hp h⟩

theorem exists_of_passes_operand {n : Nat} {kind : OperandKind} (hp : p.IsIn text)
    (h : (Node.group n (operandNode kind)).Passes p q ms)
    : ∃ t, p.Reads t q ∧ (operandNode kind).Matches t ∧ ms = [⟨n, false, q.pos⟩, ⟨n, true, p.pos⟩] := by
  obtain ⟨ms', h, rfl⟩ := h
  obtain ⟨t, hreads⟩ := Node.exists_reads h
  obtain rfl := Node.eq_nil_of_passes (bodies_operandNode · kind) hp h
  exact ⟨t, hreads, ⟨p, q, [], h, hreads⟩, rfl⟩

theorem eq_nil_of_textEnd (h : (Node.PassesAll [.look .textEnd]) p q ms) : p.rest = [] ∧ ms = [] := by
  obtain ⟨r, ms₁, ms₂, ⟨hend, rfl, rfl⟩, ⟨rfl, rfl⟩, rfl⟩ := h
  exact ⟨List.isEmpty_iff.mp hend, rfl⟩

theorem head?_gap {gap : List Char} (hgap : ∀ c ∈ gap, CharSet.blank.contains c) (hmin : 1 ≤ gap.length)
    (cs : List Char) : ∀ c ∈ (gap ++ cs).head?, CharSet.blank.contains c := by
  obtain ⟨d, ds, rfl⟩ := List.exists_cons_of_length_pos hmin
  intro c hc
  obtain rfl : d = c := Option.some.inj hc
  exact hgap d List.mem_cons_self

def Holds (names : List (String × Nat)) (text : List Char) (ms : List Mark) (texts : List (List Char)) : Prop :=
  ∀ i < maxOperands, (Regex.Expression.Captures.mk text ms names).numbered? (i + 1) = texts[i]?.map String.ofList

theorem Holds.of_numbered {names : List (String × Nat)} {texts : List (List Char)}
    (hfirst : (Regex.Expression.Captures.mk text ms names).numbered? 1 = texts[0]?.map String.ofList)
    (hsecond : (Regex.Expression.Captures.mk text ms names).numbered? 2 = texts[1]?.map String.ofList)
    : Holds names text ms texts := by
  intro i hi
  obtain rfl | rfl : i = 0 ∨ i = 1 := by
    unfold maxOperands at hi
    omega
  . exact hfirst
  . exact hsecond

theorem exists_of_passes_gap {r : Place} {ms' : List Mark} {min n : Nat} {kind : OperandKind} (hp : p.IsIn text)
    (hkind : kind ∈ knownTypes.map KnownType.kind) (hgap : (blanks min).Passes p q ms)
    (hoperand : (Node.group n (operandNode kind)).Passes q r ms')
    : ∃ gap t, p.Reads (gap ++ t) r ∧ (∀ c ∈ gap, CharSet.blank.contains c) ∧ min ≤ gap.length
        ∧ t ≠ [] ∧ (∀ c ∈ t, isOperandChar c) ∧ kindOf t = kind
        ∧ (text.drop q.pos).take (r.pos - q.pos) = t
        ∧ ms = [] ∧ ms' = [⟨n, false, r.pos⟩, ⟨n, true, q.pos⟩] := by
  have habsent : kind ≠ .absent := by
    rintro rfl
    exact absurd hkind (by decide)
  obtain ⟨gap, hreads, hblanks, hmin, rfl⟩ := exists_of_passes_blanks hp hgap
  replace hp := hp.of_reads hreads
  obtain ⟨t, hreads', hmatches, rfl⟩ := exists_of_passes_operand hp hoperand
  exact ⟨gap, t, hreads.trans hreads', hblanks, hmin, ne_nil_of_matches habsent hmatches,
    isOperandChar_of_matches hkind hmatches, kindOf_of_matches habsent hmatches, hp.take_eq hreads', rfl, rfl⟩

/-- The operands that have been passed are those that the text sets apart. -/
theorem of_passes_operands {kinds : List OperandKind} (hp : p.IsIn text) (names : List (String × Nat))
    (hcount : kinds.length ≤ maxOperands) (hkinds : ∀ kind ∈ kinds, kind ∈ knownTypes.map KnownType.kind)
    (h : Node.PassesAll (operandNodes kinds ++ [.look .textEnd]) p q ms)
    : (∀ c ∈ p.rest.head?, CharSet.blank.contains c)
      ∧ (operandTexts p.rest).map kindOf = kinds
      ∧ Holds names text ms (operandTexts p.rest) := by
  -- At most two operands are passed, so the parts of the passage are taken one by one.
  match kinds with
  | [] =>
    obtain ⟨hrest, rfl⟩ := eq_nil_of_textEnd h
    rw [hrest]
    exact ⟨nofun, rfl, .of_numbered rfl rfl⟩
  | [k] =>
    obtain ⟨r₁, ms₁, ms', hgap, h, rfl⟩ := h
    obtain ⟨r₂, ms₂, ms', hoperand, h, rfl⟩ := h
    obtain ⟨gap, t, hreads, hblanks, hmin, hne, hchars, hkind, hheld, rfl, rfl⟩ :=
      exists_of_passes_gap hp (hkinds k List.mem_cons_self) hgap hoperand
    obtain ⟨hend, rfl⟩ := eq_nil_of_textEnd h
    have hrest : p.rest = gap ++ t := by
      rw [hreads.rest_eq, hend, List.append_nil]
    rw [hrest, operandTexts_one hblanks hne hchars]
    refine ⟨head?_gap hblanks hmin t, ?_, .of_numbered ?_ rfl⟩
    . rw [List.map_singleton, hkind]
    . show some (String.ofList ((text.drop r₁.pos).take (r₂.pos - r₁.pos))) = some (String.ofList t)
      rw [hheld]
  | [k, l] =>
    obtain ⟨r₁, ms₁, ms', hgap, h, rfl⟩ := h
    obtain ⟨r₂, ms₂, ms', hoperand, h, rfl⟩ := h
    obtain ⟨r₃, ms₃, ms', hgap₁, h, rfl⟩ := h
    obtain ⟨r₄, ms₄, ms', ⟨hcomma, rfl⟩, h, rfl⟩ := h
    obtain ⟨r₅, ms₅, ms', hgap₂, h, rfl⟩ := h
    obtain ⟨r₆, ms₆, ms', hoperand', h, rfl⟩ := h
    obtain ⟨gap, t, hreads, hblanks, hmin, hne, hchars, hkind, hheld, rfl, rfl⟩ :=
      exists_of_passes_gap hp (hkinds k List.mem_cons_self) hgap hoperand
    replace hp := hp.of_reads hreads
    obtain ⟨gap₁, hreads₁, hblanks₁, -, rfl⟩ := exists_of_passes_blanks hp hgap₁
    replace hp := (hp.of_reads hreads₁).of_reads hcomma
    obtain ⟨gap₂, u, hreads₂, hblanks₂, -, hne', hchars', hkind', hheld', rfl, rfl⟩ :=
      exists_of_passes_gap hp (hkinds l (List.mem_cons_of_mem k List.mem_cons_self)) hgap₂ hoperand'
    obtain ⟨hend, rfl⟩ := eq_nil_of_textEnd h
    have hrest : p.rest = gap ++ (t ++ (gap₁ ++ ',' :: (gap₂ ++ u))) := by
      rw [hreads.rest_eq, hreads₁.rest_eq, hcomma.rest_eq, hreads₂.rest_eq, hend, List.append_nil, List.append_assoc]
      rfl
    rw [hrest, operandTexts_two hblanks hne hchars hblanks₁ hblanks₂ hne' hchars']
    refine ⟨head?_gap hblanks hmin _, ?_, .of_numbered ?_ ?_⟩
    . rw [List.map_cons, List.map_singleton, hkind, hkind']
    . show some (String.ofList ((text.drop r₁.pos).take (r₂.pos - r₁.pos))) = some (String.ofList t)
      rw [hheld]
    . show some (String.ofList ((text.drop r₅.pos).take (r₆.pos - r₅.pos))) = some (String.ofList u)
      rw [hheld']
  | _ :: _ :: _ :: _ => simp [maxOperands] at hcount

end

/-! ### Variants -/

def word (cs : List Char) : List Char :=
  cs.takeWhile fun c => !CharSet.blank.contains c

def afterWord (cs : List Char) : List Char :=
  cs.dropWhile fun c => !CharSet.blank.contains c

theorem word_append {cs rest : List Char} (hcs : ∀ c ∈ cs, CharSet.blank.contains c = false)
    (hrest : ∀ c ∈ rest.head?, CharSet.blank.contains c)
    : word (cs ++ rest) = cs ∧ afterWord (cs ++ rest) = rest := by
  have hword : ∀ c ∈ cs, (!CharSet.blank.contains c) = true := fun c hc => by rw [hcs c hc]; rfl
  unfold word afterWord
  rw [List.takeWhile_append_of_pos hword, List.dropWhile_append_of_pos hword]
  cases rest with
  | nil => exact ⟨List.append_nil cs, rfl⟩
  | cons c rest =>
    have hc : CharSet.blank.contains c = true := hrest c rfl
    rw [List.takeWhile_cons, List.dropWhile_cons, hc]
    exact ⟨List.append_nil cs, rfl⟩

theorem lookup_groupNames {names : List String} (hnodup : names.Nodup) (hcount : names.length ≤ maxOperands)
    {i : Nat} {name : String} (h : names[i]? = some name) : (groupNames names).lookup name = some (i + 1) := by
  match names with
  | [] => cases h
  | [a] =>
    obtain ⟨rfl, rfl⟩ : i = 0 ∧ a = name := by
      cases i <;> simp_all
    simp [groupNames]
  | [a, b] =>
    have hne : a ≠ b := by simpa using hnodup
    obtain rfl | rfl : i = 0 ∨ i = 1 := by
      have hlt := (List.getElem?_eq_some_iff.mp h).1
      rw [List.length_cons, List.length_singleton] at hlt
      omega
    . obtain rfl : a = name := Option.some.inj h
      have hab : (a == b) = false := beq_false_of_ne hne
      simp [groupNames, List.lookup_cons, hab]
    . obtain rfl : b = name := Option.some.inj h
      simp [groupNames]
  | _ :: _ :: _ :: _ => simp [maxOperands] at hcount

theorem map_named? {names : List String} (hnodup : names.Nodup) (hcount : names.length ≤ maxOperands)
    {text : List Char} {ms : List Mark} {texts : List (List Char)} (hlength : texts.length = names.length)
    (h : Holds (groupNames names) text ms texts)
    : names.map (fun name => ((Regex.Expression.Captures.mk text ms (groupNames names)).named? name).getD "")
        =
      texts.map String.ofList := by
  apply List.ext_getElem
  . rw [List.length_map, List.length_map, hlength]
  . intro i hi hi'
    rw [List.length_map] at hi hi'
    have hlookup := lookup_groupNames hnodup hcount (List.getElem?_eq_getElem hi)
    have hnumbered := h i (Nat.lt_of_lt_of_le hi hcount)
    rw [List.getElem?_eq_getElem hi'] at hnumbered
    rw [List.getElem_map, List.getElem_map]
    unfold Regex.Expression.Captures.named?
    rw [hlookup, Option.bind_some, hnumbered]
    rfl

theorem map_name_variantOf {r : InstructionRule} {types : List KnownType} (h : types.length = r.operands.length)
    : (variantOf r types).operands.map VariantOperand.name = r.operands.map OperandRule.name := by
  have hzip : ((r.operands.map OperandRule.name).zip types).map Prod.fst = r.operands.map OperandRule.name :=
    List.map_fst_zip (by simp [h])
  conv => rhs; rw [← hzip]
  simp only [variantOf, List.map_map, Function.comp_def]

/-- The text that a variant matches tells its mnemonic and its kinds of operands, and holds what is captured. -/
theorem of_captures {v : Variant} (hv : v ∈ bundled.variants) {line : String} {c : Regex.Expression.Captures}
    (h : v.regex.captures? line = some c)
    : v.mnemonic.toList = (word line.toList).map capital
      ∧ v.operands.map VariantOperand.kind = (operandTexts (afterWord line.toList)).map kindOf
      ∧ v.operands.map (fun o => (c.named? o.name).getD "")
        =
        (operandTexts (afterWord line.toList)).map String.ofList := by
  obtain ⟨r, hr, types, htypes, rfl⟩ := exists_of_mem_variants hv
  have hform : Form.Holds (r.operands, r.illegalCombinations) := holds_forms _ (formOf_mem_forms hr)
  have hlength := length_of_mem_combinations htypes
  have hkinds : ∀ kind ∈ types.map KnownType.kind, kind ∈ knownTypes.map KnownType.kind :=
    fun kind hkind => List.map_subset _ (mem_of_mem_combinations htypes) hkind
  have hcount : (types.map KnownType.kind).length ≤ maxOperands := by
    rw [List.length_map, hlength]
    exact hform.length
  obtain ⟨htext, hnames, p, q, hp, hpasses⟩ := Regex.Expression.exists_passes h
  replace hpasses : (lineNode r.mnemonic (types.map KnownType.kind)).Passes p q c.marks := hpasses
  obtain ⟨p', ms', ms, ⟨hstart, rfl, rfl⟩, hpasses, hms⟩ := hpasses
  rw [List.append_nil] at hms
  rw [List.append_assoc, Node.passesAll_append] at hpasses
  obtain ⟨q', ms', ms, hletters, hpasses, rfl⟩ := hpasses
  obtain ⟨cs, hreads, hcapitals, hblanks, rfl⟩ := exists_of_passes_letters (capitals_mnemonic r hr) hletters
  obtain ⟨hhead, hspelled, hheld⟩ :=
    of_passes_operands (hp.of_reads hreads) c.names hcount hkinds hpasses
  have hrest : line.toList = cs ++ q'.rest := (hp.rest_eq_of_textStart hstart).symm.trans hreads.rest_eq
  obtain ⟨hword, hafter⟩ := word_append hblanks hhead
  rw [hrest, hword, hafter, kinds_variantOf hlength]
  refine ⟨hcapitals.symm, hspelled.symm, ?_⟩
  -- Which texts they are does not matter any more, only how many there are.
  generalize operandTexts q'.rest = texts at hspelled hheld
  have htexts : texts.length = (r.operands.map OperandRule.name).length := by
    rw [← List.length_map kindOf, hspelled, List.length_map, List.length_map, hlength]
  obtain ⟨text, marks, names⟩ := c
  obtain rfl : text = line.toList := htext
  obtain rfl : marks = ms := hms.trans (List.append_nil ms)
  obtain rfl : names = groupNames (r.operands.map OperandRule.name) := hnames
  rw [← map_named? hform.nodup (by simpa using hform.length) htexts hheld, ← map_name_variantOf hlength, List.map_map]
  rfl

/-! ### Matches -/

/-- What tells the variants of the bundled language apart. -/
def shape (v : Variant) : String × List OperandKind :=
  (v.mnemonic, v.operands.map VariantOperand.kind)

theorem nodup_shapesOf : (instructions.flatMap fun r =>
    (combinations knownTypes r.operands r.illegalCombinations).map fun types =>
      (r.mnemonic, types.map KnownType.kind)).Nodup := by
  decide +kernel

theorem nodup_shapes : (bundled.variants.map shape).Nodup := by
  rw [bundled_eq]
  dsimp only
  rw [List.map_flatMap]
  have hshapes : (instructions.flatMap fun r => (variantsOf r).map shape)
      = instructions.flatMap fun r => (combinations knownTypes r.operands r.illegalCombinations).map fun types =>
          (r.mnemonic, types.map KnownType.kind) := by
    unfold variantsOf
    congr 1
    funext r
    rw [List.map_map]
    apply List.map_congr_left
    intro types htypes
    show (r.mnemonic, (variantOf r types).operands.map VariantOperand.kind) = (r.mnemonic, _)
    rw [kinds_variantOf (length_of_mem_combinations htypes)]
  rw [hshapes]
  exact nodup_shapesOf

theorem length_filterMap_le_one {α β γ : Type} {f : α → β} {g : α → Option γ} {l : List α}
    (hnodup : (l.map f).Nodup) (h : ∀ a ∈ l, ∀ b ∈ l, (g a).isSome → (g b).isSome → f a = f b)
    : (l.filterMap g).length ≤ 1 := by
  induction l with
  | nil => exact Nat.zero_le 1
  | cons a l ih =>
    rw [List.map_cons, List.nodup_cons] at hnodup
    cases ha : g a with
    | none =>
      rw [List.filterMap_cons_none ha]
      exact ih hnodup.2 fun b hb c hc => h b (List.mem_cons_of_mem a hb) c (List.mem_cons_of_mem a hc)
    | some x =>
      have hrest : l.filterMap g = [] := by
        rw [List.filterMap_eq_nil_iff]
        intro b hb
        rw [← Option.not_isSome_iff_eq_none]
        intro hsome
        have hsame := h a List.mem_cons_self b (List.mem_cons_of_mem a hb) (by rw [ha]; rfl) hsome
        exact hnodup.1 (hsame ▸ List.mem_map_of_mem hb)
      rw [List.filterMap_cons_some ha, hrest]
      exact Nat.le_refl 1

theorem length_variantsMatching_le_one (line : String) : (bundled.variantsMatching line).length ≤ 1 := by
  unfold variantsMatching
  apply length_filterMap_le_one nodup_shapes
  intro v hv v' hv' h h'
  rw [Option.isSome_map, Option.isSome_iff_exists] at h h'
  obtain ⟨c, hc⟩ := h
  obtain ⟨c', hc'⟩ := h'
  obtain ⟨hmnemonic, hkinds, -⟩ := of_captures hv hc
  obtain ⟨hmnemonic', hkinds', -⟩ := of_captures hv' hc'
  exact Prod.ext (String.toList_inj.mp (hmnemonic.trans hmnemonic'.symm)) (hkinds.trans hkinds'.symm)

theorem variantsMatching_of_declares {line name : String} (h : bundled.declaredLabel? line = some name)
    : bundled.variantsMatching line = [] := by
  have hdot := head?_of_declaredLabel? (by rw [bundled_eq]) h
  apply List.filterMap_eq_nil_iff.mpr
  intro v hv
  rw [Option.map_eq_none_iff, Option.eq_none_iff_forall_ne_some]
  intro c hc
  obtain ⟨r, hr, types, htypes, rfl⟩ := exists_of_mem_variants hv
  obtain ⟨hmnemonic, -, -⟩ := of_captures hv hc
  obtain ⟨cs, hcs⟩ := List.head?_eq_some_iff.mp hdot
  have hblank : CharSet.blank.contains '.' = false := by decide +kernel
  have hmem : '.' ∈ r.mnemonic.toList := by
    show '.' ∈ (variantOf r types).mnemonic.toList
    rw [hmnemonic, hcs, word, List.takeWhile_cons, hblank]
    exact List.mem_cons_self
  exact absurd (capitals_mnemonic r hr '.' hmem) (by decide)

end Bundled

end Language

end Triword
