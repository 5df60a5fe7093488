import Triword.Proofs.Language.Spelling
import Triword.Proofs.Regex.Accepts
import Triword.Proofs.Regex.Complete
import Triword.Proofs.Text.Lines

/-!
How an instruction of the bundled language can be written. A mnemonic in capitals with a blank behind it and a
comma and a blank between the operands is matched by the variant that has the kinds of the operands, and by no
other one; what the variant captures are the operands.
-/

namespace Triword

namespace Language

namespace Bundled

open Regex (Node CharSet Place)

variable {kinds : List OperandKind} {texts : List (List Char)}

/-! ### Operands behind a mnemonic -/

def separated : List (List Char) → List Char
  | [] => []
  | [t] => ' ' :: t
  | t :: u :: _ => ' ' :: (t ++ ',' :: ' ' :: u)

def Written (kinds : List OperandKind) (texts : List (List Char)) : Prop :=
  List.Forall₂ (fun kind t => (operandNode kind).Accepts t) kinds texts

theorem accepts_blanks {gap : List Char} (hgap : ∀ c ∈ gap, CharSet.blank.contains c) {min : Nat}
    (hmin : min ≤ gap.length) : (blanks min).Accepts gap :=
  Node.accepts_row hgap hmin

theorem contains_blank_space : ∀ c ∈ [' '], CharSet.blank.contains c :=
  List.all_iff_forall_prop.mp (by decide +kernel)

theorem accepts_operandNodes (hcount : kinds.length ≤ maxOperands) (h : Written kinds texts)
    : (Node.cat (operandNodes kinds)).Accepts (separated texts) := by
  have hspace : ∀ {min}, min ≤ 1 → (blanks min).Accepts [' '] := accepts_blanks contains_blank_space
  cases h with
  | nil => exact Node.accepts_cat_nil
  | cons hk h =>
    cases h with
    | nil => exact (hspace (Nat.le_refl 1)).cat_cons (Node.accepts_cat_singleton (hk.group 1))
    | cons hl h =>
      cases h with
      | nil =>
        have hnone : (blanks 0).Accepts [] := Node.accepts_optional_nil _ none
        have hcomma : (Node.literal [',']).Accepts [','] := Node.accepts_literal [',']
        have hlast := (hspace (Nat.zero_le 1)).cat_cons (Node.accepts_cat_singleton (hl.group 2))
        have hsecond := hcomma.cat_cons hlast
        exact (hspace (Nat.le_refl 1)).cat_cons ((hk.group 1).cat_cons (hnone.cat_cons hsecond))
      | cons hm h => simp [maxOperands] at hcount

theorem accepts_letters {letters : List Char} (h : ∀ a ∈ letters, a ∈ capitals)
    : (Node.cat (letters.map anyCase)).Accepts letters := by
  have hself : ∀ a ∈ capitals, (CharSet.single a).foldCase.contains a :=
    List.all_iff_forall_prop.mp (by decide +kernel)
  induction letters with
  | nil => exact Node.accepts_cat_nil
  | cons a letters ih =>
    obtain ⟨ha, hletters⟩ := List.forall_mem_cons.mp h
    exact (Node.accepts_set (hself a ha)).cat_cons (ih hletters)

/-! ### Characters -/

theorem isBlank_of_apart {s : CharSet} {c : Char} (h : s.apart .blank) (hc : s.contains c)
    : Text.isBlank c = false := by
  have hranges : CharSet.blank.toRanges = Text.blankRanges := by
    decide
  obtain ⟨r, hr, hlow, hhigh⟩ := CharSet.exists_range_of_contains hc
  unfold Text.isBlank Text.inRanges
  rw [List.any_eq_false]
  intro r' hr'
  rw [← hranges] at hr'
  have hapart := List.all_eq_true.mp (List.all_eq_true.mp h r hr) r' hr'
  rw [Bool.or_eq_true, decide_eq_true_eq, decide_eq_true_eq] at hapart
  rw [Bool.and_eq_true, decide_eq_true_eq, decide_eq_true_eq]
  omega

theorem holds_noSemicolon : ∀ kind ∈ knownTypes.map KnownType.kind, ∀ s ∈ (operandNode kind).sets,
    s.contains ';' = false := by
  decide +kernel

theorem holds_letters : ∀ a ∈ capitals, CharSet.blank.contains a = false ∧ Text.isBlank a = false ∧ a ≠ ';' :=
  List.all_iff_forall_prop.mp (by decide +kernel)

/-- The text of an operand is not empty and has no blanks in it, and nothing that ends it or begins a comment. -/
structure IsOperandText (t : List Char) : Prop where
  nonempty : t ≠ []
  chars : ∀ c ∈ t, isOperandChar c
  noBlank : ∀ c ∈ t, Text.isBlank c = false
  noSemicolon : ';' ∉ t

theorem isOperandText_of_matches {kind : OperandKind} (hkind : kind ∈ knownTypes.map KnownType.kind)
    {t : List Char} (h : (operandNode kind).Matches t) : IsOperandText t := by
  have habsent : kind ≠ .absent := by
    rintro rfl
    exact absurd hkind (by decide)
  refine ⟨ne_nil_of_matches habsent h, isOperandChar_of_matches hkind h, ?_, ?_⟩
  . intro c hc
    obtain ⟨s, hs, hcontains⟩ := Node.among_of_matches h c hc
    exact isBlank_of_apart (holds_sets kind hkind s hs).1 hcontains
  . intro hc
    obtain ⟨s, hs, hcontains⟩ := Node.among_of_matches h ';' hc
    rw [holds_noSemicolon kind hkind s hs] at hcontains
    cases hcontains

theorem isOperandText_of_written (hkinds : ∀ kind ∈ kinds, kind ∈ knownTypes.map KnownType.kind)
    (h : Written kinds texts) : ∀ t ∈ texts, IsOperandText t := by
  induction h with
  | nil => exact List.forall_mem_nil _
  | cons hk h ih =>
    obtain ⟨hkind, hkinds⟩ := List.forall_mem_cons.mp hkinds
    exact List.forall_mem_cons.mpr ⟨isOperandText_of_matches hkind hk.matches, ih hkinds⟩

theorem operandTexts_separated (hcount : texts.length ≤ maxOperands) (h : ∀ t ∈ texts, IsOperandText t)
    : operandTexts (separated texts) = texts := by
  match texts with
  | [] => rfl
  | [t] =>
    have ht := h t List.mem_cons_self
    exact operandTexts_one contains_blank_space ht.nonempty ht.chars
  | [t, u] =>
    have ht := h t List.mem_cons_self
    have hu := h u (List.mem_cons_of_mem t List.mem_cons_self)
    have hnone : ∀ c ∈ ([] : List Char), CharSet.blank.contains c := List.forall_mem_nil _
    exact operandTexts_two contains_blank_space ht.nonempty ht.chars hnone contains_blank_space hu.nonempty hu.chars
  | _ :: _ :: _ :: _ => simp [maxOperands] at hcount

theorem mem_separated {c : Char} (h : c ∈ separated texts) : c = ' ' ∨ c = ',' ∨ ∃ t ∈ texts, c ∈ t := by
  match texts with
  | [] => cases h
  | [t] =>
    obtain rfl | hc := List.mem_cons.mp h
    . exact .inl rfl
    . exact .inr (.inr ⟨t, List.mem_cons_self, hc⟩)
  | t :: u :: texts =>
    simp only [separated, List.mem_cons, List.mem_append] at h
    obtain hspace | ht | hcomma | hspace | hu := h
    . exact .inl hspace
    . exact .inr (.inr ⟨t, List.mem_cons_self, ht⟩)
    . exact .inr (.inl hcomma)
    . exact .inl hspace
    . exact .inr (.inr ⟨u, List.mem_cons_of_mem t List.mem_cons_self, hu⟩)

theorem exists_last (hcount : texts.length ≤ maxOperands) (letters : List Char)
    : ∃ before last, letters ++ separated texts = before ++ last ∧ (last = letters ∨ last ∈ texts) := by
  match texts with
  | [] => exact ⟨[], letters, List.append_nil letters, .inl rfl⟩
  | [t] => exact ⟨letters ++ [' '], t, (List.append_cons letters ' ' t), .inr List.mem_cons_self⟩
  | [t, u] =>
    refine ⟨letters ++ ' ' :: (t ++ [',', ' ']), u, ?_, .inr (List.mem_cons_of_mem t List.mem_cons_self)⟩
    simp [separated]
  | _ :: _ :: _ :: _ => simp [maxOperands] at hcount

/-! ### Lines -/

def IsWritten (v : Variant) (texts : List (List Char)) (line : String) : Prop :=
  line.toList = v.mnemonic.toList ++ separated texts ∧ Written (v.operands.map VariantOperand.kind) texts

section

variable {v : Variant} {line : String}

theorem of_mem_variants (hv : v ∈ bundled.variants)
    : v.regex.node = lineNode v.mnemonic (v.operands.map VariantOperand.kind)
      ∧ (∀ a ∈ v.mnemonic.toList, a ∈ capitals)
      ∧ v.mnemonic.toList ≠ []
      ∧ ∀ kind ∈ v.operands.map VariantOperand.kind, kind ∈ knownTypes.map KnownType.kind := by
  obtain ⟨r, hr, types, htypes, rfl⟩ := exists_of_mem_variants hv
  rw [kinds_variantOf (length_of_mem_combinations htypes)]
  refine ⟨rfl, capitals_mnemonic r hr, ?_, ?_⟩
  . exact List.ne_nil_of_length_pos (Nat.lt_of_lt_of_le Nat.zero_lt_two (holds_instructions r hr).1.2)
  . exact fun kind hkind => List.map_subset _ (mem_of_mem_combinations htypes) hkind

theorem length_kinds_le (hv : v ∈ bundled.variants)
    : (v.operands.map VariantOperand.kind).length ≤ maxOperands := by
  rw [List.length_map]
  exact length_operands_le hv

theorem length_texts_le (hv : v ∈ bundled.variants) (h : IsWritten v texts line) : texts.length ≤ maxOperands := by
  rw [← h.2.length_eq]
  exact length_kinds_le hv

theorem isSome_captures? (hv : v ∈ bundled.variants) (h : IsWritten v texts line)
    : (v.regex.captures? line).isSome := by
  obtain ⟨htext, hwritten⟩ := h
  obtain ⟨hnode, hletters, -, -⟩ := of_mem_variants hv
  rw [Regex.Expression.isSome_captures?_iff, hnode, htext]
  obtain ⟨q, hreads, hend⟩ := Place.exists_reads_end (.start (v.mnemonic.toList ++ separated texts)) rfl
  obtain ⟨r, hfirst, hsecond⟩ := hreads.exists_of_append
  obtain ⟨ms₁, hmnemonic⟩ := accepts_letters hletters hfirst
  obtain ⟨ms₂, hoperands⟩ := accepts_operandNodes (length_kinds_le hv) hwritten hsecond
  have hlast : Node.PassesAll [.look .textEnd] q q [] :=
    ⟨q, [], [], ⟨List.isEmpty_iff.mpr hend, rfl, rfl⟩, ⟨rfl, rfl⟩, rfl⟩
  have hline := Node.passesAll_append.mpr ⟨r, ms₁, ms₂, hmnemonic, hoperands, rfl⟩
  have hwhole := Node.passesAll_append.mpr ⟨q, _, [], hline, hlast, rfl⟩
  exact ⟨.start _, q, _, .start _, .start _, [], _, ⟨rfl, rfl, rfl⟩, hwhole, rfl⟩

/-- A line that is written for a variant is matched by the variant alone, which captures the operands. -/
theorem variantsMatching_of_isWritten (hv : v ∈ bundled.variants) (h : IsWritten v texts line)
    : ∃ c, bundled.variantsMatching line = [⟨v, c⟩]
        ∧ v.operands.map (fun o => (c.named? o.name).getD "") = texts.map String.ofList := by
  obtain ⟨-, hletters, -, hkinds⟩ := of_mem_variants hv
  obtain ⟨c, hc⟩ := Option.isSome_iff_exists.mp (isSome_captures? hv h)
  obtain ⟨-, -, hheld⟩ := of_captures hv hc
  have hmem : (⟨v, c⟩ : Match) ∈ bundled.variantsMatching line := by
    apply List.mem_filterMap.mpr
    exact ⟨v, hv, by rw [hc]; rfl⟩
  have hone := length_variantsMatching_le_one line
  refine ⟨c, ?_, ?_⟩
  . generalize bundled.variantsMatching line = ms at hmem hone
    match ms with
    | [] => cases hmem
    | [m] => rw [List.mem_singleton.mp hmem]
    | _ :: _ :: _ => simp at hone
  . have hblank : ∀ c ∈ (separated texts).head?, CharSet.blank.contains c := by
      match texts with
      | [] => nofun
      | [t] | t :: u :: _ =>
        intro c hc
        cases hc
        exact contains_blank_space ' ' (List.mem_singleton_self _)
    obtain ⟨-, hafter⟩ := word_append (fun a ha => (holds_letters a (hletters a ha)).1) hblank
    rw [hheld, h.1, hafter, operandTexts_separated (length_texts_le hv h) (isOperandText_of_written hkinds h.2)]

theorem mem_of_isWritten (hv : v ∈ bundled.variants) (h : IsWritten v texts line) {c : Char}
    (hc : c ∈ line.toList) : c = ' ' ∨ c = ',' ∨ Text.isBlank c = false ∧ c ≠ ';' := by
  obtain ⟨-, hletters, -, hkinds⟩ := of_mem_variants hv
  rw [h.1] at hc
  obtain hc | hc := List.mem_append.mp hc
  . exact .inr (.inr (holds_letters c (hletters c hc)).2)
  . obtain rfl | rfl | ⟨t, ht, hc⟩ := mem_separated hc
    . exact .inl rfl
    . exact .inr (.inl rfl)
    . have htext := isOperandText_of_written hkinds h.2 t ht
      exact .inr (.inr ⟨htext.noBlank c hc, fun heq => htext.noSemicolon (heq ▸ hc)⟩)

theorem isPlain_of_isWritten (hv : v ∈ bundled.variants) (h : IsWritten v texts line)
    : '\n' ∉ line.toList ∧ ';' ∉ line.toList ∧ line.toList ≠ [] ∧ Text.trimList line.toList = line.toList := by
  obtain ⟨-, hletters, hne, hkinds⟩ := of_mem_variants hv
  have htexts := isOperandText_of_written hkinds h.2
  refine ⟨?_, ?_, ?_, ?_⟩
  . intro hnewline
    obtain heq | heq | ⟨hblank, -⟩ := mem_of_isWritten hv h hnewline
    . exact absurd heq (by decide)
    . exact absurd heq (by decide)
    . exact absurd hblank (by decide)
  . intro hsemicolon
    obtain heq | heq | ⟨-, hnot⟩ := mem_of_isWritten hv h hsemicolon
    . exact absurd heq (by decide)
    . exact absurd heq (by decide)
    . exact hnot rfl
  . rw [h.1]
    exact List.append_ne_nil_of_left_ne_nil hne _
  . obtain ⟨before, last, hline, hlast⟩ := exists_last (length_texts_le hv h) v.mnemonic.toList
    have hnone : last ≠ [] ∧ ∀ c ∈ last, Text.isBlank c = false := by
      obtain rfl | hlast := hlast
      . exact ⟨hne, fun c hc => (holds_letters c (hletters c hc)).2.1⟩
      . exact ⟨(htexts last hlast).nonempty, (htexts last hlast).noBlank⟩
    rw [Text.trimList_eq_self_iff, h.1]
    refine ⟨?_, ?_⟩
    . intro c hc
      obtain ⟨a, letters, hcons⟩ := List.exists_cons_of_ne_nil hne
      rw [hcons] at hc
      obtain rfl : a = c := Option.some.inj hc
      exact (holds_letters a (hletters a (hcons ▸ List.mem_cons_self))).2.1
    . intro c hc
      rw [hline, List.getLast?_append_of_ne_nil before hnone.1] at hc
      exact hnone.2 c (List.mem_of_getLast? hc)

end

end Bundled

end Language

end Triword
