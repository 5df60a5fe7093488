import Mathlib.Data.List.Basic
import Triword.Proofs.Assembly.Encode
import Triword.Proofs.LabelTable

/-!
Labels and the words that they stand for. The first pass over the lines counts instructions and the second
one encodes them, and both count alike: a label has the address of the words that come next, and every
operand that names the label has this address as its value.
-/

namespace Triword

theorem Program.getElem?_inThrees {α : Type} {xs : List α} {k : Nat} {a b c : α}
    (ha : xs[3 * k]? = some a) (hb : xs[3 * k + 1]? = some b) (hc : xs[3 * k + 2]? = some c)
    : (inThrees xs)[k]? = some [a, b, c] := by
  induction xs using inThrees.induct generalizing k with
  | case1 => cases ha
  | case2 x =>
    have hlength := (List.getElem?_eq_some_iff.mp hc).1
    simp at hlength
  | case3 x y =>
    have hlength := (List.getElem?_eq_some_iff.mp hc).1
    simp only [List.length_cons, List.length_nil] at hlength
    omega
  | case4 x y z rest ih =>
    unfold inThrees
    cases k with
    | zero =>
      cases ha
      cases hb
      cases hc
      rfl
    | succ k => exact ih ha hb hc

namespace Assembly

variable {l : Language} {t t' : LabelTable} {origin a : VirtualAddress} {source name : String} {p : Program}
variable {k : Nat} {lines before after : List SourceLine} {line : SourceLine}

/-! ### The first pass -/

theorem locateLabelsFrom_instruction (h : l.declaredLabel? line.text = none)
    : locateLabelsFrom l origin t k (line :: lines) = locateLabelsFrom l origin t (k + 1) lines := by
  simp only [locateLabelsFrom, h]

theorem locateLabelsFrom_label (h : l.declaredLabel? line.text = some name)
    (hinsert : t.insert? name (instructionAddress origin k) = some t')
    : locateLabelsFrom l origin t k (line :: lines) = locateLabelsFrom l origin t' k lines := by
  simp only [locateLabelsFrom, h, hinsert]

theorem locateLabelsFrom_duplicate (h : l.declaredLabel? line.text = some name)
    (hinsert : t.insert? name (instructionAddress origin k) = none)
    : locateLabelsFrom l origin t k (line :: lines) = .error ⟨.duplicateLabel name, line.number⟩ := by
  simp only [locateLabelsFrom, h, hinsert]

/-- What comes later is located with the labels and the instructions before it. -/
theorem locateLabelsFrom_append (after : List SourceLine)
    : locateLabelsFrom l origin t k (before ++ after)
        =
      locateLabelsFrom l origin t k before >>= fun t' =>
        locateLabelsFrom l origin t' (k + (instructionsAmong l before).length) after := by
  induction before generalizing t k with
  | nil => rfl
  | cons line before ih =>
    rw [List.cons_append]
    cases hlabel : l.declaredLabel? line.text with
    | none =>
      rw [locateLabelsFrom_instruction hlabel, locateLabelsFrom_instruction hlabel, ih]
      rw [instructionsAmong_cons_of_none hlabel, List.length_cons, Nat.add_right_comm, Nat.add_assoc]
    | some label =>
      cases hinsert : t.insert? label (instructionAddress origin k) with
      | none =>
        rw [locateLabelsFrom_duplicate hlabel hinsert, locateLabelsFrom_duplicate hlabel hinsert]
        rfl
      | some t' =>
        rw [locateLabelsFrom_label hlabel hinsert, locateLabelsFrom_label hlabel hinsert, ih]
        rw [instructionsAmong_cons_of_some hlabel]

theorem exists_of_locateLabelsFrom_label (hlabel : l.declaredLabel? line.text = some name)
    (h : locateLabelsFrom l origin t k (line :: lines) = .ok t')
    : ∃ t₁, t.insert? name (instructionAddress origin k) = some t₁
        ∧ locateLabelsFrom l origin t₁ k lines = .ok t' := by
  cases hinsert : t.insert? name (instructionAddress origin k) with
  | none =>
    rw [locateLabelsFrom_duplicate hlabel hinsert] at h
    cases h
  | some t₁ =>
    rw [locateLabelsFrom_label hlabel hinsert] at h
    exact ⟨t₁, rfl, h⟩

theorem lookup?_of_locateLabelsFrom (h : locateLabelsFrom l origin t k lines = .ok t')
    (hname : t.lookup? name = some a) : t'.lookup? name = some a := by
  induction lines generalizing t k with
  | nil =>
    cases h
    exact hname
  | cons line lines ih =>
    cases hlabel : l.declaredLabel? line.text with
    | none =>
      rw [locateLabelsFrom_instruction hlabel] at h
      exact ih h hname
    | some label =>
      obtain ⟨t₁, hinsert, h⟩ := exists_of_locateLabelsFrom_label hlabel h
      obtain ⟨hfree, hlookup⟩ := LabelTable.lookup?_of_insert? hinsert
      have hne : name ≠ label := by
        rintro rfl
        rw [hfree] at hname
        cases hname
      apply ih h
      rw [hlookup, if_neg hne]
      exact hname

theorem declared_of_locateLabelsFrom (h : locateLabelsFrom l origin t k lines = .ok t')
    (hname : t'.lookup? name = some a)
    : t.lookup? name = some a ∨ ∃ line ∈ lines, l.declaredLabel? line.text = some name := by
  induction lines generalizing t k with
  | nil =>
    cases h
    exact .inl hname
  | cons line lines ih =>
    simp only [List.mem_cons, exists_eq_or_imp]
    cases hlabel : l.declaredLabel? line.text with
    | none =>
      rw [locateLabelsFrom_instruction hlabel] at h
      exact (ih h).imp_right .inr
    | some label =>
      obtain ⟨t₁, hinsert, h⟩ := exists_of_locateLabelsFrom_label hlabel h
      cases ih h with
      | inl hbound =>
        rw [(LabelTable.lookup?_of_insert? hinsert).2] at hbound
        split at hbound
        . next hsame => exact .inr (.inl (congrArg some hsame.symm))
        . exact .inl hbound
      | inr hlater => exact .inr (.inr hlater)

theorem lookup?_of_locateLabels (h : locateLabels l origin (before ++ line :: after) = .ok t)
    (hline : l.declaredLabel? line.text = some name)
    : t.lookup? name = some (instructionAddress origin (instructionsAmong l before).length) := by
  unfold locateLabels at h
  rw [locateLabelsFrom_append, Nat.zero_add] at h
  obtain ⟨t₁, -, h⟩ := Outcome.bind_eq_ok_iff.mp h
  obtain ⟨t₂, hinsert, h⟩ := exists_of_locateLabelsFrom_label hline h
  apply lookup?_of_locateLabelsFrom h
  rw [(LabelTable.lookup?_of_insert? hinsert).2, if_pos rfl]

theorem isSome_lookup?_of_locateLabels (h : locateLabels l origin lines = .ok t) (name : String)
    : (t.lookup? name).isSome ↔ ∃ line ∈ lines, l.declaredLabel? line.text = some name := by
  constructor
  . intro hname
    obtain ⟨a, ha⟩ := Option.isSome_iff_exists.mp hname
    refine (declared_of_locateLabelsFrom h ha).resolve_left ?_
    unfold LabelTable.lookup? LabelTable.empty
    simp
  . rintro ⟨line, hmem, hline⟩
    obtain ⟨before, after, rfl⟩ := List.append_of_mem hmem
    rw [lookup?_of_locateLabels h hline]
    rfl

/-! ### The second pass -/

theorem instruction_of_assemble (h : assemble l origin source = .ok p)
    (hline : (instructionLines l source)[k]? = some line)
    : ∃ ws, encodeText l p.labels line.text = .ok ws
        ∧ p.instructions[k]? = some (instructionAddress origin k, ws)
        ∧ ∀ j < 3, p.words[3 * k + j]? = ws[j]? := by
  obtain ⟨horigin, ws, htext, hwords⟩ := words_of_assemble h hline
  refine ⟨ws, htext, ?_, hwords⟩
  obtain ⟨w₀, w₁, w₂, rfl⟩ := List.length_eq_three.mp (length_of_encodeText htext)
  have hpiece : (Program.inThrees p.words)[k]? = some [w₀, w₁, w₂] :=
    Program.getElem?_inThrees (hwords 0 (by omega)) (hwords 1 (by omega)) (hwords 2 (by omega))
  unfold Program.instructions
  rw [List.getElem?_mapIdx, hpiece, horigin]
  rfl

theorem getElem?_encodeVariant (v : Language.Variant) {operands : List Operand} {j : Nat} {o : Operand}
    (hj : j < Language.maxOperands) (ho : operands[j]? = some o)
    : (encodeVariant v operands)[1 + j]? = some o.value := by
  unfold encodeVariant
  dsimp only
  match j, hj with
  | 0, _ =>
    rw [ho]
    rfl
  | 1, _ =>
    rw [ho]
    rfl

theorem value_of_encodeOperand {kind : OperandKind} {text : String} {o : Operand}
    (htoken : Token.read text = .ok (.label name)) (h : encodeOperand t kind text = .ok o)
    : ∃ a, t.lookup? name = some a ∧ o.value = a.word := by
  obtain ⟨token, htoken', h⟩ := Outcome.bind_eq_ok_iff.mp h
  rw [htoken] at htoken'
  cases htoken'
  obtain ⟨⟨mode, value⟩, hencode, h⟩ := Outcome.bind_eq_ok_iff.mp h
  cases h
  unfold encodeToken at hencode
  dsimp only at hencode
  split at hencode
  . next a ha =>
    cases hencode
    exact ⟨a, ha, rfl⟩
  . cases hencode

/-- An operand that is a label has the address of the label as its value. -/
theorem operand_of_assemble {props : Regex.Properties} {d : Language.Definition}
    (hl : Language.ofDefinition props d = .ok l)
    (h : assemble l origin source = .ok p) (hline : (instructionLines l source)[k]? = some line)
    : ∃ m, l.variantsMatching line.text = [m]
        ∧ ∀ j o name, m.variant.operands[j]? = some o
          → Token.read ((m.captures.named? o.name).getD "") = .ok (.label name)
          → ∃ a, p.labels.lookup? name = some a ∧ p.words[3 * k + 1 + j]? = some a.word := by
  obtain ⟨-, ws, htext, hwords⟩ := words_of_assemble h hline
  obtain ⟨m, operands, hmatch, hoperands, rfl⟩ := exists_of_encodeText htext
  refine ⟨m, hmatch, ?_⟩
  intro j o name ho htoken
  have hm : m ∈ l.variantsMatching line.text := by simp [hmatch]
  -- A language gives no instruction more operands than have a word of their own.
  have hj : j < Language.maxOperands :=
    Nat.lt_of_lt_of_le (List.getElem?_eq_some_iff.mp ho).1
      (Language.length_operands_of_ofDefinition hl (mem_variants_of_match hm))
  obtain ⟨x, hx, hplace⟩ := Outcome.getElem?_of_mapM_eq_ok hoperands ho
  obtain ⟨a, ha, hvalue⟩ := value_of_encodeOperand htoken hx
  have hinside : 1 + j < 3 := by
    unfold Language.maxOperands at hj
    omega
  refine ⟨a, ha, ?_⟩
  rw [Nat.add_assoc, hwords _ hinside, getElem?_encodeVariant _ hj hplace, hvalue]

theorem toNat_instructionAddress (origin : VirtualAddress) (k : Nat)
    : (instructionAddress origin k).toNat = (origin.toNat + 12 * k) % 4294967296 := by
  exact Address.toNat_add origin (Instruction.byteSize * k)

/--
A program has three words for each line that declares no label, and the labels that the others declare.
The address of a label is that of the instruction which comes next, round the end of the space, whose
words are found there; and it is the value of every operand that is the label.
-/
theorem labels_of_assemble {props : Regex.Properties} {d : Language.Definition}
    (hl : Language.ofDefinition props d = .ok l)
    (h : assemble l origin source = .ok p)
    : p.words.length = 3 * (instructionLines l source).length
        ∧ (∀ name, (p.labels.lookup? name).isSome
            ↔
          ∃ line ∈ sourceLines l source, l.declaredLabel? line.text = some name)
        ∧ (∀ before line after name, sourceLines l source = before ++ line :: after
            → l.declaredLabel? line.text = some name
            → ∃ a, p.labels.lookup? name = some a
                ∧ a.toNat = (origin.toNat + 12 * (instructionsAmong l before).length) % 4294967296
                ∧ ∀ next, (instructionsAmong l after).head? = some next
                  → ∃ ws, encodeText l p.labels next.text = .ok ws
                      ∧ p.instructions[(instructionsAmong l before).length]? = some (a, ws)
                      ∧ ∀ j < 3, p.words[3 * (instructionsAmong l before).length + j]? = ws[j]?)
        ∧ ∀ k line, (instructionLines l source)[k]? = some line
            → ∃ m, l.variantsMatching line.text = [m]
                ∧ ∀ j o name, m.variant.operands[j]? = some o
                  → Token.read ((m.captures.named? o.name).getD "") = .ok (.label name)
                  → ∃ a, p.labels.lookup? name = some a ∧ p.words[3 * k + 1 + j]? = some a.word := by
  obtain ⟨-, hlabels, parts, hparts, hwords⟩ := exists_of_assemble h
  refine ⟨?_, ?_, ?_, ?_⟩
  . rw [hwords, instructionLines_eq]
    exact length_of_mapM_encodeLine hparts
  . intro name
    exact isSome_lookup?_of_locateLabels hlabels name
  . intro before line after name hlines hline
    rw [hlines] at hlabels
    refine ⟨_, lookup?_of_locateLabels hlabels hline, toNat_instructionAddress .., ?_⟩
    intro next hnext
    apply instruction_of_assemble h
    rw [instructionLines_eq, hlines]
    unfold instructionsAmong at hnext ⊢
    rw [List.filter_append, List.filter_cons, hline, List.getElem?_append_right (Nat.le_refl _),
      Nat.sub_self, ← List.head?_eq_getElem?]
    exact hnext
  . intro k line hline
    exact operand_of_assemble hl h hline

section

open Language.Bundled (bare jump comment declaration usage variantsOf definition)

/-- A language in which nothing can be done but to jump. -/
def leaping : Language :=
  ⟨comment, declaration, usage, ([jump .jmp, bare .nop].map variantsOf).flatten⟩

/-- A jump to the end, over two labels of one instruction. -/
def jumpingAhead : String :=
  "JMP last\n.first:\n.same:\nNOP ; falls through\n.last:"

def ahead : Program where
  origin := ⟨0xFFFFFFF8⟩
  words :=
    [⟨.jmp, ⟨.label, .direct, 0x10⟩, .absent⟩, ⟨.nop, .absent, .absent⟩].flatMap Instruction.encode
  labels := ⟨.ofList [("first", (⟨4⟩ : VirtualAddress)), ("same", ⟨4⟩), ("last", ⟨0x10⟩)]⟩

theorem labels_of_jumpingAhead
    : assemble leaping ⟨0xFFFFFFF8⟩ jumpingAhead = .ok ahead
        ∧ Language.ofDefinition .standard { definition with instructions := [jump .jmp, bare .nop] } = .ok leaping
        ∧ ahead.words.length = 6
        ∧ (∃ a ws, ahead.labels.lookup? "same" = some a
          ∧ a.toNat = 4
          ∧ ahead.instructions[1]? = some (a, ws))
        ∧ ∃ a, ahead.labels.lookup? "last" = some a ∧ ahead.words[1]? = some a.word := by
  have hl : Language.ofDefinition .standard { definition with instructions := [jump .jmp, bare .nop] }
      = .ok leaping :=
    Language.Bundled.ofDefinition_of_subset (by decide +kernel)
  have hassemble : assemble leaping ⟨0xFFFFFFF8⟩ jumpingAhead = .ok ahead := by decide +kernel
  have htokens : ((leaping.variantsMatching "JMP last").map fun m => m.variant.operands.map fun o =>
      Token.read ((m.captures.named? o.name).getD "")) = [[.ok (.label "last")]] := by
    decide +kernel
  have hlines : sourceLines leaping jumpingAhead
      = [⟨1, "JMP last"⟩, ⟨2, ".first:"⟩] ++ ⟨3, ".same:"⟩ :: [⟨4, "NOP"⟩, ⟨5, ".last:"⟩] := by
    decide +kernel
  have hbefore : instructionsAmong leaping [⟨1, "JMP last"⟩, ⟨2, ".first:"⟩] = [⟨1, "JMP last"⟩] := by
    decide +kernel
  have hafter : instructionsAmong leaping [⟨4, "NOP"⟩, ⟨5, ".last:"⟩] = [⟨4, "NOP"⟩] := by
    decide +kernel
  have hsame : leaping.declaredLabel? ".same:" = some "same" := by decide +kernel
  have hline : (instructionLines leaping jumpingAhead)[0]? = some ⟨1, "JMP last"⟩ := by decide +kernel
  obtain ⟨-, -, hplaces, hoperands⟩ := labels_of_assemble hl hassemble
  refine ⟨hassemble, hl, rfl, ?_, ?_⟩
  . obtain ⟨a, ha, hnat, hnext⟩ := hplaces _ _ _ _ hlines hsame
    rw [hbefore] at hnat hnext
    rw [hafter] at hnext
    obtain ⟨ws, -, hws, -⟩ := hnext _ rfl
    exact ⟨a, ws, ha, hnat.trans (by decide +kernel), hws⟩
  . obtain ⟨m, hmatch, hvalues⟩ := hoperands _ _ hline
    rw [hmatch, List.map_singleton, List.cons.injEq] at htokens
    obtain ⟨o, ho, htoken⟩ := List.map_eq_singleton_iff.mp htokens.1
    exact hvalues 0 o "last" (by rw [ho]; rfl) htoken

end

end Assembly

end Triword
