import Triword.Proofs.Assembly.Token
import Triword.Proofs.Cpu.Blame
import Triword.Proofs.Cpu.Fetch

/-!
What a source text is assembled to. Each line that is an instruction becomes three words, so the words of
the line with number `k` among them are those from `3 * k` on; in the bundled language they encode an
instruction that the machine can fetch and that makes sense to it.
-/

namespace Triword

namespace Assembly

variable {l : Language} {t : LabelTable} {source : String} {origin : VirtualAddress} {p : Program}
variable {line : SourceLine}

/-! ### Lines -/

def instructionLines (l : Language) (source : String) : List SourceLine :=
  (sourceLines l source).filter fun line => (l.declaredLabel? line.text).isNone

def instructionsAmong (l : Language) (lines : List SourceLine) : List SourceLine :=
  lines.filter fun line => (l.declaredLabel? line.text).isNone

theorem instructionLines_eq (l : Language) (source : String)
    : instructionLines l source = instructionsAmong l (sourceLines l source) := by
  rfl

theorem instructionsAmong_cons_of_some {name : String} (h : l.declaredLabel? line.text = some name)
    (lines : List SourceLine) : instructionsAmong l (line :: lines) = instructionsAmong l lines := by
  unfold instructionsAmong
  rw [List.filter_cons, h]
  rfl

theorem instructionsAmong_cons_of_none (h : l.declaredLabel? line.text = none)
    (lines : List SourceLine)
    : instructionsAmong l (line :: lines) = line :: instructionsAmong l lines := by
  unfold instructionsAmong
  rw [List.filter_cons, h]
  rfl

theorem mem_variants_of_match {m : Language.Match} {text : String} (hm : m ∈ l.variantsMatching text)
    : m.variant ∈ l.variants := by
  obtain ⟨v, hv, hcaptures⟩ := List.mem_filterMap.mp hm
  obtain ⟨c, -, rfl⟩ := Option.map_eq_some_iff.mp hcaptures
  exact hv

theorem exists_of_encodeText {text : String} {words : List Word} (h : encodeText l t text = .ok words)
    : ∃ m operands, l.variantsMatching text = [m]
        ∧ m.variant.operands.mapM (fun o => encodeOperand t o.kind ((m.captures.named? o.name).getD ""))
          = .ok operands
        ∧ words = encodeVariant m.variant operands := by
  unfold encodeText at h
  split at h
  . cases h
  . next m hm =>
    obtain ⟨operands, hoperands, h⟩ := Outcome.bind_eq_ok_iff.mp h
    cases h
    exact ⟨m, operands, hm, hoperands, rfl⟩
  . cases h

theorem length_of_encodeText {text : String} {words : List Word} (h : encodeText l t text = .ok words)
    : words.length = 3 := by
  obtain ⟨m, operands, -, -, rfl⟩ := exists_of_encodeText h
  rfl

theorem encodeText_of_encodeLine {words : List Word}
    (hline : l.declaredLabel? line.text = none) (h : encodeLine l t line = .ok words)
    : encodeText l t line.text = .ok words := by
  unfold encodeLine at h
  rw [hline] at h
  cases htext : encodeText l t line.text with
  | error fault =>
    rw [htext] at h
    cases h
  | ok ws =>
    rw [htext] at h
    cases h
    rfl

theorem eq_nil_of_encodeLine {name : String} {words : List Word}
    (hline : l.declaredLabel? line.text = some name) (h : encodeLine l t line = .ok words)
    : words = [] := by
  unfold encodeLine at h
  rw [hline] at h
  cases h
  rfl

/-- Each instruction before a line takes up three words, and each declaration none. -/
theorem words_of_mapM_encodeLine {lines : List SourceLine} {parts : List (List Word)}
    (h : lines.mapM (encodeLine l t) = .ok parts) {k : Nat}
    (hline : (instructionsAmong l lines)[k]? = some line)
    : ∃ ws, encodeText l t line.text = .ok ws ∧ ∀ j < 3, parts.flatten[3 * k + j]? = ws[j]? := by
  induction lines generalizing parts k with
  | nil => cases hline
  | cons first lines ih =>
    rw [List.mapM_cons] at h
    obtain ⟨words, hfirst, h⟩ := Outcome.bind_eq_ok_iff.mp h
    obtain ⟨parts, hparts, h⟩ := Outcome.bind_eq_ok_iff.mp h
    cases h
    rw [List.flatten_cons]
    -- A declaration takes no number and no words from the instructions behind it.
    cases hlabel : l.declaredLabel? first.text with
    | some label =>
      rw [instructionsAmong_cons_of_some hlabel] at hline
      rw [eq_nil_of_encodeLine hlabel hfirst, List.nil_append]
      exact ih hparts hline
    | none =>
      have htext := encodeText_of_encodeLine hlabel hfirst
      have hlength := length_of_encodeText htext
      rw [instructionsAmong_cons_of_none hlabel] at hline
      cases k with
      | zero =>
        cases hline
        refine ⟨words, htext, ?_⟩
        intro j hj
        rw [Nat.mul_zero, Nat.zero_add, List.getElem?_append_left (by omega)]
      | succ k =>
        obtain ⟨ws, hws, hfound⟩ := ih hparts hline
        refine ⟨ws, hws, ?_⟩
        intro j hj
        rw [List.getElem?_append_right (by omega), hlength, ← hfound j hj]
        congr 1
        omega

theorem length_of_mapM_encodeLine {lines : List SourceLine} {parts : List (List Word)}
    (h : lines.mapM (encodeLine l t) = .ok parts)
    : parts.flatten.length = 3 * (instructionsAmong l lines).length := by
  induction lines generalizing parts with
  | nil =>
    cases h
    rfl
  | cons line lines ih =>
    rw [List.mapM_cons] at h
    obtain ⟨words, hline, h⟩ := Outcome.bind_eq_ok_iff.mp h
    obtain ⟨parts, hparts, h⟩ := Outcome.bind_eq_ok_iff.mp h
    cases h
    rw [List.flatten_cons, List.length_append, ih hparts]
    cases hlabel : l.declaredLabel? line.text with
    | some label =>
      rw [eq_nil_of_encodeLine hlabel hline, instructionsAmong_cons_of_some hlabel]
      rw [List.length_nil, Nat.zero_add]
    | none =>
      rw [length_of_encodeText (encodeText_of_encodeLine hlabel hline)]
      rw [instructionsAmong_cons_of_none hlabel, List.length_cons]
      omega

theorem exists_of_assemble (h : assemble l origin source = .ok p)
    : p.origin = origin
        ∧ locateLabels l origin (sourceLines l source) = .ok p.labels
        ∧ ∃ parts, (sourceLines l source).mapM (encodeLine l p.labels) = .ok parts
          ∧ p.words = parts.flatten := by
  obtain ⟨labels, hlabels, h⟩ := Outcome.bind_eq_ok_iff.mp h
  obtain ⟨words, hwords, h⟩ := Outcome.bind_eq_ok_iff.mp h
  cases h
  refine ⟨rfl, hlabels, ?_⟩
  unfold encodeLines at hwords
  cases hparts : (sourceLines l source).mapM (encodeLine l labels) with
  | error e =>
    rw [hparts] at hwords
    cases hwords
  | ok parts =>
    rw [hparts] at hwords
    cases hwords
    exact ⟨parts, rfl, rfl⟩

theorem words_of_assemble (h : assemble l origin source = .ok p) {k : Nat} {line : SourceLine}
    (hline : (instructionLines l source)[k]? = some line)
    : p.origin = origin
        ∧ ∃ ws, encodeText l p.labels line.text = .ok ws ∧ ∀ j < 3, p.words[3 * k + j]? = ws[j]? := by
  obtain ⟨horigin, -, parts, hparts, hwords⟩ := exists_of_assemble h
  rw [hwords]
  exact ⟨horigin, words_of_mapM_encodeLine hparts hline⟩

/-! ### Operands -/

theorem kind_ne_absent (token : Token) : token.kind ≠ .absent := by
  cases token <;> exact nofun

theorem register_of_encodeToken {token : Token} {mode : AddressingMode} {value : Word}
    (h : encodeToken t token = .ok (mode, value))
    : (mode = .indirect → token.kind = .register)
        ∧ (token.kind = .register → ∃ r, Register.ofCode? value = some r) := by
  unfold encodeToken at h
  cases token with
  | register r =>
    cases h
    exact ⟨fun _ => rfl, fun _ => ⟨r, r.ofCode?_code⟩⟩
  | indirect r =>
    cases h
    exact ⟨fun _ => rfl, fun _ => ⟨r, r.ofCode?_code⟩⟩
  | address w =>
    cases h
    exact ⟨nofun, nofun⟩
  | immediate v =>
    dsimp only at h
    split at h
    . cases h
      exact ⟨nofun, nofun⟩
    . cases h
  | label name =>
    dsimp only at h
    split at h
    . cases h
      exact ⟨nofun, nofun⟩
    . cases h

theorem isStored_of_encodeOperand {kind : OperandKind} {text : String} {o : Operand}
    (hkind : ∀ token, Token.read text = .ok token → token.kind = kind)
    (h : encodeOperand t kind text = .ok o)
    : o.kind = kind ∧ kind ≠ .absent ∧ o.IsStored := by
  obtain ⟨token, htoken, h⟩ := Outcome.bind_eq_ok_iff.mp h
  obtain ⟨⟨mode, value⟩, hencode, h⟩ := Outcome.bind_eq_ok_iff.mp h
  cases h
  have hread : Token.read text = .ok token := by
    cases hread : Token.read text with
    | error e =>
      rw [hread] at htoken
      cases htoken
    | ok token' =>
      rw [hread] at htoken
      cases htoken
      rfl
  have hsame := hkind token hread
  have hpresent : kind ≠ .absent := hsame ▸ kind_ne_absent token
  have hregister := register_of_encodeToken hencode
  rw [hsame] at hregister
  exact ⟨rfl, hpresent, .inr ⟨hpresent, hregister⟩⟩

theorem kind_of_captures {m : Language.Match} {line : String}
    (hm : m ∈ Language.bundled.variantsMatching line) {o : Language.VariantOperand}
    (ho : o ∈ m.variant.operands) {token : Token}
    (htoken : Token.read ((m.captures.named? o.name).getD "") = .ok token) : token.kind = o.kind := by
  obtain ⟨v, hv, hcaptures⟩ := List.mem_filterMap.mp hm
  obtain ⟨c, hc, rfl⟩ := Option.map_eq_some_iff.mp hcaptures
  cases hnamed : c.named? o.name with
  | none =>
    rw [hnamed] at htoken
    cases htoken
  | some text =>
    rw [hnamed] at htoken
    exact Token.kind_of_read (Language.Bundled.matches_of_named? hv ho hc hnamed) htoken

theorem isStored_of_captures {m : Language.Match} {line : String}
    (hm : m ∈ Language.bundled.variantsMatching line) {o : Language.VariantOperand}
    (ho : o ∈ m.variant.operands) {x : Operand}
    (hx : encodeOperand t o.kind ((m.captures.named? o.name).getD "") = .ok x)
    : x.kind = o.kind ∧ o.kind ≠ .absent ∧ x.IsStored := by
  exact isStored_of_encodeOperand (fun _ => kind_of_captures hm ho) hx

/-! ### Instructions -/

def instructionOf (op : Operation) (operands : List Operand) : Instruction :=
  ⟨op, operands[0]?.getD .absent, operands[1]?.getD .absent⟩

open Language.Bundled (forms mnemonicsOf knownTypes operationOf) in
theorem accepts_kinds : ∀ f ∈ forms, ∀ mnemonic ∈ mnemonicsOf f,
    ∀ types ∈ Language.combinations knownTypes f.1 f.2,
    (operationOf mnemonic).uses.1.accepts ((types.map Language.KnownType.kind)[0]?.getD .absent)
      ∧ (operationOf mnemonic).uses.2.accepts ((types.map Language.KnownType.kind)[1]?.getD .absent) := by
  decide +kernel

theorem kind_getD_absent (operands : List Operand) (n : Nat)
    : (operands[n]?.getD .absent).kind = (operands.map Operand.kind)[n]?.getD .absent := by
  rw [List.getElem?_map]
  cases operands[n]? <;> rfl

theorem isStored_getD_absent {operands : List Operand} (h : ∀ o ∈ operands, o.IsStored) (n : Nat)
    : (operands[n]?.getD .absent).IsStored := by
  cases ho : operands[n]? with
  | none => exact .inl rfl
  | some o => exact h o (List.mem_of_getElem? ho)

theorem register_of_isStored {o : Operand} (h : o.IsStored) (hkind : o.kind = .register)
    : ∃ r, Register.ofCode? o.value = some r := by
  rcases h with rfl | ⟨-, -, hregister⟩
  . cases hkind
  . exact hregister hkind

theorem operation_of_variant {v : Language.Variant} (hv : v ∈ Language.bundled.variants)
    : ∃ op, Operation.ofMnemonic? v.mnemonic = some op
        ∧ v.type = op.type
        ∧ v.opcode = op.opcode
        ∧ op.uses.1.accepts ((v.operands.map Language.VariantOperand.kind)[0]?.getD .absent)
        ∧ op.uses.2.accepts ((v.operands.map Language.VariantOperand.kind)[1]?.getD .absent) := by
  obtain ⟨r, hr, types, htypes, rfl⟩ := Language.Bundled.exists_of_mem_variants hv
  obtain ⟨hmnemonic, htype⟩ := Language.Bundled.operation_of_mnemonic hr
  rw [Language.Bundled.kinds_variantOf (Language.length_of_mem_combinations htypes)]
  have haccepts := Language.Bundled.forall_instructions accepts_kinds hr types htypes
  exact ⟨_, hmnemonic, htype, rfl, haccepts⟩

theorem length_operands_le {m : Language.Match} {line : String}
    (hm : m ∈ Language.bundled.variantsMatching line) : m.variant.operands.length ≤ Language.maxOperands := by
  exact Language.Bundled.length_operands_le (mem_variants_of_match hm)

/-- An instruction line of the bundled language encodes an instruction that makes sense. -/
theorem encode_of_match {m : Language.Match} {line : String} {operands : List Operand}
    (hm : m ∈ Language.bundled.variantsMatching line)
    (hoperands : m.variant.operands.mapM (fun o =>
      encodeOperand t o.kind ((m.captures.named? o.name).getD "")) = .ok operands)
    : ∃ op, Operation.ofMnemonic? m.variant.mnemonic = some op
        ∧ encodeVariant m.variant operands = (instructionOf op operands).encode
        ∧ operands.map Operand.kind = m.variant.operands.map Language.VariantOperand.kind
        ∧ (instructionOf op operands).first.IsStored
        ∧ (instructionOf op operands).second.IsStored
        ∧ (instructionOf op operands).IsProper := by
  obtain ⟨v, hv, hcaptures⟩ := List.mem_filterMap.mp hm
  obtain ⟨c, hc, rfl⟩ := Option.map_eq_some_iff.mp hcaptures
  obtain ⟨op, hop, htype, hopcode, hfirst, hsecond⟩ := operation_of_variant hv
  have hkinds : operands.map Operand.kind = v.operands.map Language.VariantOperand.kind :=
    Outcome.map_eq_of_mapM_eq_ok hoperands fun o ho x hx => (isStored_of_captures hm ho hx).1
  have hstored : ∀ x ∈ operands, x.IsStored := by
    intro x hx
    obtain ⟨o, ho, hencode⟩ := Outcome.exists_of_mapM_eq_ok hoperands x hx
    exact (isStored_of_captures hm ho hencode).2.2
  have hstored₁ := isStored_getD_absent hstored 0
  have hstored₂ := isStored_getD_absent hstored 1
  refine ⟨op, hop, ?_, hkinds, hstored₁, hstored₂, ⟨?_, register_of_isStored hstored₁⟩,
    ⟨?_, register_of_isStored hstored₂⟩⟩
  . unfold encodeVariant
    dsimp only
    rw [htype, hopcode]
    rfl
  . show op.uses.1.accepts (operands[0]?.getD Operand.absent).kind
    rw [kind_getD_absent, hkinds]
    exact hfirst
  . show op.uses.2.accepts (operands[1]?.getD Operand.absent).kind
    rw [kind_getD_absent, hkinds]
    exact hsecond

end Assembly

end Triword
