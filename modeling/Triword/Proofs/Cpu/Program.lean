import Triword.Proofs.Assembly.Encode
import Triword.Proofs.Cpu.Load

/-!
Programs that run. A source text in the bundled language is assembled for one machine and loaded into it:
at the address of each instruction line the machine fetches the instruction that the line says, and no
machine finds fault with it.
-/

namespace Triword

namespace Cpu

open Assembly (instructionAddress instructionLines instructionOf encodeOperand)

variable {origin : VirtualAddress} {source : String} {p : Program} {segment : Option (AddressRange .virtual)}
variable {cpu cpu₁ cpu₂ : Cpu}

theorem code_instructionAddress_of_load (hsize : p.byteSize ≤ Bits.bound 32) (hreal : cpu.mmu.paging = false)
    (hload : load p cpu = .ok segment cpu₁) (hmmu : cpu₂.mmu = cpu₁.mmu) {k j : Nat} {w : Word}
    (hw : p.words[3 * k + j]? = some w)
    : cpu₂.code ((instructionAddress p.origin k).add (4 * j)) = .ok w := by
  have hplace : (instructionAddress p.origin k).add (4 * j) = p.origin.add (4 * (3 * k + j)) := by
    unfold instructionAddress Instruction.byteSize
    rw [Address.add_add]
    congr 1
    omega
  rw [hplace]
  exact code_of_load hsize hreal hload hmmu hw

/--
At the address of each instruction line the machine fetches the instruction that the line says: the
operation that the mnemonic of the one matching variant names, with the operands that are encoded for what
the variant captures. It is never the instruction that makes an execution fail.
-/
theorem fetch_of_assembled (hassemble : assemble .bundled origin source = .ok p)
    (hsize : p.byteSize ≤ Bits.bound 32) (hreal : cpu.mmu.paging = false)
    (hload : load p cpu = .ok segment cpu₁) {k : Nat} {line : Assembly.SourceLine}
    (hline : (instructionLines .bundled source)[k]? = some line)
    : ∃ m op operands, Language.bundled.variantsMatching line.text = [m]
        ∧ Operation.ofMnemonic? m.variant.mnemonic = some op
        ∧ m.variant.operands.mapM (fun o =>
            encodeOperand p.labels o.kind ((m.captures.named? o.name).getD "")) = .ok operands
        ∧ operands.map Operand.kind = m.variant.operands.map Language.VariantOperand.kind
        ∧ operands.length ≤ 2
        ∧ (∀ regs : RegisterFile, regs.eip = instructionAddress origin k
            → ∃ cpu₂, fetch regs.eip { cpu₁ with regs := regs } = .ok (some (instructionOf op operands)) cpu₂)
        ∧ ∀ cpu t cpu', execute (instructionOf op operands) cpu = .error t cpu'
            → t.blamesInstruction = false := by
  obtain ⟨rfl, ws, htext, hwords⟩ := Assembly.words_of_assemble hassemble hline
  obtain ⟨m, operands, hmatch, hoperands, rfl⟩ := Assembly.exists_of_encodeText htext
  have hm : m ∈ Language.bundled.variantsMatching line.text := by
    rw [hmatch]
    exact List.mem_singleton_self m
  obtain ⟨op, hop, hencode, hkinds, hfirst, hsecond, hproper⟩ := Assembly.encode_of_match hm hoperands
  have hcount : operands.length ≤ 2 := by
    have hlength := congrArg List.length hkinds
    rw [List.length_map, List.length_map] at hlength
    rw [hlength]
    exact Assembly.length_operands_le hm
  refine ⟨m, op, operands, hmatch, hop, hoperands, hkinds, hcount, ?_, ?_⟩
  . intro regs heip
    apply exists_fetch_of_code hfirst hsecond
    intro j hj
    have hinside : j < (instructionOf op operands).encode.length := hj
    refine ⟨_, List.getElem?_eq_getElem hinside, ?_⟩
    have hmmu : ({ cpu₁ with regs := regs } : Cpu).mmu = cpu₁.mmu := rfl
    rw [heip]
    apply code_instructionAddress_of_load hsize hreal hload hmmu
    rw [hwords j hj, hencode]
    exact List.getElem?_eq_getElem hinside
  . intro cpu t cpu' h
    exact blameless_execute hproper h

/-- What becomes of a loop that comes round the end of the space. -/
def looping : Program where
  origin := ⟨0xFFFFFFFC⟩
  words :=
    [⟨.nop, .absent, .absent⟩, ⟨.jz, ⟨.label, .direct, 0xFFFFFFFC⟩, .absent⟩].flatMap Instruction.encode
  labels := ⟨.ofList [("loop", (⟨0xFFFFFFFC⟩ : VirtualAddress))]⟩

def roomy : Cpu :=
  initial { Settings.standard with capacity := ⟨0xFFFFFFFF⟩ }

theorem assemble_looping : assemble .bundled ⟨0xFFFFFFFC⟩ ".loop:\nNOP\nJE loop" = .ok looping := by
  rw [Language.bundled_eq]
  decide +kernel

theorem exists_load_looping : ∃ segment cpu, load looping roomy = .ok segment cpu := by
  have hload : (Action.outcome (load looping roomy)).toOption.isSome := by decide +kernel
  cases hrun : load looping roomy with
  | error t cpu =>
    rw [hrun] at hload
    cases hload
  | ok segment cpu => exact ⟨segment, cpu, rfl⟩

theorem fetch_of_assembled_looping
    : ∃ segment cpu, load looping roomy = .ok segment cpu
        ∧ ∀ regs : RegisterFile, regs.eip = ⟨8⟩
            → ∃ cpu', fetch regs.eip { cpu with regs := regs }
                = .ok (some ⟨.jz, ⟨.label, .direct, 0xFFFFFFFC⟩, .absent⟩) cpu' := by
  have hline : (instructionLines .bundled ".loop:\nNOP\nJE loop")[1]? = some ⟨3, "JE loop"⟩ := by
    rw [Language.bundled_eq]
    decide +kernel
  have hreads : ((Language.bundled.variantsMatching "JE loop").map fun m =>
      (Operation.ofMnemonic? m.variant.mnemonic, m.variant.operands.mapM fun o =>
        encodeOperand looping.labels o.kind ((m.captures.named? o.name).getD "")))
      = [(some .jz, .ok [⟨.label, .direct, 0xFFFFFFFC⟩])] := by
    rw [Language.bundled_eq]
    decide +kernel
  have hsize : looping.byteSize ≤ Bits.bound 32 := by decide
  have haddress : instructionAddress ⟨0xFFFFFFFC⟩ 1 = ⟨8⟩ := by decide +kernel
  obtain ⟨segment, cpu, hload⟩ := exists_load_looping
  obtain ⟨m, op, operands, hmatch, hop, hoperands, -, -, hfetch, -⟩ :=
    fetch_of_assembled assemble_looping hsize rfl hload hline
  rw [hmatch, List.map_singleton, hop, hoperands] at hreads
  cases hreads
  rw [haddress] at hfetch
  exact ⟨segment, cpu, hload, hfetch⟩

end Cpu

end Triword
