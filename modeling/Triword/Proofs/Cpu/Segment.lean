import Triword.Proofs.Cpu.Program

/-!
The addresses of a program. A program has a segment if it is not empty and does not go round the end of the space, and
the segment then holds the addresses of its bytes and no others. Without paging these are also the places that loading
the program writes, whether or not it goes round; it changes nothing else but the address of the next instruction.
-/

namespace Triword

/-! ### Segments -/

namespace Program

variable {p : Program} {a : VirtualAddress} {r : AddressRange .virtual}

def Occupies (p : Program) (a : VirtualAddress) : Prop :=
  ∃ n < p.byteSize, a = p.origin.add n

theorem byteSize_eq_zero_iff : p.byteSize = 0 ↔ p.words = [] := by
  unfold byteSize
  rw [← List.length_eq_zero_iff]
  omega

theorem occupies_iff (hinside : p.origin.toNat + p.byteSize ≤ 2 ^ 32)
    : p.Occupies a ↔ p.origin.toNat ≤ a.toNat ∧ a.toNat < p.origin.toNat + p.byteSize := by
  constructor
  . rintro ⟨n, hn, rfl⟩
    rw [Address.toNat_add]
    omega
  . intro h
    refine ⟨a.toNat - p.origin.toNat, by omega, ?_⟩
    apply Address.eq_of_toNat_eq
    rw [Address.toNat_add]
    omega

theorem toNat_last (hne : p.words ≠ []) (hinside : p.origin.toNat + p.byteSize ≤ 2 ^ 32)
    : (p.origin.add (p.byteSize - 1)).toNat = p.origin.toNat + p.byteSize - 1 := by
  have hpos := mt byteSize_eq_zero_iff.mp hne
  rw [Address.toNat_add]
  omega

/-- The last byte lies before the origin if the program goes round the end of the space. -/
theorem low_le_high_iff (hne : p.words ≠ []) (hsize : p.byteSize ≤ 2 ^ 32)
    : p.origin.word ≤ (p.origin.add (p.byteSize - 1)).word ↔ p.origin.toNat + p.byteSize ≤ 2 ^ 32 := by
  have hpos := mt byteSize_eq_zero_iff.mp hne
  have hlast : (p.origin.add (p.byteSize - 1)).toNat = (p.origin.toNat + (p.byteSize - 1)) % 4294967296 :=
    Address.toNat_add _ _
  have horigin : p.origin.toNat < 4294967296 := p.origin.word.isLt
  show p.origin.toNat ≤ (p.origin.add (p.byteSize - 1)).toNat ↔ _
  rw [hlast]
  omega

theorem segment_of_ne_nil (hne : p.words ≠ []) (hsize : p.byteSize ≤ 2 ^ 32)
    : p.segment = AddressRange.of? p.origin (p.origin.add (p.byteSize - 1)) := by
  have hbound : Bits.bound 32 = 2 ^ 32 := rfl
  unfold segment
  apply if_neg
  rw [byteSize_eq_zero_iff, hbound]
  rintro (hnil | hlarge)
  . exact hne hnil
  . exact absurd hsize (Nat.not_le_of_lt hlarge)

theorem segment_eq_none_iff (hsize : p.byteSize ≤ 2 ^ 32)
    : p.segment = none ↔ p.words = [] ∨ 2 ^ 32 < p.origin.toNat + p.byteSize := by
  by_cases hnil : p.words = []
  . have hzero := byteSize_eq_zero_iff.mpr hnil
    unfold segment
    rw [if_pos (.inl hzero)]
    simp only [hnil, true_or]
  . rw [segment_of_ne_nil hnil hsize, ← Nat.not_le, ← low_le_high_iff hnil hsize]
    unfold AddressRange.of?
    simp only [dite_eq_right_iff, reduceCtorEq, imp_false, hnil, false_or]

theorem segment_eq_some (hsize : p.byteSize ≤ 2 ^ 32) (h : p.segment = some r)
    : r.size = p.byteSize ∧ ∀ a, r.contains a ↔ p.Occupies a := by
  have hne : p.words ≠ [] := by
    intro hnil
    rw [(segment_eq_none_iff hsize).mpr (.inl hnil)] at h
    cases h
  have hpos := mt byteSize_eq_zero_iff.mp hne
  rw [segment_of_ne_nil hne hsize] at h
  unfold AddressRange.of? at h
  split at h
  . next hle =>
    cases h
    have hinside := (low_le_high_iff hne hsize).mp hle
    have hlast := toNat_last hne hinside
    constructor
    . show (p.origin.add (p.byteSize - 1)).toNat - p.origin.toNat + 1 = p.byteSize
      omega
    . intro a
      rw [occupies_iff hinside]
      show (decide (p.origin.toNat ≤ a.toNat) && decide (a.toNat ≤ (p.origin.add (p.byteSize - 1)).toNat)) = true ↔ _
      rw [Bool.and_eq_true, decide_eq_true_iff, decide_eq_true_iff, hlast]
      omega
  . cases h

end Program

/-! ### Writing words without paging -/

namespace Mmu

variable {mmu mmu' : Mmu} {ctx : AccessContext} {a : VirtualAddress} {w : Word}

theorem mem_wordPlaces {p q : PhysicalAddress} : q ∈ Memory.wordPlaces p ↔ ∃ n < 4, q = p.add n := by
  rw [Memory.wordPlaces_eq_ofFn, List.mem_ofFn]
  constructor
  . rintro ⟨k, rfl⟩
    exact ⟨k, k.isLt, rfl⟩
  . rintro ⟨n, hn, rfl⟩
    exact ⟨⟨n, hn⟩, rfl⟩

theorem exists_writeWord_iff_of_real (hreal : mmu.paging = false) (a : VirtualAddress) (w : Word) (ctx : AccessContext)
    : (∃ mmu', writeWord a w ctx mmu = .ok () mmu') ↔ ∀ n < 4, mmu.memory.holds (a.identity.add n) := by
  constructor
  . rintro ⟨mmu', h⟩ n hn
    exact holds_of_writeWord hreal h _ (mem_wordPlaces.mpr ⟨n, hn, rfl⟩)
  . intro h
    have hplaces : ∀ q ∈ Memory.wordPlaces a.identity, mmu.memory.holds q := by
      intro q hq
      obtain ⟨n, hn, rfl⟩ := mem_wordPlaces.mp hq
      exact h n hn
    have htargets : mmu.targets a ctx = .ok (Memory.wordPlaces a.identity, []) := by
      unfold targets
      rw [resolveWord_of_real hreal]
      show (do ofMemoryRead ((Memory.wordPlaces a.identity).forM mmu.memory.check)
               return (Memory.wordPlaces a.identity, []) : Except Trap _) = _
      rw [Memory.forM_check_eq_ok_iff.mpr hplaces]
      rfl
    exact ⟨_, writeWord_of_targets_ok htargets w⟩

theorem written_of_writeWord (hreal : mmu.paging = false) (haccess : ctx.access = .write)
    (h : writeWord a w ctx mmu = .ok () mmu') (q : PhysicalAddress)
    : (mmu'.log.get q).written ↔ (mmu.log.get q).written ∨ ∃ n < 4, q = a.identity.add n := by
  have hwrote := wrote_of_writeWord_of_real hreal haccess h
  by_cases hq : ∃ n < 4, q = a.identity.add n
  . obtain ⟨n, hn, rfl⟩ := hq
    have hlog := hwrote.log_place (a.identity.add n, Bits.field w (8 * n) 8) (List.mem_ofFn.mpr ⟨⟨n, hn⟩, rfl⟩)
    rw [hlog]
    simp only [AccessSet.union, Bool.or_true, true_iff]
    exact .inr ⟨n, hn, rfl⟩
  . have hother : q ∉ (List.ofFn fun k : Fin 4 => (a.identity.add k, Bits.field w (8 * k) 8)).map Prod.fst := by
      rw [List.map_ofFn, List.mem_ofFn]
      rintro ⟨k, rfl⟩
      exact hq ⟨k, k.isLt, rfl⟩
    rw [hwrote.log_other q hother]
    simp only [hq, or_false]

end Mmu

namespace Cpu

variable {cpu cpu' : Cpu} {ctx : AccessContext} {a : VirtualAddress} {w : Word} {words : List Word}

theorem exists_lt_add_iff {q : PhysicalAddress} (a : VirtualAddress) (m : Nat)
    : (∃ n < 4 * (m + 1), q = a.identity.add n)
        ↔
      (∃ n < 4, q = a.identity.add n) ∨ ∃ n < 4 * m, q = (a.add 4).identity.add n := by
  have hnext (n : Nat) : (a.add 4).identity.add n = a.identity.add (4 + n) := Address.add_add a.identity 4 n
  constructor
  . rintro ⟨n, hn, rfl⟩
    by_cases hfirst : n < 4
    . exact .inl ⟨n, hfirst, rfl⟩
    . refine .inr ⟨n - 4, by omega, ?_⟩
      rw [hnext, Nat.add_sub_cancel' (by omega)]
  . rintro (⟨n, hn, rfl⟩ | ⟨n, hn, rfl⟩)
    . exact ⟨n, by omega, rfl⟩
    . exact ⟨4 + n, by omega, hnext n⟩

theorem exists_writeWords_iff (haccess : ctx.access = .write) (hreal : cpu.mmu.paging = false)
    : (∃ cpu', writeWords ctx a words cpu = .ok () cpu')
        ↔
      ∀ q, (∃ n < 4 * words.length, q = a.identity.add n) → cpu.mmu.memory.holds q := by
  induction words generalizing a cpu with
  | nil =>
    constructor
    . rintro - q ⟨n, hn, -⟩
      cases hn
    . intro
      exact ⟨cpu, rfl⟩
  | cons w words ih =>
    simp only [writeWords_cons_eq_ok_iff, List.length_cons, exists_lt_add_iff]
    constructor
    . rintro ⟨cpu', mmu, hword, hwords⟩ q (⟨n, hn, rfl⟩ | hq)
      . exact (Mmu.exists_writeWord_iff_of_real hreal a w ctx).mp ⟨mmu, hword⟩ n hn
      . obtain ⟨hreal', hcapacity, -, -⟩ := Mmu.carries_of_writeWord hreal haccess hword
        rw [← Memory.holds_congr hcapacity]
        exact (ih hreal').mp ⟨cpu', hwords⟩ q hq
    -- Writing the first word takes nothing from memory that the others need.
    . intro h
      obtain ⟨mmu, hword⟩ := (Mmu.exists_writeWord_iff_of_real hreal a w ctx).mpr fun n hn => h _ (.inl ⟨n, hn, rfl⟩)
      obtain ⟨hreal', hcapacity, -, -⟩ := Mmu.carries_of_writeWord hreal haccess hword
      have hrest : ∃ cpu', writeWords ctx (a.add 4) words { cpu with mmu } = .ok () cpu' := by
        apply (ih hreal').mpr
        intro q hq
        rw [Memory.holds_congr hcapacity]
        exact h q (.inr hq)
      obtain ⟨cpu', hwords⟩ := hrest
      exact ⟨cpu', mmu, hword, hwords⟩

theorem written_of_writeWords (haccess : ctx.access = .write) (hreal : cpu.mmu.paging = false)
    (h : writeWords ctx a words cpu = .ok () cpu')
    : cpu' = { cpu with mmu := cpu'.mmu }
        ∧ ∀ q, (cpu'.mmu.log.get q).written
            ↔ (cpu.mmu.log.get q).written ∨ ∃ n < 4 * words.length, q = a.identity.add n := by
  induction words generalizing a cpu with
  | nil =>
    cases h
    refine ⟨rfl, ?_⟩
    intro q
    simp
  | cons w words ih =>
    obtain ⟨mmu, hword, hwords⟩ := writeWords_cons_eq_ok_iff.mp h
    obtain ⟨hreal', -, -, -⟩ := Mmu.carries_of_writeWord hreal haccess hword
    obtain ⟨hmmu, hlog⟩ := ih hreal' hwords
    refine ⟨hmmu, ?_⟩
    intro q
    rw [hlog q, Mmu.written_of_writeWord hreal haccess hword q, List.length_cons, exists_lt_add_iff, or_assoc]

end Cpu

/-! ### Loading -/

/-- The second machine is the first one once the program has been loaded into it without paging. -/
structure Program.Loaded (p : Program) (cpu cpu' : Cpu) : Prop where
  others : cpu' = { cpu with regs := { cpu.regs with eip := p.origin }, mmu := cpu'.mmu }
  paging : cpu'.mmu.paging = cpu.mmu.paging
  capacity : cpu'.mmu.memory.capacity = cpu.mmu.memory.capacity
  readWord : ∀ (n : Nat) (w : Word), p.words[n]? = some w
    → ∀ ctx, ∃ mmu, Mmu.readWord (p.origin.add (4 * n)) ctx cpu'.mmu = .ok w mmu
  byteAt_other : ∀ a : VirtualAddress, ¬p.Occupies a
    → cpu'.mmu.memory.byteAt a.identity = cpu.mmu.memory.byteAt a.identity
  written : ∀ a : VirtualAddress, (cpu'.mmu.log.get a.identity).written
    ↔ (cpu.mmu.log.get a.identity).written ∨ p.Occupies a

theorem Mmu.exists_readWord_of_carries {mmu : Mmu} (hreal : mmu.paging = false) {a : VirtualAddress} {w : Word}
    {rest : List Byte} (h : mmu.memory.Carries a.identity (Bits.bytes w ++ rest)) (ctx : AccessContext)
    : ∃ mmu', readWord a ctx mmu = .ok w mmu' := by
  obtain ⟨hholds, hword⟩ := h.wordAt
  exact ⟨_, readWord_eq_ok_iff.mpr ⟨_, _, resolveWord_of_real hreal, hholds, hword.symm, rfl⟩⟩

namespace Cpu

variable {cpu cpu' : Cpu} {p : Program} {segment : Option (AddressRange .virtual)}

theorem occupies_iff_identity (a : VirtualAddress)
    : p.Occupies a ↔ ∃ n < 4 * p.words.length, a.identity = p.origin.identity.add n := by
  have hplace (n : Nat) : a = p.origin.add n ↔ a.identity = p.origin.identity.add n := by
    constructor
    . rintro rfl
      rfl
    . intro h
      exact congrArg (fun q : PhysicalAddress => (⟨q.word⟩ : VirtualAddress)) h
  simp only [Program.Occupies, Program.byteSize, hplace]

theorem exists_load_iff (hreal : cpu.mmu.paging = false)
    : (∃ segment cpu', load p cpu = .ok segment cpu') ↔ ∀ a, p.Occupies a → cpu.mmu.memory.holds a.identity := by
  have hwords : (∃ before, writeWords (cpu.kernelContext .write) p.origin p.words cpu = .ok () before)
      ↔ ∀ q, (∃ n < 4 * p.words.length, q = p.origin.identity.add n) → cpu.mmu.memory.holds q :=
    exists_writeWords_iff rfl hreal
  simp only [load_eq_ok_iff, occupies_iff_identity]
  constructor
  . rintro ⟨-, -, before, hbefore, -, -⟩ a ha
    exact hwords.mp ⟨before, hbefore⟩ a.identity ha
  . intro h
    obtain ⟨before, hbefore⟩ := hwords.mpr fun q hq => h ⟨q.word⟩ hq
    exact ⟨_, _, before, hbefore, rfl, rfl⟩

theorem loaded_of_load (hsize : p.byteSize ≤ 2 ^ 32) (hreal : cpu.mmu.paging = false)
    (h : load p cpu = .ok segment cpu') : segment = p.segment ∧ p.Loaded cpu cpu' := by
  obtain ⟨before, hbefore, rfl, rfl⟩ := load_eq_ok_iff.mp h
  obtain ⟨hreal', hcapacity, hcarries, hother⟩ := carries_of_writeWords rfl hsize hreal hbefore
  obtain ⟨hmmu, hlog⟩ := written_of_writeWords rfl hreal hbefore
  refine ⟨rfl, ?_⟩
  constructor
  case others =>
    rw [hmmu]
  case paging => exact hreal'.trans hreal.symm
  case capacity => exact hcapacity
  case readWord =>
    intro n w hw ctx
    obtain ⟨hn, rfl⟩ := List.getElem?_eq_some_iff.mp hw
    have hrest := hcarries.drop (4 * n)
    rw [drop_flatMap_bytes, List.drop_eq_getElem_cons hn, List.flatMap_cons] at hrest
    exact Mmu.exists_readWord_of_carries hreal' hrest ctx
  case byteAt_other =>
    intro a ha
    apply hother
    intro n hn heq
    exact ha ((occupies_iff_identity a).mpr ⟨n, hn, heq⟩)
  case written =>
    intro a
    rw [occupies_iff_identity]
    exact hlog a.identity

/--
A program of at most as many bytes as there are addresses has no segment exactly if it is empty or goes round the end
of the space; otherwise the segment holds one address for each byte, and no others. Without paging it can be loaded if
and only if memory holds the addresses of all its bytes, and this gives the segment, writes those addresses and no
others, with each word at its own, and makes the origin the address of the next instruction.
-/
theorem segment_and_loaded_of_load (hsize : p.byteSize ≤ 2 ^ 32) (hreal : cpu.mmu.paging = false)
    : (p.segment = none ↔ p.words = [] ∨ 2 ^ 32 < p.origin.toNat + p.byteSize)
        ∧ (∀ r, p.segment = some r → r.size = p.byteSize ∧ ∀ a, r.contains a ↔ p.Occupies a)
        ∧ ((∃ segment cpu', load p cpu = .ok segment cpu') ↔ ∀ a, p.Occupies a → cpu.mmu.memory.holds a.identity)
        ∧ (∀ segment cpu', load p cpu = .ok segment cpu' → segment = p.segment ∧ p.Loaded cpu cpu') := by
  refine ⟨Program.segment_eq_none_iff hsize, ?_, exists_load_iff hreal, ?_⟩
  . intro r hr
    exact Program.segment_eq_some hsize hr
  . intro segment cpu' h
    exact loaded_of_load hsize hreal h

theorem holds_of_roomy (q : PhysicalAddress) : roomy.mmu.memory.holds q := by
  have hq : q.word.toNat < 4294967296 := q.word.isLt
  show decide (q.word.toNat ≤ 4294967295) = true
  rw [decide_eq_true_iff]
  omega

/-- Two words that end at the last address. -/
def topmost : Program :=
  ⟨⟨0xFFFFFFF8⟩, [0x01020304, 0x05060708], .empty⟩

theorem segment_and_loaded_of_load_topmost
    : topmost.byteSize ≤ 2 ^ 32
        ∧ roomy.mmu.paging = false
        ∧ (∃ r, topmost.segment = some r ∧ r.size = 8 ∧ r.contains ⟨0xFFFFFFFF⟩ ∧ ¬r.contains ⟨0⟩)
        ∧ ∃ cpu, load topmost roomy = .ok topmost.segment cpu
          ∧ cpu.regs.eip = ⟨0xFFFFFFF8⟩
          ∧ ∀ ctx, ∃ mmu, Mmu.readWord ⟨0xFFFFFFFC⟩ ctx cpu.mmu = .ok 0x05060708 mmu := by
  have hsize : topmost.byteSize ≤ 2 ^ 32 := by decide
  have hreal : roomy.mmu.paging = false := rfl
  have hend : topmost.origin.toNat + topmost.byteSize = 2 ^ 32 := rfl
  obtain ⟨hnone, hsome, hload, hloaded⟩ := segment_and_loaded_of_load hsize hreal
  rw [hend] at hnone
  refine ⟨hsize, hreal, ?_, ?_⟩
  . have hne : ¬(topmost.words = [] ∨ 2 ^ 32 < 2 ^ 32) := by simp [topmost]
    obtain ⟨r, hr⟩ := Option.ne_none_iff_exists'.mp (mt hnone.mp hne)
    obtain ⟨hbytes, hcontains⟩ := hsome r hr
    refine ⟨r, hr, hbytes, (hcontains _).mpr ⟨7, by decide, by decide +kernel⟩, mt (hcontains _).mp ?_⟩
    rw [Program.occupies_iff (Nat.le_of_eq hend)]
    decide +kernel
  . obtain ⟨segment, cpu, h⟩ := hload.mpr fun a _ => holds_of_roomy a.identity
    obtain ⟨hsegment, hafter⟩ := hloaded segment cpu h
    rw [hsegment] at h
    refine ⟨cpu, h, ?_, ?_⟩
    . rw [hafter.others]
      rfl
    . intro ctx
      have hsecond : topmost.origin.add (4 * 1) = ⟨0xFFFFFFFC⟩ := by decide +kernel
      rw [← hsecond]
      exact hafter.readWord 1 0x05060708 rfl ctx

/-- The loop that comes round the end of the space is not empty and can be loaded, but it has no segment. -/
theorem segment_eq_none_of_looping
    : looping.words ≠ []
        ∧ looping.byteSize ≤ 2 ^ 32
        ∧ looping.Occupies ⟨0⟩
        ∧ looping.segment = none
        ∧ ∃ cpu, load looping roomy = .ok none cpu := by
  have hsize : looping.byteSize ≤ 2 ^ 32 := by decide
  have hend : looping.origin.toNat + looping.byteSize = 2 ^ 32 + 20 := rfl
  have hnone : looping.segment = none := (Program.segment_eq_none_iff hsize).mpr (.inr (by omega))
  obtain ⟨segment, cpu, hload⟩ := exists_load_looping
  obtain ⟨hsegment, -⟩ := loaded_of_load hsize rfl hload
  rw [hsegment, hnone] at hload
  exact ⟨by decide, hsize, ⟨4, by decide, by decide +kernel⟩, hnone, cpu, hload⟩

end Cpu

end Triword
