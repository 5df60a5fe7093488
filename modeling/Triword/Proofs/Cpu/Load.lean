import Triword.Proofs.Cpu.Fetch
import Triword.Proofs.Mmu.Write

/-!
Programs in memory. Without paging a program that has been loaded lies in memory with its bytes one after
the other, round the end of the space; as long as it does not come round to its start, each of its words
is found where it has been written.
-/

namespace Triword

namespace Memory

variable {m m' : Memory} {a : PhysicalAddress} {bytes : List Byte}

def Carries (m : Memory) (a : PhysicalAddress) (bytes : List Byte) : Prop :=
  ∀ n b, bytes[n]? = some b → m.holds (a.add n) ∧ m.byteAt (a.add n) = b

theorem Carries.append {more : List Byte} (h : m.Carries a bytes)
    (hmore : m.Carries (a.add bytes.length) more) : m.Carries a (bytes ++ more) := by
  intro n b hb
  by_cases hn : n < bytes.length
  . rw [List.getElem?_append_left hn] at hb
    exact h n b hb
  . rw [List.getElem?_append_right (by omega)] at hb
    have hfound := hmore _ b hb
    rw [Address.add_add, Nat.add_sub_cancel' (by omega)] at hfound
    exact hfound

theorem Carries.drop (h : m.Carries a bytes) (k : Nat) : m.Carries (a.add k) (bytes.drop k) := by
  intro n b hb
  rw [List.getElem?_drop] at hb
  rw [Address.add_add]
  exact h (k + n) b hb

theorem Carries.congr (h : m.Carries a bytes) (hcapacity : m'.capacity = m.capacity)
    (hbytes : ∀ n < bytes.length, m'.byteAt (a.add n) = m.byteAt (a.add n)) : m'.Carries a bytes := by
  intro n b hb
  have hn : n < bytes.length := (List.getElem?_eq_some_iff.mp hb).1
  rw [holds_congr hcapacity, hbytes n hn]
  exact h n b hb

theorem Carries.wordAt {w : Word} {rest : List Byte} (h : m.Carries a (Bits.bytes w ++ rest))
    : (∀ p ∈ wordPlaces a, m.holds p) ∧ m.wordAt a = w := by
  obtain ⟨hholds₀, hbyte₀⟩ := h 0 _ rfl
  obtain ⟨hholds₁, hbyte₁⟩ := h 1 _ rfl
  obtain ⟨hholds₂, hbyte₂⟩ := h 2 _ rfl
  obtain ⟨hholds₃, hbyte₃⟩ := h 3 _ rfl
  rw [Address.add_zero] at hholds₀ hbyte₀
  constructor
  . simp only [wordPlaces, List.forall_mem_cons]
    exact ⟨hholds₀, hholds₁, hholds₂, hholds₃, List.forall_mem_nil _⟩
  . unfold Memory.wordAt wordPlaces
    simp only [List.map_cons, List.map_nil, hbyte₀, hbyte₁, hbyte₂, hbyte₃]
    exact Bits.ofBytes_bytes w

end Memory

/-! ### Without paging -/

namespace Mmu

variable {mmu mmu' : Mmu} {a : VirtualAddress} {ctx : AccessContext}

theorem resolveWord_of_real (hreal : mmu.paging = false)
    : mmu.resolveWord a ctx = .ok (Memory.wordPlaces a.identity, []) := by
  unfold resolveWord
  rw [resolve_of_real hreal, hreal]
  rfl

theorem peek_of_real (hreal : mmu.paging = false) {w : Word} {rest : List Byte}
    (h : mmu.memory.Carries a.identity (Bits.bytes w ++ rest)) : mmu.peek a ctx = .ok w := by
  obtain ⟨hholds, hword⟩ := h.wordAt
  unfold peek
  rw [resolveWord_of_real hreal]
  show (do return Bits.ofBytes (← ofMemoryRead ((Memory.wordPlaces a.identity).mapM mmu.memory.readByte))
    : Except Trap Word) = _
  rw [Memory.mapM_readByte_of_holds hholds, ← hword]
  rfl

theorem walked_of_real (hreal : mmu.paging = false) : mmu.walked a ctx = [] := by
  unfold walked
  rw [hreal]
  rfl

theorem holds_of_writeWord {w : Word} (hreal : mmu.paging = false) (h : writeWord a w ctx mmu = .ok () mmu')
    : ∀ p ∈ Memory.wordPlaces a.identity, mmu.memory.holds p := by
  obtain ⟨places, entries, htargets, -⟩ := writeWord_eq_ok_iff.mp h
  obtain ⟨hresolve, hholds⟩ := holds_of_targets htargets
  rw [resolveWord_of_real hreal] at hresolve
  cases hresolve
  exact hholds

theorem wrote_of_writeWord_of_real {w : Word} (hreal : mmu.paging = false) (haccess : ctx.access = .write)
    (h : writeWord a w ctx mmu = .ok () mmu')
    : mmu.Wrote mmu' [] (List.ofFn fun k : Fin 4 => (a.identity.add k, Bits.field w (8 * k) 8)) := by
  obtain ⟨p, hp, hwrote⟩ := wrote_of_writeWord_ok haccess h
  have hplace : p = fun k : Fin 4 => a.identity.add k := by
    funext k
    obtain ⟨entries, hk⟩ := hp k
    rw [resolve_of_real hreal] at hk
    exact (congrArg Prod.fst (Except.ok.inj hk)).symm
  have hused : (wordAddresses a).flatMap (mmu.walked · ctx) = [] := by
    simp [walked_of_real hreal]
  rw [hplace, hused] at hwrote
  exact hwrote

theorem carries_of_writeWord {w : Word} (hreal : mmu.paging = false) (haccess : ctx.access = .write)
    (h : writeWord a w ctx mmu = .ok () mmu')
    : mmu'.paging = false
        ∧ mmu'.memory.capacity = mmu.memory.capacity
        ∧ mmu'.memory.Carries a.identity (Bits.bytes w)
        ∧ ∀ q, (∀ n < 4, q ≠ a.identity.add n) → mmu'.memory.byteAt q = mmu.memory.byteAt q := by
  have hwrote := wrote_of_writeWord_of_real hreal haccess h
  have hplaces : ((List.ofFn fun k : Fin 4 => (a.identity.add k, Bits.field w (8 * k) 8)).map Prod.fst)
      = List.ofFn fun k : Fin 4 => a.identity.add k := by
    rw [List.map_ofFn]
    rfl
  refine ⟨hwrote.paging.trans hreal, hwrote.capacity, ?_, ?_⟩
  . intro n b hb
    obtain ⟨hn, rfl⟩ := List.getElem?_eq_some_iff.mp hb
    have hplace : a.identity.add n ∈ Memory.wordPlaces a.identity := by
      rw [Memory.wordPlaces_eq_ofFn, List.mem_ofFn]
      exact ⟨⟨n, hn⟩, rfl⟩
    have hbyte : (a.identity.add n, (Bits.bytes w)[n])
        ∈ List.ofFn fun k : Fin 4 => (a.identity.add k, Bits.field w (8 * k) 8) := by
      rw [List.mem_ofFn]
      refine ⟨⟨n, hn⟩, Prod.ext rfl ?_⟩
      exact (List.getElem_ofFn (f := fun k : Fin 4 => Bits.field w (8 * k) 8) hn).symm
    rw [Memory.holds_congr hwrote.capacity]
    exact ⟨holds_of_writeWord hreal h _ hplace, hwrote.byteAt_place _ hbyte⟩
  . intro q hq
    rw [hwrote.byteAt_other q]
    . rfl
    . rw [hplaces, List.mem_ofFn]
      rintro ⟨k, rfl⟩
      exact hq k k.isLt rfl

end Mmu

/-! ### Loading -/

namespace Cpu

variable {cpu cpu' : Cpu}

theorem writeWords_cons_eq_ok_iff {ctx : AccessContext} {a : VirtualAddress} {w : Word} {words : List Word}
    : writeWords ctx a (w :: words) cpu = .ok () cpu'
        ↔
      ∃ mmu, Mmu.writeWord a w ctx cpu.mmu = .ok () mmu
        ∧ writeWords ctx (a.add 4) words { cpu with mmu } = .ok () cpu' := by
  rw [writeWords, Action.bind_eq_ok_iff]
  constructor
  . rintro ⟨u, cpu₁, hwrite, hrest⟩
    obtain ⟨mmu, hword, rfl⟩ := exists_of_onMmu_ok hwrite
    exact ⟨mmu, hword, hrest⟩
  . rintro ⟨mmu, hword, hrest⟩
    exact ⟨(), _, onMmu_of_ok hword, hrest⟩

/-- Words that are written one after the other lie in memory so, unless they come round to the start. -/
theorem carries_of_writeWords {ctx : AccessContext} (haccess : ctx.access = .write) {a : VirtualAddress}
    {words : List Word} (hsize : 4 * words.length ≤ 4294967296) (hreal : cpu.mmu.paging = false)
    (h : writeWords ctx a words cpu = .ok () cpu')
    : cpu'.mmu.paging = false
        ∧ cpu'.mmu.memory.capacity = cpu.mmu.memory.capacity
        ∧ cpu'.mmu.memory.Carries a.identity (words.flatMap Bits.bytes)
        ∧ ∀ q, (∀ n < 4 * words.length, q ≠ a.identity.add n)
            → cpu'.mmu.memory.byteAt q = cpu.mmu.memory.byteAt q := by
  induction words generalizing a cpu with
  | nil =>
    cases h
    refine ⟨hreal, rfl, ?_, fun q _ => rfl⟩
    intro n b hb
    cases hb
  | cons w words ih =>
    rw [List.length_cons] at hsize
    obtain ⟨mmu, hword, hwords⟩ := writeWords_cons_eq_ok_iff.mp h
    obtain ⟨hreal₁, hcapacity₁, hcarries₁, hother₁⟩ := Mmu.carries_of_writeWord hreal haccess hword
    obtain ⟨hreal', hcapacity, hcarries, hother⟩ := ih (by omega) hreal₁ hwords
    have hlength : (Bits.bytes w).length = 4 := rfl
    have hnext : ∀ m, (a.add 4).identity.add m = a.identity.add (4 + m) :=
      fun m => Address.add_add a.identity 4 m
    have hrest : cpu'.mmu.memory.Carries (a.identity.add (Bits.bytes w).length)
        (words.flatMap Bits.bytes) := by
      rw [hlength]
      exact hcarries
    refine ⟨hreal', hcapacity.trans hcapacity₁, ?_, ?_⟩
    . rw [List.flatMap_cons]
      refine Memory.Carries.append (hcarries₁.congr hcapacity ?_) hrest
      -- The words that follow do not come round to this one.
      intro n hn
      rw [hlength] at hn
      apply hother
      intro m hm heq
      rw [hnext] at heq
      have hlt : n < 4294967296 := by omega
      have hlt' : 4 + m < 4294967296 := by omega
      have hsame : n = 4 + m := Address.add_injective hlt hlt' heq
      omega
    . intro q hq
      rw [List.length_cons] at hq
      rw [hother q, hother₁ q]
      . intro n hn
        exact hq n (by omega)
      . intro m hm
        rw [hnext]
        exact hq (4 + m) (by omega)

theorem drop_flatMap_bytes (words : List Word) (n : Nat)
    : (words.flatMap Bits.bytes).drop (4 * n) = (words.drop n).flatMap Bits.bytes := by
  induction n generalizing words with
  | zero => rfl
  | succ n ih =>
    cases words with
    | nil => simp
    | cons w words =>
      rw [List.flatMap_cons, Nat.mul_succ, Nat.add_comm, ← List.drop_drop]
      exact ih words

theorem code_of_carries {a : VirtualAddress} {words : List Word} (hreal : cpu.mmu.paging = false)
    (h : cpu.mmu.memory.Carries a.identity (words.flatMap Bits.bytes)) {n : Nat} {w : Word}
    (hw : words[n]? = some w) : cpu.code (a.add (4 * n)) = .ok w := by
  have hrest := h.drop (4 * n)
  obtain ⟨hn, rfl⟩ := List.getElem?_eq_some_iff.mp hw
  rw [drop_flatMap_bytes, List.drop_eq_getElem_cons hn, List.flatMap_cons] at hrest
  exact Mmu.peek_of_real hreal hrest

theorem load_eq_ok_iff {p : Program} {segment : Option (AddressRange .virtual)}
    : load p cpu = .ok segment cpu'
        ↔
      ∃ before, writeWords (cpu.kernelContext .write) p.origin p.words cpu = .ok () before
        ∧ segment = p.segment
        ∧ cpu' = { before with regs := { before.regs with eip := p.origin } } := by
  unfold load
  rw [Action.get_bind_apply, Action.bind_eq_ok_iff]
  constructor
  . rintro ⟨u, before, hwrite, hdone⟩
    cases hdone
    exact ⟨before, hwrite, rfl, rfl⟩
  . rintro ⟨before, hwrite, rfl, rfl⟩
    exact ⟨(), before, hwrite, rfl⟩

theorem code_of_load {p : Program} {segment : Option (AddressRange .virtual)}
    (hsize : p.byteSize ≤ Bits.bound 32) (hreal : cpu.mmu.paging = false) (h : load p cpu = .ok segment cpu')
    {cpu₁ : Cpu} (hmmu : cpu₁.mmu = cpu'.mmu) {n : Nat} {w : Word} (hw : p.words[n]? = some w)
    : cpu₁.code (p.origin.add (4 * n)) = .ok w := by
  have haccess : (cpu.kernelContext .write).access = .write := rfl
  obtain ⟨before, hwrite, -, rfl⟩ := load_eq_ok_iff.mp h
  obtain ⟨hreal₀, -, hcarries, -⟩ := carries_of_writeWords haccess hsize hreal hwrite
  replace hmmu : cpu₁.mmu = before.mmu := hmmu
  rw [← hmmu] at hreal₀ hcarries
  exact code_of_carries hreal₀ hcarries hw

end Cpu

end Triword
