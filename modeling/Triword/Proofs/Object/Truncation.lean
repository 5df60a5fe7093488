import Mathlib.Data.List.Sort
import Triword.Proofs.Object.Binary

/-!
What is left of an object file when its end is lost. The bytes of a block tell where the block ends, so the same
bytes are never those of other blocks, and a shorter file that can still be read holds the first blocks and nothing
of the next one: the code is the same, and the labels are the first ones.
-/

namespace Triword

namespace LabelTable

variable {t t' : LabelTable} {bindings : List (String × VirtualAddress)}

def Precedes (x y : String × VirtualAddress) : Prop :=
  compare x.1 y.1 = .lt

instance : Std.Irrefl Precedes where
  irrefl x h := by
    unfold Precedes at h
    rw [Std.compare_self] at h
    cases h

instance : Std.Antisymm Precedes where
  antisymm x y h h' := by
    unfold Precedes at h h'
    rw [Std.OrientedOrd.eq_swap, h'] at h
    cases h

theorem pairwise_toList (t : LabelTable) : t.toList.Pairwise Precedes := by
  exact Std.ExtTreeMap.ordered_keys_toList

theorem toList_of_ofList? (hordered : bindings.Pairwise Precedes) (h : ofList? bindings = some t)
    : t.toList = bindings := by
  apply List.Pairwise.eq_of_mem_iff t.pairwise_toList hordered
  rintro ⟨name, a⟩
  rw [mem_toList_iff, (ofList?_eq_some_iff.mp h).2]

theorem ext_toList (h : t.toList = t'.toList) : t = t' := by
  have hmade : ofList? t.toList = some t' := h ▸ t'.ofList?_toList
  exact Option.some.inj (t.ofList?_toList.symm.trans hmade)

end LabelTable

namespace Object

variable {p q : Program} {bs : List Block}

theorem eq_blocks_of_prefix (hbegin : bs <+: blocks p) (h : ofBlocks? bs = some q)
    : bs = blocks q ∧ q.origin = p.origin ∧ q.words = p.words ∧ q.labels.toList <+: p.labels.toList := by
  obtain ⟨hcode, hlabels⟩ := ofBlocks?_eq_some_iff.mp h
  unfold blocks at hbegin
  rcases List.prefix_cons_iff.mp hbegin with rfl | ⟨rest, rfl, hrest⟩
  . cases hcode
  obtain ⟨labels, hfirst, rfl⟩ := List.prefix_map_iff.mp hrest
  replace hlabels : LabelTable.ofList? labels = some q.labels :=
    (congrArg LabelTable.ofList? (bindings_labels labels)).symm.trans hlabels
  have htoList : q.labels.toList = labels :=
    LabelTable.toList_of_ofList? (p.labels.pairwise_toList.sublist hfirst.sublist) hlabels
  rw [List.filterMap_cons, filterMap_code?_labels] at hcode
  obtain ⟨horigin, hwords⟩ := Prod.mk.inj (List.singleton_inj.mp hcode)
  unfold blocks
  rw [htoList, horigin, hwords]
  exact ⟨rfl, rfl, rfl, hfirst⟩

namespace Binary

theorem ne_nil_of_spells {b : Block} {piece : List Byte} (h : Spells b piece) : piece ≠ [] := by
  cases h with
  | code => exact List.cons_ne_nil _ _
  | label => exact List.cons_ne_nil _ _

/-- Bytes begin with one block only, and tell where it ends. -/
theorem append_inj_of_spells {b c : Block} {piece piece' rest rest' : List Byte} (h : Spells b piece)
    (h' : Spells c piece') (happend : piece ++ rest = piece' ++ rest')
    : b = c ∧ piece = piece' ∧ rest = rest' := by
  have hread : readBlock? (piece ++ rest) = some (b, rest) := readBlock?_eq_some_iff.mpr ⟨piece, h, rfl⟩
  have hread' : readBlock? (piece ++ rest) = some (c, rest') :=
    readBlock?_eq_some_iff.mpr ⟨piece', h', happend⟩
  obtain ⟨rfl, rfl⟩ := Prod.mk.inj (Option.some.inj (hread.symm.trans hread'))
  exact ⟨rfl, List.append_cancel_right happend, rfl⟩

theorem prefix_of_flatten_prefix {bs cs : List Block} {pieces pieces' : List (List Byte)}
    (h : List.Forall₂ Spells bs pieces) (h' : List.Forall₂ Spells cs pieces')
    (hbegin : pieces.flatten <+: pieces'.flatten) : bs <+: cs ∧ pieces <+: pieces' := by
  -- On the shorter file: its first block ends where that of the longer one does.
  induction h generalizing cs pieces' with
  | nil => exact ⟨List.nil_prefix, List.nil_prefix⟩
  | cons hb _ ih =>
    obtain ⟨rest, hrest⟩ := hbegin
    rw [List.flatten_cons, List.append_assoc] at hrest
    cases h' with
    | nil => cases ne_nil_of_spells hb (List.append_eq_nil_iff.mp hrest).1
    | cons hc h' =>
      obtain ⟨rfl, rfl, heq⟩ := append_inj_of_spells hb hc hrest
      obtain ⟨hblocks, hpieces⟩ := ih h' ⟨rest, heq⟩
      exact ⟨(List.prefix_cons_inj _).mpr hblocks, (List.prefix_cons_inj _).mpr hpieces⟩

theorem write_eq_flatten (p : Program) : write p = mark ++ version ++ ((blocks p).map writeBlock).flatten := by
  unfold write
  rw [List.flatMap_def]

theorem read?_write {p : Program} (hfits : ∀ b ∈ blocks p, Fits b) : read? (write p) = some p := by
  rw [read?_eq_some_iff]
  exact ⟨blocks p, _, write_eq_flatten p, spells_map_writeBlock hfits, ofBlocks?_blocks p⟩

theorem read?_of_prefix {p q : Program} (hfits : ∀ b ∈ blocks p, Fits b) {bs : List Byte}
    (hbegin : bs <+: write p) (h : read? bs = some q)
    : bs = write q ∧ q.origin = p.origin ∧ q.words = p.words ∧ q.labels.toList <+: p.labels.toList := by
  obtain ⟨cs, pieces, rfl, hpieces, hq⟩ := read?_eq_some_iff.mp h
  rw [write_eq_flatten, List.prefix_append_right_inj] at hbegin
  obtain ⟨hblocks, hbytes⟩ := prefix_of_flatten_prefix hpieces (spells_map_writeBlock hfits) hbegin
  obtain ⟨rfl, hsame⟩ := eq_blocks_of_prefix hblocks hq
  -- There are as many pieces as blocks, so they are the first of those that were written.
  have hlength : pieces.length = ((blocks q).map writeBlock).length := by
    rw [List.length_map, hpieces.length_eq]
  have hwritten : pieces = (blocks q).map writeBlock :=
    (List.prefix_of_prefix_length_le hbytes (hblocks.map writeBlock) hlength.le).eq_of_length hlength
  rw [write_eq_flatten, hwritten]
  exact ⟨rfl, hsame⟩

/--
Words and names of a program can be counted in its object file, and the end of the file is lost. Then a program is read
exactly if the bytes that are left are the object file of that program, and it has the same origin and the same words,
and of the labels the first ones but not all.
-/
theorem read?_of_truncated_eq_some_iff {p : Program} (hwords : p.words.length < Bits.bound 32)
    (hnames : ∀ name a, p.labels.lookup? name = some a → (Text.utf8 name).length < Bits.bound 64)
    {bs : List Byte} (hbegin : bs <+: write p) (hne : bs ≠ write p) (q : Program)
    : read? bs = some q
        ↔
      bs = write q
        ∧ q.origin = p.origin
        ∧ q.words = p.words
        ∧ q.labels.toList <+: p.labels.toList
        ∧ q.labels.toList ≠ p.labels.toList := by
  constructor
  . intro h
    obtain ⟨rfl, horigin, hwords', hlabels⟩ := read?_of_prefix (fits_blocks hwords hnames) hbegin h
    refine ⟨rfl, horigin, hwords', hlabels, ?_⟩
    intro hall
    apply hne
    obtain ⟨origin, words, labels⟩ := p
    obtain ⟨origin', words', labels'⟩ := q
    obtain rfl : labels' = labels := LabelTable.ext_toList hall
    obtain rfl : origin' = origin := horigin
    obtain rfl : words' = words := hwords'
    rfl
  . rintro ⟨rfl, _, hwords', hlabels, _⟩
    apply read?_write
    apply fits_blocks (hwords' ▸ hwords)
    intro name a hlookup
    apply hnames name a
    exact LabelTable.mem_toList_iff.mp (hlabels.subset (LabelTable.mem_toList_iff.mpr hlookup))

def lessNamed : Program where
  origin := oddlyNamed.origin
  words := oddlyNamed.words
  labels := ⟨.ofList [("", (⟨0⟩ : VirtualAddress)), ("// \n", ⟨0xFFFFFFFF⟩)]⟩

theorem read?_of_truncated_oddlyNamed
    : oddlyNamed.words.length < Bits.bound 32
        ∧ (∀ name a, oddlyNamed.labels.lookup? name = some a → (Text.utf8 name).length < Bits.bound 64)
        ∧ write lessNamed <+: write oddlyNamed
        ∧ write lessNamed ≠ write oddlyNamed
        ∧ read? (write lessNamed) = some lessNamed := by
  have hwords : oddlyNamed.words.length < Bits.bound 32 := by decide
  have hlabels : ∀ x ∈ oddlyNamed.labels.toList, (Text.utf8 x.1).length < Bits.bound 64 := by decide +kernel
  have hnames : ∀ name a, oddlyNamed.labels.lookup? name = some a
      → (Text.utf8 name).length < Bits.bound 64 :=
    fun name a h => hlabels (name, a) (LabelTable.mem_toList_iff.mpr h)
  have hbegin : write lessNamed <+: write oddlyNamed := by decide +kernel
  have hne : write lessNamed ≠ write oddlyNamed := by decide +kernel
  refine ⟨hwords, hnames, hbegin, hne, ?_⟩
  rw [read?_of_truncated_eq_some_iff hwords hnames hbegin hne]
  exact ⟨rfl, rfl, rfl, by decide +kernel, by decide +kernel⟩

end Binary

end Object

end Triword
