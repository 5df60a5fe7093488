import Mathlib.Data.Nat.Digits.Defs
import Mathlib.Data.List.Forall2
import Mathlib.Data.List.Induction
import Triword.Object.Binary
import Triword.Proofs.Bits
import Triword.Proofs.Object.Block
import Triword.Proofs.Text.Utf8

/-!
Object files as bytes. Reading accepts what is laid out as the format says and nothing else: the mark, the
version, and pieces each of which spells a block. What is written is laid out in this way, so every program
is found again in its object file.
-/

namespace Triword

namespace Object

namespace Binary

/-! ### Numbers -/

def value (bs : List Byte) : Nat :=
  Nat.ofDigits 256 (bs.reverse.map BitVec.toNat)

theorem value_concat (bs : List Byte) (b : Byte) : value (bs ++ [b]) = value bs * 256 + b.toNat := by
  unfold value
  rw [List.reverse_append, List.reverse_singleton, List.singleton_append, List.map_cons, Nat.ofDigits_cons]
  exact (Nat.add_comm ..).trans (congrArg (· + b.toNat) (Nat.mul_comm ..))

theorem readNumber_eq_value (bs : List Byte) : readNumber bs = value bs := by
  induction bs using List.reverseRecOn with
  | nil => rfl
  | append_singleton bs b ih =>
    unfold readNumber at ih ⊢
    rw [List.foldl_append, ih, value_concat]
    rfl

theorem length_writeNumber (count n : Nat) : (writeNumber count n).length = count := by
  unfold writeNumber
  rw [List.length_map, List.length_reverse, List.length_range]

theorem writeNumber_succ (count n : Nat)
    : writeNumber (count + 1) n = writeNumber count (n / 256) ++ [BitVec.ofNat 8 n] := by
  have hshift : ∀ i, n >>> (8 * (i + 1)) = (n / 256) >>> (8 * i) := by
    intro i
    rw [Nat.mul_succ, Nat.add_comm, Nat.shiftRight_add, Nat.shiftRight_eq_div_pow n 8]
  unfold writeNumber
  rw [List.range_succ_eq_map, List.reverse_cons, List.map_append, List.map_reverse, List.map_reverse,
    List.map_map]
  simp only [Function.comp_def, hshift]
  rfl

theorem value_writeNumber {count n : Nat} (h : n < Nat.pow 256 count) : value (writeNumber count n) = n := by
  -- On the number of bytes, from the last one, whose place holds the remainder.
  induction count generalizing n with
  | zero =>
    have hzero : n < 1 := h
    rw [Nat.lt_one_iff.mp hzero]
    rfl
  | succ count ih =>
    have hquotient : n / 256 < Nat.pow 256 count := Nat.div_lt_of_lt_mul ((Nat.mul_comm _ _).symm ▸ h)
    rw [writeNumber_succ, value_concat, ih hquotient, BitVec.toNat_ofNat]
    exact Nat.div_add_mod' n 256

/-! ### Parts -/

theorem take?_eq_some_iff {count : Nat} {bs taken rest : List Byte}
    : take? count bs = some (taken, rest) ↔ taken.length = count ∧ bs = taken ++ rest := by
  unfold take?
  constructor
  . intro h
    split at h
    . next hle =>
      rw [Option.some.injEq, List.splitAt_eq, Prod.mk.injEq] at h
      obtain ⟨rfl, rfl⟩ := h
      exact ⟨List.length_take_of_le hle, (List.take_append_drop count bs).symm⟩
    . cases h
  . rintro ⟨rfl, rfl⟩
    rw [if_pos (by simp), List.splitAt_eq, List.take_left, List.drop_left]

theorem skip?_eq_some_iff {expected bs rest : List Byte}
    : skip? expected bs = some rest ↔ bs = expected ++ rest := by
  unfold skip?
  constructor
  . intro h
    split at h
    . next hstart =>
      obtain ⟨tail, rfl⟩ := List.isPrefixOf_iff_prefix.mp hstart
      cases h
      rw [List.drop_left]
    . cases h
  . rintro rfl
    rw [if_pos (List.isPrefixOf_iff_prefix.mpr (List.prefix_append _ _)), List.drop_left]

theorem bytes_ofBytes {bs : List Byte} (h : bs.length = 4) : Bits.bytes (Bits.ofBytes bs) = bs := by
  match bs, h with
  | [a, b, c, d], _ => rw [Bits.ofBytes_four, Bits.bytes_append]

theorem readWords_flatMap_bytes (words : List Word) : readWords (words.flatMap Bits.bytes) = words := by
  induction words with
  | nil => rfl
  | cons w words ih =>
    show Bits.ofBytes (Bits.bytes w) :: readWords (words.flatMap Bits.bytes) = _
    rw [Bits.ofBytes_bytes, ih]

theorem exists_words {bs : List Byte} {n : Nat} (h : bs.length = 4 * n)
    : ∃ words : List Word, words.length = n ∧ bs = words.flatMap Bits.bytes := by
  induction n generalizing bs with
  | zero => exact ⟨[], rfl, List.eq_nil_of_length_eq_zero h⟩
  | succ n ih =>
    have hrest : (bs.drop 4).length = 4 * n := by
      rw [List.length_drop]
      omega
    obtain ⟨words, hlength, hwords⟩ := ih hrest
    have hfirst : (bs.take 4).length = 4 := by
      rw [List.length_take]
      omega
    refine ⟨Bits.ofBytes (bs.take 4) :: words, congrArg Nat.succ hlength, ?_⟩
    rw [List.flatMap_cons, bytes_ofBytes hfirst, ← hwords, List.take_append_drop]

/-! ### Blocks -/

/-- How a block is laid out: its tag, its numbers in four or eight bytes, and what they count. -/
inductive Spells : Block → List Byte → Prop where
  | code (origin : VirtualAddress) {words : List Word} {count : List Byte} (hlength : count.length = 4)
      (hcount : value count = words.length)
      : Spells (.code origin words) (codeTag :: (Bits.bytes origin.word ++ count ++ words.flatMap Bits.bytes))
  | label {name : String} (address : VirtualAddress) {count : List Byte} (hlength : count.length = 8)
      (hcount : value count = (Text.utf8 name).length)
      : Spells (.label name address) (labelTag :: (Bits.bytes address.word ++ count ++ Text.utf8 name))

theorem readBlock?_codeTag_eq_some_iff {bs rest : List Byte} {b : Block}
    : readBlock? (codeTag :: bs) = some (b, rest)
        ↔
      ∃ origin count data, bs = origin ++ (count ++ (data ++ rest))
        ∧ origin.length = 4
        ∧ count.length = 4
        ∧ data.length = 4 * value count
        ∧ b = .code ⟨Bits.ofBytes origin⟩ (readWords data) := by
  unfold readBlock?
  dsimp only
  rw [if_pos rfl]
  simp only [Option.bind_eq_bind, Option.bind_eq_some_iff, Prod.exists, take?_eq_some_iff,
    readNumber_eq_value, Option.pure_def, Option.some.injEq, Prod.mk.injEq]
  constructor
  . rintro ⟨origin, _, ⟨horigin, rfl⟩, count, _, ⟨hcount, rfl⟩, data, _, ⟨hdata, rfl⟩, rfl, rfl⟩
    exact ⟨origin, count, data, rfl, horigin, hcount, hdata, rfl⟩
  . rintro ⟨origin, count, data, rfl, horigin, hcount, hdata, rfl⟩
    exact ⟨origin, _, ⟨horigin, rfl⟩, count, _, ⟨hcount, rfl⟩, data, _, ⟨hdata, rfl⟩, rfl, rfl⟩

theorem readBlock?_labelTag_eq_some_iff {bs rest : List Byte} {b : Block}
    : readBlock? (labelTag :: bs) = some (b, rest)
        ↔
      ∃ address count name, bs = address ++ (count ++ (Text.utf8 name ++ rest))
        ∧ address.length = 4
        ∧ count.length = 8
        ∧ (Text.utf8 name).length = value count
        ∧ b = .label name ⟨Bits.ofBytes address⟩ := by
  unfold readBlock?
  dsimp only
  rw [if_neg (by decide), if_pos rfl]
  simp only [Option.bind_eq_bind, Option.bind_eq_some_iff, Prod.exists, take?_eq_some_iff,
    readNumber_eq_value, Text.ofUtf8?_eq_some_iff, Option.pure_def, Option.some.injEq, Prod.mk.injEq]
  constructor
  . rintro ⟨address, _, ⟨haddress, rfl⟩, count, _, ⟨hcount, rfl⟩, _, _, ⟨htext, rfl⟩, name, rfl, rfl, rfl⟩
    exact ⟨address, count, name, rfl, haddress, hcount, htext, rfl⟩
  . rintro ⟨address, count, name, rfl, haddress, hcount, htext, rfl⟩
    exact ⟨address, _, ⟨haddress, rfl⟩, count, _, ⟨hcount, rfl⟩, _, _, ⟨htext, rfl⟩, name, rfl, rfl, rfl⟩

/-- A block is read where it is spelled, and nowhere else. -/
theorem readBlock?_eq_some_iff {bs rest : List Byte} {b : Block}
    : readBlock? bs = some (b, rest) ↔ ∃ piece, Spells b piece ∧ bs = piece ++ rest := by
  constructor
  . intro h
    cases bs with
    | nil => cases h
    | cons tag bs =>
      by_cases hcode : tag = codeTag
      . subst hcode
        obtain ⟨origin, count, data, rfl, horigin, hcount, hdata, rfl⟩ :=
          readBlock?_codeTag_eq_some_iff.mp h
        -- As many bytes as the count says can be cut into words, so nothing is left over.
        obtain ⟨words, hwords, rfl⟩ := exists_words hdata
        rw [readWords_flatMap_bytes]
        refine ⟨_, .code ⟨Bits.ofBytes origin⟩ hcount hwords.symm, ?_⟩
        simp only [bytes_ofBytes horigin, List.cons_append, List.append_assoc]
      by_cases hlabel : tag = labelTag
      . subst hlabel
        obtain ⟨address, count, name, rfl, haddress, hcount, htext, rfl⟩ :=
          readBlock?_labelTag_eq_some_iff.mp h
        refine ⟨_, .label ⟨Bits.ofBytes address⟩ hcount htext.symm, ?_⟩
        simp only [bytes_ofBytes haddress, List.cons_append, List.append_assoc]
      . unfold readBlock? at h
        dsimp only at h
        rw [if_neg hcode, if_neg hlabel] at h
        cases h
  . rintro ⟨piece, hspells, rfl⟩
    cases hspells with
    | @code origin words count hlength hcount =>
      rw [List.cons_append, List.append_assoc, List.append_assoc, readBlock?_codeTag_eq_some_iff]
      refine ⟨_, count, _, rfl, rfl, hlength, ?_, ?_⟩
      . rw [Bits.length_flatMap_bytes, hcount]
      . rw [Bits.ofBytes_bytes, readWords_flatMap_bytes]
    | @label name address count hlength hcount =>
      rw [List.cons_append, List.append_assoc, List.append_assoc, readBlock?_labelTag_eq_some_iff]
      refine ⟨_, count, name, rfl, rfl, hlength, hcount.symm, ?_⟩
      rw [Bits.ofBytes_bytes]

theorem readBlocks?_nil : readBlocks? [] = some [] := by
  unfold readBlocks?
  rfl

theorem readBlocks?_of_readBlock? {bs rest : List Byte} {b : Block} (h : readBlock? bs = some (b, rest))
    : readBlocks? bs = (readBlocks? rest).map (b :: ·) := by
  have hne : bs.isEmpty = false := by
    cases bs with
    | nil => cases h
    | cons tag bs => rfl
  rw [readBlocks?, hne, if_neg (by decide)]
  split
  . next b' rest' h' =>
    rw [h] at h'
    cases h'
    rfl
  . next h' =>
    rw [h] at h'
    cases h'

theorem readBlocks?_eq_some_iff {bs : List Byte} {blocks : List Block}
    : readBlocks? bs = some blocks ↔ ∃ pieces, List.Forall₂ Spells blocks pieces ∧ bs = pieces.flatten := by
  constructor
  . intro h
    -- The bytes get fewer with each block; the induction is that of the reading itself.
    induction bs using readBlocks?.induct generalizing blocks with
    | case1 bs hempty =>
      obtain rfl := List.isEmpty_iff.mp hempty
      rw [readBlocks?_nil] at h
      cases h
      exact ⟨[], .nil, rfl⟩
    | case2 bs hne b rest hblock ih =>
      rw [readBlocks?_of_readBlock? hblock] at h
      obtain ⟨blocks, hblocks, rfl⟩ := Option.map_eq_some_iff.mp h
      obtain ⟨piece, hspells, rfl⟩ := readBlock?_eq_some_iff.mp hblock
      obtain ⟨pieces, hpieces, rfl⟩ := ih hblocks
      exact ⟨piece :: pieces, .cons hspells hpieces, rfl⟩
    | case3 bs hne hblock =>
      rw [readBlocks?] at h
      rw [if_neg hne] at h
      split at h
      . next h' =>
        rw [hblock] at h'
        cases h'
      . cases h
  . rintro ⟨pieces, hpieces, rfl⟩
    induction hpieces with
    | nil => exact readBlocks?_nil
    | cons hspells _ ih =>
      rw [List.flatten_cons, readBlocks?_of_readBlock? (readBlock?_eq_some_iff.mpr ⟨_, hspells, rfl⟩), ih]
      rfl

/-! ### Files -/

theorem read?_eq_some_iff {bs : List Byte} {p : Program}
    : read? bs = some p
        ↔
      ∃ blocks pieces, bs = mark ++ version ++ pieces.flatten
        ∧ List.Forall₂ Spells blocks pieces
        ∧ ofBlocks? blocks = some p := by
  unfold read?
  simp only [Option.bind_eq_bind, Option.bind_eq_some_iff, skip?_eq_some_iff, readBlocks?_eq_some_iff]
  constructor
  . rintro ⟨_, rfl, blocks, ⟨pieces, hpieces, rfl⟩, hp⟩
    exact ⟨blocks, pieces, rfl, hpieces, hp⟩
  . rintro ⟨blocks, pieces, rfl, hpieces, hp⟩
    exact ⟨_, rfl, blocks, ⟨pieces, hpieces, rfl⟩, hp⟩

def Fits : Block → Prop
  | .code _ words => words.length < Bits.bound 32
  | .label name _ => (Text.utf8 name).length < Bits.bound 64

theorem spells_writeBlock {b : Block} (h : Fits b) : Spells b (writeBlock b) := by
  cases b with
  | code origin words => exact .code origin (length_writeNumber ..) (value_writeNumber h)
  | label name address => exact .label address (length_writeNumber ..) (value_writeNumber h)

theorem spells_map_writeBlock {blocks : List Block} (h : ∀ b ∈ blocks, Fits b)
    : List.Forall₂ Spells blocks (blocks.map writeBlock) := by
  rw [List.forall₂_map_right_iff, List.forall₂_same]
  exact fun b hb => spells_writeBlock (h b hb)

theorem fits_blocks {p : Program} (hwords : p.words.length < Bits.bound 32)
    (hnames : ∀ name a, p.labels.lookup? name = some a → (Text.utf8 name).length < Bits.bound 64)
    : ∀ b ∈ blocks p, Fits b := by
  unfold blocks
  rw [List.forall_mem_cons, List.forall_mem_map]
  refine ⟨hwords, ?_⟩
  rintro ⟨name, a⟩ hmem
  exact hnames name a (LabelTable.mem_toList_iff.mp hmem)

/--
A program whose words and names can be counted in the file is found again in its object file. Bytes are an
object file exactly if they are the mark, the version and blocks laid out one after the other, one of them
code and no two of them the same label.
-/
theorem read?_write_and_isSome_read?_iff
    : (∀ p : Program, p.words.length < Bits.bound 32
        → (∀ name a, p.labels.lookup? name = some a → (Text.utf8 name).length < Bits.bound 64)
        → read? (write p) = some p)
      ∧ ∀ bs, (read? bs).isSome
        ↔
      ∃ blocks pieces, bs = mark ++ version ++ pieces.flatten
        ∧ List.Forall₂ Spells blocks pieces
        ∧ (blocks.filterMap Block.code?).length = 1
        ∧ ((blocks.filterMap Block.label?).map Prod.fst).Nodup := by
  constructor
  . intro p hwords hnames
    rw [read?_eq_some_iff]
    refine ⟨blocks p, (blocks p).map writeBlock, rfl, ?_, ofBlocks?_blocks p⟩
    exact spells_map_writeBlock (fits_blocks hwords hnames)
  . intro bs
    simp only [Option.isSome_iff_exists, read?_eq_some_iff]
    constructor
    . rintro ⟨p, blocks, pieces, hbs, hpieces, hp⟩
      obtain ⟨hcode, hlabels⟩ := isSome_ofBlocks?_iff.mp (Option.isSome_iff_exists.mpr ⟨p, hp⟩)
      exact ⟨blocks, pieces, hbs, hpieces, hcode, hlabels⟩
    . rintro ⟨blocks, pieces, hbs, hpieces, hcode, hlabels⟩
      obtain ⟨p, hp⟩ := Option.isSome_iff_exists.mp (isSome_ofBlocks?_iff.mpr ⟨hcode, hlabels⟩)
      exact ⟨p, blocks, pieces, hbs, hpieces, hp⟩

/-- A program at the end of the space, whose labels are nothing that a source text could declare. -/
def oddlyNamed : Program where
  origin := ⟨0xFFFFFFFE⟩
  words := [0x12345678, 0]
  labels := ⟨.ofList [("", (⟨0⟩ : VirtualAddress)), ("// \n", ⟨0xFFFFFFFF⟩), ("größe | ", ⟨7⟩)]⟩

def labelFirst : List Byte :=
  mark ++ version ++ [0x01, 0, 0, 0, 5, 0, 0, 0, 0, 0, 0, 0, 2, 0xC3, 0xB6] ++ [0x00, 1, 2, 3, 4, 0, 0, 0, 0]

theorem read?_of_oddlyNamed
    : oddlyNamed.words.length < Bits.bound 32
        ∧ (∀ name a, oddlyNamed.labels.lookup? name = some a → (Text.utf8 name).length < Bits.bound 64)
        ∧ read? (write oddlyNamed) = some oddlyNamed
        ∧ (read? labelFirst).isSome := by
  have hwords : oddlyNamed.words.length < Bits.bound 32 := by decide
  have hlabels : ∀ x ∈ oddlyNamed.labels.toList, (Text.utf8 x.1).length < Bits.bound 64 := by decide +kernel
  have hnames : ∀ name a, oddlyNamed.labels.lookup? name = some a
      → (Text.utf8 name).length < Bits.bound 64 :=
    fun name a h => hlabels (name, a) (LabelTable.mem_toList_iff.mpr h)
  refine ⟨hwords, hnames, read?_write_and_isSome_read?_iff.1 oddlyNamed hwords hnames, ?_⟩
  rw [read?_write_and_isSome_read?_iff.2]
  have hfits : ∀ b ∈ [Block.label "ö" ⟨5⟩, .code ⟨0x01020304⟩ []], Fits b := by
    simp only [List.forall_mem_cons, List.not_mem_nil, false_imp_iff, implies_true, and_true]
    constructor
    . show (Text.utf8 "ö").length < Bits.bound 64
      decide +kernel
    . show 0 < Bits.bound 32
      decide
  exact ⟨_, _, by decide +kernel, spells_map_writeBlock hfits, by decide, by decide⟩

end Binary

end Object

end Triword
