import Triword.Object.Listing
import Triword.Proofs.Assembly.Labels
import Triword.Proofs.Bits
import Triword.Proofs.Language.Lines
import Triword.Proofs.Object.Block
import Triword.Proofs.Text.Lines
import Triword.Proofs.Text.Numeral
import Triword.Proofs.Text.Occurrence

/-!
Object files as text. The reader sees the lines that hold something, and finds a program again in what was
written if each of its labels can stand at the end of a line as it is. No other label is ever read.
-/

namespace Triword

namespace Object

namespace Listing

variable {p : Program} {text : String}

/-! ### Rows -/

/-- What a line is that the reader sees: it holds something, no comment, and no blank at its end. -/
structure IsRow (l : List Char) : Prop where
  nonempty : l ≠ []
  oneLine : '\n' ∉ l
  noComment : ¬['/', '/'] <:+: l
  last : ∀ c ∈ l.getLast?, Text.isBlank c = false

/-- What a label is that can stand in a table: a row that does not begin with a blank. -/
structure IsPlain (label : List Char) : Prop extends IsRow label where
  first : ∀ c ∈ label.head?, Text.isBlank c = false

theorem isRow_of_not_mem {l : List Char} (hne : l ≠ []) (hfeed : '\n' ∉ l) (hslash : '/' ∉ l)
    (htrim : Text.trimEndList l = l)
    : IsRow l where
  nonempty := hne
  oneLine := hfeed
  noComment := fun h => hslash (h.mem List.mem_cons_self)
  last := Text.trimEndList_eq_self_iff.mp htrim

theorem isPlain_iff {label : List Char}
    : IsPlain label
        ↔
      label ≠ [] ∧ '\n' ∉ label ∧ ¬Text.occursIn ['/', '/'] label ∧ Text.trimList label = label := by
  rw [Text.occursIn_iff, Text.trimList_eq_self_iff]
  constructor
  . exact fun ⟨⟨hne, hfeed, hslashes, hlast⟩, hfirst⟩ => ⟨hne, hfeed, hslashes, hfirst, hlast⟩
  . exact fun ⟨hne, hfeed, hslashes, hfirst, hlast⟩ => ⟨⟨hne, hfeed, hslashes, hlast⟩, hfirst⟩

instance (label : List Char) : Decidable (IsPlain label) :=
  decidable_of_iff _ isPlain_iff.symm

theorem content_eq_self {l : List Char} (h : IsRow l) : content l = l := by
  unfold content
  rw [Text.takeBefore_eq_self h.noComment, Text.trimEndList_eq_self_iff]
  exact h.last

theorem isRow_content {l : List Char} (hline : '\n' ∉ l) (hne : content l ≠ []) : IsRow (content l) := by
  have hbegin : content l <+: Text.takeBefore ['/', '/'] l := Text.trimEndList_prefix_self _
  constructor
  . exact hne
  . exact fun h => hline ((hbegin.trans (Text.takeBefore_prefix_self _ l)).mem h)
  . exact fun h => Text.not_infix_takeBefore (by decide) l (h.trans hbegin.isInfix)
  . exact fun c hc => Text.getLast?_trimEndList hc

theorem content_concat (l : List Char) (c : Char) (hc : Text.isBlank c = true)
    : content (l ++ [c]) = content l := by
  have hslash : c ∉ ['/', '/'] := by
    rintro h
    obtain rfl : c = '/' := by simpa using h
    exact absurd hc (by decide)
  unfold content
  obtain h | h := Text.takeBefore_concat hslash (by decide) l
  . rw [h]
  . rw [h, Text.trimEndList_concat hc]

theorem contentLines_eq (text : String)
    : contentLines text = Text.kept content ((Text.trimStartList text.toList).splitOn '\n') :=
  (Text.kept_linesList rfl content_concat _).trans (Text.kept_splitOn_trimEndList rfl content_concat _)

theorem isRow_of_mem_contentLines {l : List Char} (h : l ∈ contentLines text) : IsRow l := by
  rw [contentLines_eq] at h
  obtain ⟨l', hl', rfl, hne⟩ := Text.exists_of_mem_kept h
  exact isRow_content (Text.not_mem_of_mem_splitOn hl') hne

theorem kept_of_rows {ls : List (List Char)} (h : ∀ l ∈ ls, IsRow l) : Text.kept content ls = ls := by
  induction ls with
  | nil => rfl
  | cons l ls ih =>
    obtain ⟨hl, hls⟩ := List.forall_mem_cons.mp h
    rw [Text.kept_cons, content_eq_self hl, if_neg hl.nonempty, ih hls]

theorem exists_contentLines_of_prefix {start : List Char} (hne : start ≠ [])
    (htrim : Text.trimList start = start) (hfeed : '\n' ∉ start) (hslash : '/' ∉ start)
    (hbegin : start <+: text.toList)
    : ∃ l lines, contentLines text = l :: lines ∧ start <+: l := by
  obtain ⟨rest, hrest⟩ := hbegin
  have hstart : Text.trimStartList text.toList = start ++ rest := by
    rw [← hrest, Text.trimStartList_append hne htrim]
  obtain ⟨l, ls, hls⟩ := Text.exists_splitOn_append hfeed rest
  have hcontent : start <+: content (start ++ l) := by
    unfold content
    rw [Text.takeBefore_append hslash]
    exact Text.prefix_trimEndList (Text.trimList_eq_self_iff.mp htrim).2 _
  have hnonempty : content (start ++ l) ≠ [] := by
    intro hnil
    rw [hnil] at hcontent
    exact hne (List.prefix_nil.mp hcontent)
  refine ⟨content (start ++ l), Text.kept content ls, ?_, hcontent⟩
  rw [contentLines_eq, hstart, hls, Text.kept_cons, if_neg hnonempty]

theorem IsRow.append {l : List Char} (h : IsRow l) {start : List Char} (hfeed : '\n' ∉ start)
    (hslash : '/' ∉ start)
    : IsRow (start ++ l) := by
  constructor
  . exact List.append_ne_nil_of_right_ne_nil start h.nonempty
  . rw [List.mem_append, not_or]
    exact ⟨hfeed, h.oneLine⟩
  -- That there is no comment is seen from what the search for one gives.
  . have hself : Text.takeBefore ['/', '/'] (start ++ l) = start ++ l := by
      rw [Text.takeBefore_append hslash, Text.takeBefore_eq_self h.noComment]
    rw [← hself]
    exact Text.not_infix_takeBefore (by decide) (start ++ l)
  . rw [List.getLast?_append_of_ne_nil start h.nonempty]
    exact h.last

theorem isBlank_capitalDigits {c : Char} (h : c ∈ Text.capitalDigits) : Text.isBlank c = false := by
  have hall : (Text.capitalDigits.all fun c => !Text.isBlank c) = true := by decide
  simpa using List.all_eq_true.mp hall c h

theorem isRow_of_capitalDigits {l : List Char} (hne : l ≠ []) (h : ∀ c ∈ l, c ∈ Text.capitalDigits)
    : IsRow l := by
  apply isRow_of_not_mem hne
  . exact Text.not_mem_of_capitalDigits h (by decide)
  . exact Text.not_mem_of_capitalDigits h (by decide)
  . exact Text.trimEndList_eq_self_iff.mpr fun c hc => isBlank_capitalDigits (h c (List.mem_of_mem_getLast? hc))

/-! ### Reading what is written -/

theorem mem_capitalDigits_of_mem_writeAddress {a : VirtualAddress} {c : Char} (h : c ∈ writeAddress a)
    : c ∈ Text.capitalDigits :=
  Text.mem_capitalDigits_of_mem_upperHex h

theorem length_writeAddress (a : VirtualAddress) : (writeAddress a).length = 8 :=
  Text.length_upperHex (by decide) a.word.isLt

theorem mem_capitalDigits_of_mem_toDigits {w : Word} {c : Char} (h : c ∈ (Bits.toDigits w).toList)
    : c ∈ Text.capitalDigits := by
  rw [Bits.toList_toDigits] at h
  obtain ⟨b, -, rfl⟩ := List.mem_map.mp h
  cases b <;> decide

theorem trimList_of_capitalDigits {cs : List Char} (h : ∀ c ∈ cs, c ∈ Text.capitalDigits)
    : Text.trimList cs = cs := by
  rw [Text.trimList_eq_self_iff]
  constructor
  . exact fun c hc => isBlank_capitalDigits (h c (List.mem_of_mem_head? hc))
  . exact fun c hc => isBlank_capitalDigits (h c (List.mem_of_mem_getLast? hc))

theorem readAddress?_writeAddress (a : VirtualAddress) : readAddress? (writeAddress a) = some a := by
  have htrim : Text.trimList (writeAddress a) = writeAddress a :=
    trimList_of_capitalDigits fun c => mem_capitalDigits_of_mem_writeAddress
  have hread : Text.readSigned? 16 (Bits.bound 32) (writeAddress a) = some a.toNat :=
    Text.readSigned?_upperHex 8 a.word.isLt
  unfold readAddress?
  rw [htrim, if_pos (length_writeAddress a), hread, Option.map_some]
  show some (Address.mk (BitVec.ofNat 32 a.word.toNat)) = some a
  rw [BitVec.ofNat_toNat, BitVec.setWidth_eq]

theorem readWord?_toDigits (w : Word) : readWord? (Bits.toDigits w).toList = some w := by
  unfold readWord?
  rw [trimList_of_capitalDigits fun c => mem_capitalDigits_of_mem_toDigits, String.ofList_toList,
    Bits.ofDigits_toDigits]
  rfl

theorem readRow?_append {address label : List Char} (haddress : ∀ c ∈ address, c ∈ Text.capitalDigits)
    (hlabel : IsPlain label)
    : readRow? (address ++ divider ++ label) = some (address, label) := by
  have hsplit : Text.splitAtFirst? divider (address ++ divider ++ label) = some (address, label) :=
    Text.splitAtFirst?_append (Text.not_mem_of_capitalDigits haddress (by decide)) "| ".toList label
  have htrim : Text.trimList label = label := Text.trimList_eq_self_iff.mpr ⟨hlabel.first, hlabel.last⟩
  unfold readRow?
  rw [hsplit, Option.map_some]
  dsimp only
  rw [trimList_of_capitalDigits haddress, htrim]

theorem readLabel?_append (a : VirtualAddress) {name : String} (h : IsPlain name.toList)
    : readLabel? (writeAddress a ++ divider ++ name.toList) = some (.label name a) := by
  unfold readLabel?
  rw [readRow?_append (fun c => mem_capitalDigits_of_mem_writeAddress) h, Option.bind_eq_bind, Option.bind_some]
  dsimp only
  rw [readAddress?_writeAddress, Option.bind_eq_bind, Option.bind_some, String.ofList_toList]
  rfl

theorem mapM_map_eq_some {α β γ : Type} {f : β → Option γ} {g : α → β} {k : α → γ} {l : List α}
    (h : ∀ a ∈ l, f (g a) = some (k a))
    : (l.map g).mapM f = some (l.map k) := by
  induction l with
  | nil => rfl
  | cons a l ih =>
    obtain ⟨ha, hl⟩ := List.forall_mem_cons.mp h
    rw [List.map_cons, List.mapM_cons, ha, ih hl]
    rfl

theorem readCode?_codeLines (origin : VirtualAddress) {words : List Word} (h : words.length < Bits.bound 64)
    : readCode? (codeLines origin words).tail = some [.code origin words] := by
  have hcount : (toString words.length).toList = Nat.toDigits 10 words.length := by
    rw [Nat.toString_eq_ofList_toDigits, String.toList_ofList]
  have htrim : Text.trimList (Nat.toDigits 10 words.length) = Nat.toDigits 10 words.length :=
    trimList_of_capitalDigits fun c => Text.mem_capitalDigits_of_mem_toDigits
  have hwords : (words.map fun w => (Bits.toDigits w).toList).mapM readWord? = some words := by
    rw [mapM_map_eq_some (k := id) fun w _ => readWord?_toDigits w, List.map_id]
  unfold codeLines readCode?
  rw [List.tail_cons]
  dsimp only
  rw [readAddress?_writeAddress, hcount, htrim, Text.readSigned?_toDigits h, hwords, List.length_map]
  simp

theorem readSymbols?_symbolLines {labels : List (String × VirtualAddress)} (hne : labels ≠ [])
    (h : ∀ x ∈ labels, IsPlain x.1.toList)
    : readSymbols? (symbolLines labels).tail
        =
      some (labels.map fun (name, address) => .label name address) := by
  have hheader : readRow? (addressColumn ++ List.replicate 4 ' ' ++ divider ++ labelColumn)
      = some (addressColumn, labelColumn) := rfl
  obtain ⟨x, labels, rfl⟩ := List.exists_cons_of_ne_nil hne
  unfold symbolLines readSymbols?
  rw [List.tail_cons]
  dsimp only
  rw [if_neg (not_not_intro hheader)]
  exact mapM_map_eq_some fun x hx => readLabel?_append x.2 (h x hx)

/-! ### Sections -/

theorem sections_append {rows : List (List Char)} (h : ∀ l ∈ rows, l.head? ≠ some '.')
    (rest : List (List Char))
    : sections (rows ++ rest) = (rows ++ (sections rest).1, (sections rest).2) := by
  induction rows with
  | nil => rfl
  | cons l rows ih =>
    obtain ⟨hl, hrows⟩ := List.forall_mem_cons.mp h
    rw [List.cons_append, sections, ih hrows]
    simp only [if_neg hl, List.cons_append]

theorem sections_cons {name : List Char} (h : name.head? = some '.') (rest : List (List Char))
    : sections (name :: rest) = ([], ⟨name, (sections rest).1⟩ :: (sections rest).2) := by
  rw [sections]
  simp only [if_pos h]

theorem mem_of_mem_sections {lines : List (List Char)} {l : List Char}
    (h : l ∈ (sections lines).1 ∨ ∃ s ∈ (sections lines).2, l ∈ s.rows)
    : l ∈ lines := by
  induction lines with
  | nil =>
    obtain h | ⟨s, hs, -⟩ := h
    . exact h
    . cases hs
  | cons line lines ih =>
    by_cases hdot : line.head? = some '.'
    . rw [sections_cons hdot] at h
      obtain h | ⟨s, hs, hl⟩ := h
      . cases h
      . obtain rfl | hs := List.mem_cons.mp hs
        . exact List.mem_cons_of_mem line (ih (.inl hl))
        . exact List.mem_cons_of_mem line (ih (.inr ⟨s, hs, hl⟩))
    . have hdots : ∀ l ∈ [line], l.head? ≠ some '.' := List.forall_mem_singleton.mpr hdot
      have hline : sections (line :: lines) = (line :: (sections lines).1, (sections lines).2) :=
        sections_append hdots lines
      rw [hline] at h
      obtain h | h := h
      . obtain rfl | h := List.mem_cons.mp h
        . exact List.mem_cons_self
        . exact List.mem_cons_of_mem line (ih (.inl h))
      . exact List.mem_cons_of_mem line (ih (.inr h))

/-! ### Programs -/

theorem read?_eq_some_iff
    : read? text = some p
        ↔
      ∃ lines blocks,
        contentLines text = title :: lines
          ∧ (sections lines).1 = []
          ∧ (sections lines).2.mapM readSection? = some blocks
          ∧ ofBlocks? blocks.flatten = some p := by
  unfold read?
  cases hcontent : contentLines text with
  | nil => simp
  | cons first lines =>
    -- The two ways to be refused before any section is read.
    by_cases hstart : first ≠ title ∨ (sections lines).1 ≠ []
    . simp only [if_pos hstart, List.cons.injEq]
      constructor
      . rintro h
        cases h
      . rintro ⟨lines, blocks, ⟨rfl, rfl⟩, hstray, -⟩
        obtain h | h := hstart
        . exact absurd rfl h
        . exact absurd hstray h
    . simp only [if_neg hstart, Option.bind_eq_bind, Option.bind_eq_some_iff]
      rw [not_or, not_not, not_not] at hstart
      obtain ⟨rfl, hstray⟩ := hstart
      constructor
      . rintro ⟨blocks, hblocks, hp⟩
        exact ⟨lines, blocks, rfl, hstray, hblocks, hp⟩
      . rintro ⟨lines', blocks, hlines, -, hblocks, hp⟩
        cases hlines
        exact ⟨blocks, hblocks, hp⟩

theorem of_mem_codeLines {origin : VirtualAddress} {words : List Word} {l : List Char}
    (h : l ∈ (codeLines origin words).tail)
    : l ≠ [] ∧ ∀ c ∈ l, c ∈ Text.capitalDigits := by
  unfold codeLines at h
  rw [List.tail_cons, List.mem_cons, List.mem_cons, List.mem_map] at h
  -- The cases are not split by equality, which would spell the digits out to compare them.
  obtain h | h | ⟨w, -, h⟩ := h
  . rw [h]
    refine ⟨List.ne_nil_of_length_pos ?_, fun c => mem_capitalDigits_of_mem_writeAddress⟩
    rw [length_writeAddress]
    decide
  . rw [h, Nat.toString_eq_ofList_toDigits, String.toList_ofList]
    exact ⟨Nat.toDigits_ne_nil, fun c => Text.mem_capitalDigits_of_mem_toDigits⟩
  . rw [← h]
    refine ⟨List.ne_nil_of_length_pos ?_, fun c => mem_capitalDigits_of_mem_toDigits⟩
    rw [Bits.toList_toDigits, List.length_map, Bits.length_toBools]
    decide

theorem exists_of_mem_symbolLines {labels : List (String × VirtualAddress)} {l : List Char}
    (h : l ∈ (symbolLines labels).tail)
    : l = addressColumn ++ List.replicate 4 ' ' ++ divider ++ labelColumn
        ∨ ∃ x ∈ labels, l = writeAddress x.2 ++ divider ++ x.1.toList := by
  cases labels with
  | nil => cases h
  | cons x labels =>
    obtain rfl | h := List.mem_cons.mp h
    . exact .inl rfl
    . obtain ⟨x, hx, rfl⟩ := List.mem_map.mp h
      exact .inr ⟨x, hx, rfl⟩

theorem isRow_of_mem_codeLines {origin : VirtualAddress} {words : List Word} {l : List Char}
    (h : l ∈ codeLines origin words)
    : IsRow l := by
  obtain rfl | h := List.mem_cons.mp h
  . exact isRow_of_not_mem (by decide) (by decide) (by decide) (by decide)
  . exact isRow_of_capitalDigits (of_mem_codeLines h).1 (of_mem_codeLines h).2

theorem isRow_of_mem_symbolLines {labels : List (String × VirtualAddress)}
    (hplain : ∀ x ∈ labels, IsPlain x.1.toList) {l : List Char} (h : l ∈ symbolLines labels)
    : IsRow l := by
  have hname : IsRow symbolName := isRow_of_not_mem (by decide) (by decide) (by decide) (by decide)
  have hheader : IsRow (addressColumn ++ List.replicate 4 ' ' ++ divider ++ labelColumn) :=
    isRow_of_not_mem (by decide) (by decide) (by decide) (by decide)
  have hstart : ∀ c ∉ Text.capitalDigits, c ∉ divider → ∀ a, c ∉ writeAddress a ++ divider := by
    intro c hdigits hdivider a h
    obtain h | h := List.mem_append.mp h
    . exact hdigits (mem_capitalDigits_of_mem_writeAddress h)
    . exact hdivider h
  have hfeed : ∀ a, '\n' ∉ writeAddress a ++ divider := hstart '\n' (by decide) (by decide)
  have hslash : ∀ a, '/' ∉ writeAddress a ++ divider := hstart '/' (by decide) (by decide)
  cases labels with
  | nil => cases h
  | cons x labels =>
    obtain rfl | h := List.mem_cons.mp h
    . exact hname
    . have hrow : l ∈ (symbolLines (x :: labels)).tail := h
      obtain h | ⟨x, hx, h⟩ := exists_of_mem_symbolLines hrow
      . rw [h]
        exact hheader
      . rw [h]
        exact (hplain x hx).toIsRow.append (hfeed x.2) (hslash x.2)

theorem toList_write (p : Program)
    : (write p).toList
        =
      ([title] ++ [[]] ++ codeLines p.origin p.words ++ [[]] ++ symbolLines p.labels.toList).flatMap
        (· ++ ['\n']) := by
  unfold write
  rw [String.toList_ofList]
  simp only [List.append_assoc, List.nil_append, List.cons_append]

theorem contentLines_write (h : ∀ x ∈ p.labels.toList, IsPlain x.1.toList)
    : contentLines (write p) = title :: (codeLines p.origin p.words ++ symbolLines p.labels.toList) := by
  have htitle : IsRow title := isRow_of_not_mem (by decide) (by decide) (by decide) (by decide)
  have hcode : ∀ l ∈ codeLines p.origin p.words, IsRow l := fun l => isRow_of_mem_codeLines
  have hsymbols : ∀ l ∈ symbolLines p.labels.toList, IsRow l := fun l => isRow_of_mem_symbolLines h
  have hfeed : ∀ l ∈ [title] ++ [[]] ++ codeLines p.origin p.words ++ [[]] ++ symbolLines p.labels.toList,
      '\n' ∉ l := by
    intro l hl
    simp only [List.mem_append, List.mem_singleton] at hl
    obtain (((rfl | rfl) | hl) | rfl) | hl := hl
    . exact htitle.oneLine
    . exact List.not_mem_nil
    . exact (hcode l hl).oneLine
    . exact List.not_mem_nil
    . exact (hsymbols l hl).oneLine
  have hstart : Text.trimStartList (write p).toList = (write p).toList := by
    have hhead : (write p).toList.head? = some 'S' := by
      have htitle : title.head? = some 'S' := by decide
      rw [toList_write, List.append_assoc, List.append_assoc, List.append_assoc, List.flatMap_append,
        List.flatMap_singleton, List.append_assoc, List.head?_append, htitle]
      rfl
    rw [Text.trimStartList_eq_self_iff, hhead]
    intro c hc
    cases hc
    decide
  have hempty : Text.kept content [[]] = [] := rfl
  have htitle' : Text.kept content [title] = [title] := kept_of_rows (by simpa using htitle)
  rw [contentLines_eq, hstart, toList_write, Text.splitOn_flatMap_concat hfeed, Text.kept_concat_nil rfl]
  simp only [Text.kept_append, kept_of_rows hcode, kept_of_rows hsymbols, htitle', hempty, List.append_nil]
  rfl

theorem head?_ne_of_capitalDigits {l : List Char} (h : ∀ c ∈ l, c ∈ Text.capitalDigits)
    : l.head? ≠ some '.' :=
  fun hhead => Text.not_mem_of_capitalDigits h (by decide) (List.mem_of_mem_head? hhead)

theorem sections_symbolLines {labels : List (String × VirtualAddress)} (h : ∀ x ∈ labels, IsPlain x.1.toList)
    : (sections (symbolLines labels)).1 = []
        ∧ ∃ blocks,
            (sections (symbolLines labels)).2.mapM readSection? = some blocks
              ∧ blocks.flatten = labels.map fun (name, address) => .label name address := by
  by_cases hne : labels = []
  . subst hne
    exact ⟨rfl, [], rfl, rfl⟩
  -- All lines behind the name belong to the section, since none of them begins with a dot.
  . have hcons : symbolLines labels = symbolName :: (symbolLines labels).tail := by
      obtain ⟨x, labels, rfl⟩ := List.exists_cons_of_ne_nil hne
      rfl
    have hrows : ∀ l ∈ (symbolLines labels).tail, l.head? ≠ some '.' := by
      intro l hl
      obtain h | ⟨x, -, h⟩ := exists_of_mem_symbolLines hl
      . rw [h]
        decide
      . obtain ⟨c, cs, hcs⟩ := List.exists_cons_of_length_eq_add_one (length_writeAddress x.2)
        have hhead : (writeAddress x.2).head? ≠ some '.' :=
          head?_ne_of_capitalDigits fun c => mem_capitalDigits_of_mem_writeAddress
        rw [hcs] at hhead
        rw [h, hcs]
        exact hhead
    have hsections : sections (symbolLines labels).tail = ((symbolLines labels).tail, []) := by
      have happend := sections_append hrows []
      rw [List.append_nil] at happend
      rw [happend]
      exact congrArg (·, []) (List.append_nil _)
    have hread : readSection? ⟨symbolName, (symbolLines labels).tail⟩
        = some (labels.map fun (name, address) => .label name address) :=
      readSymbols?_symbolLines hne h
    rw [hcons, sections_cons (by decide), hsections]
    refine ⟨rfl, [labels.map fun (name, address) => .label name address], ?_, List.append_nil _⟩
    rw [List.mapM_cons, hread]
    rfl

theorem read?_write_of_isPlain (hsize : p.words.length < Bits.bound 64)
    (h : ∀ x ∈ p.labels.toList, IsPlain x.1.toList)
    : read? (write p) = some p := by
  obtain ⟨hstray, blocks, hblocks, hflatten⟩ := sections_symbolLines h
  have hcons : codeLines p.origin p.words = codeName :: (codeLines p.origin p.words).tail := rfl
  have hrows : ∀ l ∈ (codeLines p.origin p.words).tail, l.head? ≠ some '.' :=
    fun l hl => head?_ne_of_capitalDigits (of_mem_codeLines hl).2
  have hsections : sections (codeLines p.origin p.words ++ symbolLines p.labels.toList)
      = ([], ⟨codeName, (codeLines p.origin p.words).tail⟩ :: (sections (symbolLines p.labels.toList)).2) := by
    rw [hcons, List.cons_append, sections_cons (by decide), sections_append hrows, hstray, List.append_nil]
    rfl
  have hread : readSection? ⟨codeName, (codeLines p.origin p.words).tail⟩ = some [.code p.origin p.words] :=
    readCode?_codeLines p.origin hsize
  rw [read?_eq_some_iff]
  refine ⟨_, [.code p.origin p.words] :: blocks, contentLines_write h, ?_, ?_, ?_⟩
  . rw [hsections]
  . rw [hsections, List.mapM_cons, hread, hblocks]
    rfl
  . rw [List.flatten_cons, hflatten]
    exact ofBlocks?_blocks p

/-! ### Labels that are read -/

theorem exists_of_mapM_eq_some {α β : Type} {f : α → Option β} {l : List α} {results : List β}
    (h : l.mapM f = some results)
    : ∀ b ∈ results, ∃ a ∈ l, f a = some b := by
  induction l generalizing results with
  | nil =>
    cases h
    exact fun b hb => absurd hb List.not_mem_nil
  | cons a l ih =>
    rw [List.mapM_cons, Option.bind_eq_bind, Option.bind_eq_some_iff] at h
    obtain ⟨b, hb, h⟩ := h
    rw [Option.bind_eq_bind, Option.bind_eq_some_iff] at h
    obtain ⟨bs, hbs, h⟩ := h
    cases h
    intro b' hb'
    obtain rfl | hb' := List.mem_cons.mp hb'
    . exact ⟨a, List.mem_cons_self, hb⟩
    . obtain ⟨a', ha', hf⟩ := ih hbs b' hb'
      exact ⟨a', List.mem_cons_of_mem a ha', hf⟩

/-- The label of a row is not empty, because the row does not end with the divider's last blank. -/
theorem isPlain_of_readRow? {row address label : List Char} (hrow : IsRow row)
    (h : readRow? row = some (address, label))
    : IsPlain label := by
  unfold readRow? at h
  rw [Option.map_eq_some_iff] at h
  obtain ⟨⟨before, after⟩, hsplit, heq⟩ := h
  obtain ⟨-, rfl⟩ := Prod.mk.inj heq
  have heq : row = before ++ divider ++ after := Text.eq_append_of_splitAtFirst? hsplit
  have hpart : Text.trimList after <:+: row := by
    rw [heq]
    exact (Text.trimList_infix_self after).trans (List.suffix_append _ after).isInfix
  constructor
  . constructor
    -- If only blanks stood behind the divider, the row would end with its blank or one of them.
    . intro hnil
      have hblank : ∀ c ∈ ' ' :: after, Text.isBlank c = true :=
        List.forall_mem_cons.mpr ⟨by decide, Text.trimList_eq_nil_iff.mp hnil⟩
      have hsuffix : row = (before ++ [' ', '|']) ++ ' ' :: after := by
        rw [heq, List.append_assoc, List.append_assoc]
        rfl
      have hlast : row.getLast? = (' ' :: after).getLast? := by
        rw [hsuffix, List.getLast?_append_of_ne_nil _ (List.cons_ne_nil ' ' after)]
      have hmem : (' ' :: after).getLast (List.cons_ne_nil ' ' after) ∈ row.getLast? := by
        rw [hlast]
        exact List.getLast_mem_getLast? (List.cons_ne_nil ' ' after)
      have hfalse := hrow.last _ hmem
      rw [hblank _ (List.getLast_mem _)] at hfalse
      cases hfalse
    . exact fun h => hrow.oneLine (hpart.mem h)
    . exact fun h => hrow.noComment (h.trans hpart)
    . exact fun c hc => Text.getLast?_trimEndList hc
  . exact fun c hc => Text.head?_trimList hc

theorem isPlain_of_readLabel? {row : List Char} (hrow : IsRow row) {name : String} {a : VirtualAddress}
    (h : readLabel? row = some (.label name a))
    : IsPlain name.toList := by
  unfold readLabel? at h
  rw [Option.bind_eq_bind, Option.bind_eq_some_iff] at h
  obtain ⟨⟨address, label⟩, hcells, h⟩ := h
  rw [Option.bind_eq_bind, Option.bind_eq_some_iff] at h
  obtain ⟨b, -, h⟩ := h
  cases h
  rw [String.toList_ofList]
  exact isPlain_of_readRow? hrow hcells

theorem not_label_of_readCode? {rows : List (List Char)} {bs : List Block} (h : readCode? rows = some bs)
    (name : String) (a : VirtualAddress)
    : .label name a ∉ bs := by
  unfold readCode? at h
  split at h
  . rw [Option.bind_eq_bind, Option.bind_eq_some_iff] at h
    obtain ⟨origin, -, h⟩ := h
    rw [Option.bind_eq_bind, Option.bind_eq_some_iff] at h
    obtain ⟨count, -, h⟩ := h
    split at h
    . cases h
    . rw [Option.bind_eq_bind, Option.bind_eq_some_iff] at h
      obtain ⟨words, -, h⟩ := h
      cases h
      simp
  . cases h

theorem exists_row_of_readSymbols? {rows : List (List Char)} {bs : List Block}
    (h : readSymbols? rows = some bs)
    : ∀ block ∈ bs, ∃ row ∈ rows, readLabel? row = some block := by
  unfold readSymbols? at h
  split at h
  . cases h
    exact fun block hblock => absurd hblock List.not_mem_nil
  . next header rows =>
    dsimp only at h
    split at h
    . cases h
    . intro block hblock
      obtain ⟨row, hrow, hread⟩ := exists_of_mapM_eq_some h block hblock
      exact ⟨row, List.mem_cons_of_mem header hrow, hread⟩

theorem exists_row_of_readSection? {s : Section} {bs : List Block} (h : readSection? s = some bs)
    {name : String} {a : VirtualAddress} (hmem : .label name a ∈ bs)
    : ∃ row ∈ s.rows, readLabel? row = some (.label name a) := by
  unfold readSection? at h
  split at h
  . exact absurd hmem (not_label_of_readCode? h name a)
  . split at h
    . exact exists_row_of_readSymbols? h _ hmem
    . cases h

theorem isPlain_of_read? (h : read? text = some p) {name : String} {a : VirtualAddress}
    (hname : p.labels.lookup? name = some a)
    : IsPlain name.toList := by
  obtain ⟨lines, blocks, hlines, -, hblocks, hp⟩ := read?_eq_some_iff.mp h
  have hbinding : (name, a) ∈ bindings blocks.flatten :=
    ((LabelTable.ofList?_eq_some_iff.mp (ofBlocks?_eq_some_iff.mp hp).2).2 name a).mp hname
  obtain ⟨block, hblock, hlabel⟩ := List.mem_filterMap.mp hbinding
  obtain rfl : block = .label name a := by
    cases block with
    | code origin words => cases hlabel
    | label name a =>
      cases hlabel
      rfl
  obtain ⟨bs, hbs, hblock⟩ := List.mem_flatten.mp hblock
  obtain ⟨s, hs, hread⟩ := exists_of_mapM_eq_some hblocks bs hbs
  obtain ⟨row, hrow, hlabel⟩ := exists_row_of_readSection? hread hblock
  have hmem : row ∈ contentLines text := by
    rw [hlines]
    exact List.mem_cons_of_mem title (mem_of_mem_sections (.inr ⟨s, hs, hrow⟩))
  exact isPlain_of_readLabel? (isRow_of_mem_contentLines hmem) hlabel

theorem forall_isPlain_iff
    : (∀ x ∈ p.labels.toList, IsPlain x.1.toList)
        ↔ ∀ name, (p.labels.lookup? name).isSome → IsPlain name.toList := by
  constructor
  . intro h name hname
    obtain ⟨a, ha⟩ := Option.isSome_iff_exists.mp hname
    exact h (name, a) (LabelTable.mem_toList_iff.mpr ha)
  . rintro h ⟨name, a⟩ hmem
    exact h name (Option.isSome_of_eq_some (LabelTable.mem_toList_iff.mp hmem))

/-! ### Labels that are declared -/

theorem isPlain_of_bounds {label : List Char} (hne : label ≠ [])
    (h : ∀ c ∈ label, '0'.toNat ≤ c.toNat ∧ c.toNat ≤ 'z'.toNat)
    : IsPlain label := by
  have hblank : ∀ c ∈ label, Text.isBlank c = false := by
    intro c hc
    obtain ⟨hlow, hhigh⟩ := h c hc
    have hlow : 48 ≤ c.toNat := hlow
    have hhigh : c.toNat ≤ 122 := hhigh
    simp [Text.isBlank, Text.inRanges, Text.blankRanges]
    omega
  have hout : ∀ c, c.toNat < '0'.toNat → c ∉ label := fun c hc hmem => absurd (h c hmem).1 (Nat.not_le.mpr hc)
  refine ⟨isRow_of_not_mem hne (hout '\n' (by decide)) (hout '/' (by decide)) ?_, ?_⟩
  . exact Text.trimEndList_eq_self_iff.mpr fun c hc => hblank c (List.mem_of_mem_getLast? hc)
  . exact fun c hc => hblank c (List.mem_of_mem_head? hc)

theorem isPlain_of_assemble {l : Language} (hl : l.declaration = Language.Bundled.declaration)
    {origin : VirtualAddress} {source : String} (h : assemble l origin source = .ok p) {name : String}
    (hname : (p.labels.lookup? name).isSome)
    : IsPlain name.toList := by
  obtain ⟨-, hlabels, -⟩ := Assembly.exists_of_assemble h
  obtain ⟨line, -, hline⟩ := (Assembly.isSome_lookup?_of_locateLabels hlabels name).mp hname
  obtain ⟨hne, hbounds⟩ := Language.Bundled.of_declaredLabel? hl hline
  exact isPlain_of_bounds hne hbounds

/--
A program is found again in its object file exactly if each of its labels is not empty, is a single line
without two slashes, and has no blank at either end; and so are all labels that the bundled language can
declare.
-/
theorem read?_write_iff_and_of_assemble (hsize : p.words.length < Bits.bound 64)
    : (read? (write p) = some p ↔ ∀ name, (p.labels.lookup? name).isSome → IsPlain name.toList)
        ∧ ∀ origin source, assemble .bundled origin source = .ok p → read? (write p) = some p := by
  have hread : read? (write p) = some p ↔ ∀ name, (p.labels.lookup? name).isSome → IsPlain name.toList := by
    constructor
    . intro h name hname
      obtain ⟨a, ha⟩ := Option.isSome_iff_exists.mp hname
      exact isPlain_of_read? h ha
    . exact fun h => read?_write_of_isPlain hsize (forall_isPlain_iff.mpr h)
  have hbundled : Language.bundled.declaration = Language.Bundled.declaration := by
    rw [Language.bundled_eq]
  refine ⟨hread, fun origin source h => ?_⟩
  rw [hread]
  exact fun name => isPlain_of_assemble hbundled h

/-- A program with a label that looks like a row of the table. -/
def rowNamed : Program where
  origin := ⟨0xFFFFFFFC⟩
  words := [0x12345678, 0]
  labels := ⟨.ofList [("0000000C | a/b", (⟨0⟩ : VirtualAddress)), (".TEXT", ⟨7⟩)]⟩

def commentNamed : Program where
  origin := ⟨0⟩
  words := []
  labels := ⟨.ofList [("a//b", (⟨0⟩ : VirtualAddress))]⟩

theorem read?_of_rowNamed
    : rowNamed.words.length < Bits.bound 64
        ∧ read? (write rowNamed) = some rowNamed
        ∧ commentNamed.words.length < Bits.bound 64
        ∧ read? (write commentNamed) ≠ some commentNamed := by
  have hrow : rowNamed.words.length < Bits.bound 64 := by decide
  have hcomment : commentNamed.words.length < Bits.bound 64 := by decide
  have hplain : ∀ x ∈ rowNamed.labels.toList, IsPlain x.1.toList := by
    decide +kernel
  have hlabel : (commentNamed.labels.lookup? "a//b").isSome := by decide +kernel
  have hslashes : ¬IsPlain "a//b".toList := by decide +kernel
  refine ⟨hrow, ?_, hcomment, ?_⟩
  . rw [(read?_write_iff_and_of_assemble hrow).1]
    exact forall_isPlain_iff.mp hplain
  . intro h
    exact hslashes ((read?_write_iff_and_of_assemble hcomment).1.mp h "a//b" hlabel)

end Listing

end Object

end Triword
