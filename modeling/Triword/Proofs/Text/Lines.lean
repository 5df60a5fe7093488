import Mathlib.Data.List.DropRight
import Mathlib.Data.List.Induction
import Triword.Text.Class
import Triword.Text.Lines

/-!
Blanks and lines. Trimming takes the blanks off both ends and nothing else. Where a function does not look at
the blanks at the end of a line, it makes no difference to its results whether a text is cut into lines at
its line feeds or in the way that minds carriage returns, nor whether the text is trimmed before.
-/

namespace Triword

namespace Text

variable {cs : List Char} {c : Char}

/-! ### Trimming -/

theorem trimStartList_cons (hc : isBlank c = true) : trimStartList (c :: cs) = trimStartList cs :=
  List.dropWhile_cons_of_pos hc

theorem trimEndList_concat (hc : isBlank c = true) : trimEndList (cs ++ [c]) = trimEndList cs :=
  List.rdropWhile_concat_pos isBlank cs c hc

theorem trimStartList_eq_self_iff : trimStartList cs = cs ↔ ∀ c ∈ cs.head?, isBlank c = false := by
  cases cs with
  | nil => simp [trimStartList]
  | cons c cs =>
    rw [trimStartList, List.dropWhile_eq_self_iff]
    simp

theorem trimEndList_eq_self_iff : trimEndList cs = cs ↔ ∀ c ∈ cs.getLast?, isBlank c = false := by
  have hself : trimEndList cs = cs ↔ ∀ hcs : cs ≠ [], ¬isBlank (cs.getLast hcs) := List.rdropWhile_eq_self_iff
  rw [hself]
  constructor
  . intro h c hc
    obtain ⟨hcs, rfl⟩ := List.mem_getLast?_eq_getLast hc
    exact Bool.eq_false_iff.mpr (h hcs)
  . intro h hcs
    exact Bool.eq_false_iff.mp (h _ (List.getLast_mem_getLast? hcs))

theorem trimStartList_suffix_self (cs : List Char) : trimStartList cs <:+ cs :=
  List.dropWhile_suffix isBlank

theorem trimEndList_prefix_self (cs : List Char) : trimEndList cs <+: cs :=
  List.rdropWhile_prefix isBlank cs

theorem trimList_infix_self (cs : List Char) : trimList cs <:+: cs :=
  (trimEndList_prefix_self _).isInfix.trans (trimStartList_suffix_self cs).isInfix

theorem trimList_cons (hc : isBlank c = true) : trimList (c :: cs) = trimList cs :=
  congrArg trimEndList (trimStartList_cons hc)

theorem trimList_concat (hc : isBlank c = true) : trimList (cs ++ [c]) = trimList cs := by
  induction cs with
  | nil => exact trimList_cons hc
  | cons d cs ih =>
    by_cases hd : isBlank d = true
    . rw [List.cons_append, trimList_cons hd, trimList_cons hd, ih]
    . have hstart : ∀ ds, trimStartList (d :: ds) = d :: ds := fun ds => List.dropWhile_cons_of_neg hd
      unfold trimList
      rw [List.cons_append, hstart, hstart, ← List.cons_append, trimEndList_concat hc]

theorem getLast?_trimEndList (h : c ∈ (trimEndList cs).getLast?) : isBlank c = false := by
  have hself : trimEndList (trimEndList cs) = trimEndList cs := List.rdropWhile_idempotent isBlank cs
  exact trimEndList_eq_self_iff.mp hself c h

theorem head?_trimStartList (h : c ∈ (trimStartList cs).head?) : isBlank c = false := by
  have hself : trimStartList (trimStartList cs) = trimStartList cs := List.dropWhile_idempotent isBlank cs
  exact trimStartList_eq_self_iff.mp hself c h

theorem head?_trimList (h : c ∈ (trimList cs).head?) : isBlank c = false := by
  obtain ⟨tail, htail⟩ := trimEndList_prefix_self (trimStartList cs)
  have hstart : c ∈ (trimStartList cs).head? := by
    rw [← htail]
    exact List.mem_head?_append_of_mem_head? h
  exact head?_trimStartList hstart

theorem trimList_eq_self_iff
    : trimList cs = cs
        ↔
      (∀ c ∈ cs.head?, isBlank c = false) ∧ ∀ c ∈ cs.getLast?, isBlank c = false := by
  constructor
  . intro h
    refine ⟨fun c hc => ?_, fun c hc => ?_⟩
    . rw [← h] at hc
      exact head?_trimList hc
    . rw [← h] at hc
      exact getLast?_trimEndList hc
  . rintro ⟨hhead, hlast⟩
    unfold trimList
    rw [trimStartList_eq_self_iff.mpr hhead, trimEndList_eq_self_iff.mpr hlast]

theorem trimEndList_eq_nil_iff : trimEndList cs = [] ↔ ∀ c ∈ cs, isBlank c = true :=
  List.rdropWhile_eq_nil_iff

theorem trimList_eq_nil_iff : trimList cs = [] ↔ ∀ c ∈ cs, isBlank c = true := by
  induction cs with
  | nil => simp [trimList, trimStartList, trimEndList]
  | cons c cs ih =>
    by_cases hc : isBlank c = true
    . rw [trimList_cons hc, ih, List.forall_mem_cons, and_iff_right hc]
    . have hstart : trimStartList (c :: cs) = c :: cs := List.dropWhile_cons_of_neg hc
      unfold trimList
      rw [hstart, trimEndList_eq_nil_iff]

theorem trimList_append {blanks : List Char} (h : ∀ c ∈ blanks, isBlank c = true) (cs : List Char)
    : trimList (blanks ++ cs) = trimList cs := by
  induction blanks with
  | nil => rfl
  | cons c blanks ih =>
    obtain ⟨hc, hblanks⟩ := List.forall_mem_cons.mp h
    rw [List.cons_append, trimList_cons hc, ih hblanks]

theorem prefix_trimEndList (h : ∀ c ∈ cs.getLast?, isBlank c = false) (ds : List Char)
    : cs <+: trimEndList (cs ++ ds) := by
  -- From the end, as the trimming goes: the blanks of `ds` one after the other, then no more.
  induction ds using List.reverseRecOn with
  | nil =>
    have hself : trimEndList cs = cs := trimEndList_eq_self_iff.mpr h
    exact ⟨[], by rw [List.append_nil, hself]⟩
  | append_singleton ds d ih =>
    rw [← List.append_assoc]
    by_cases hd : isBlank d = true
    . rw [trimEndList_concat hd]
      exact ih
    . have hself : trimEndList (cs ++ ds ++ [d]) = cs ++ ds ++ [d] :=
        List.rdropWhile_concat_neg isBlank _ d hd
      rw [hself, List.append_assoc]
      exact List.prefix_append cs _

theorem trimStartList_append (hne : cs ≠ []) (h : trimList cs = cs) (ds : List Char)
    : trimStartList (cs ++ ds) = cs ++ ds := by
  obtain ⟨c, cs, rfl⟩ := List.exists_cons_of_ne_nil hne
  exact trimStartList_eq_self_iff.mpr (trimList_eq_self_iff.mp h).1

theorem prefix_trimList (hne : cs ≠ []) (h : trimList cs = cs) (ds : List Char)
    : cs <+: trimList (cs ++ ds) := by
  unfold trimList
  rw [trimStartList_append hne h]
  exact prefix_trimEndList (trimList_eq_self_iff.mp h).2 ds

/-! ### Lines -/

section

variable {f : List Char → List Char}

def kept (f : List Char → List Char) (ls : List (List Char)) : List (List Char) :=
  (ls.map f).filter (!·.isEmpty)

theorem kept_cons (f : List Char → List Char) (l : List Char) (ls : List (List Char))
    : kept f (l :: ls) = if f l = [] then kept f ls else f l :: kept f ls := by
  unfold kept
  rw [List.map_cons, List.filter_cons]
  cases f l <;> rfl

theorem kept_cons_congr {l l' : List Char} {ls ls' : List (List Char)} (hl : f l = f l')
    (hls : kept f ls = kept f ls')
    : kept f (l :: ls) = kept f (l' :: ls') := by
  rw [kept_cons, kept_cons, hl, hls]

theorem kept_append (ls ls' : List (List Char)) : kept f (ls ++ ls') = kept f ls ++ kept f ls' := by
  unfold kept
  rw [List.map_append, List.filter_append]

theorem kept_concat_nil (hnil : f [] = []) (ls : List (List Char)) : kept f (ls ++ [[]]) = kept f ls := by
  rw [kept_append, kept_cons, if_pos hnil]
  exact List.append_nil _

theorem mem_kept {ls : List (List Char)} {l : List Char} (h : l ∈ ls) (hne : f l ≠ []) : f l ∈ kept f ls := by
  refine List.mem_filter.mpr ⟨List.mem_map_of_mem h, ?_⟩
  rw [List.isEmpty_eq_false_iff.mpr hne]
  rfl

theorem exists_of_mem_kept {ls : List (List Char)} {l : List Char} (h : l ∈ kept f ls)
    : ∃ l' ∈ ls, f l' = l ∧ l ≠ [] := by
  obtain ⟨hl, hne⟩ := List.mem_filter.mp h
  obtain ⟨l', hl', rfl⟩ := List.mem_map.mp hl
  refine ⟨l', hl', rfl, ?_⟩
  rintro hnil
  rw [hnil] at hne
  cases hne

/-- What a function makes of some lines, where it makes something of them, with the numbers of these lines. -/
def keptFrom (f : List Char → List Char) (n : Nat) (ls : List (List Char)) : List (List Char × Nat) :=
  ((ls.map f).zipIdx n).filter (!·.1.isEmpty)

theorem keptFrom_cons (f : List Char → List Char) (n : Nat) (l : List Char) (ls : List (List Char))
    : keptFrom f n (l :: ls) = if f l = [] then keptFrom f (n + 1) ls else (f l, n) :: keptFrom f (n + 1) ls := by
  unfold keptFrom
  rw [List.map_cons, List.zipIdx_cons, List.filter_cons]
  cases f l <;> rfl

theorem keptFrom_cons_congr {l l' : List Char} {ls ls' : List (List Char)} {n : Nat} (hl : f l = f l')
    (hls : keptFrom f (n + 1) ls = keptFrom f (n + 1) ls')
    : keptFrom f n (l :: ls) = keptFrom f n (l' :: ls') := by
  rw [keptFrom_cons, keptFrom_cons, hl, hls]

theorem keptFrom_append (n : Nat) (ls ls' : List (List Char))
    : keptFrom f n (ls ++ ls') = keptFrom f n ls ++ keptFrom f (n + ls.length) ls' := by
  unfold keptFrom
  rw [List.map_append, List.zipIdx_append, List.filter_append, List.length_map]

theorem keptFrom_eq_nil {ls : List (List Char)} (h : ∀ l ∈ ls, f l = []) (n : Nat) : keptFrom f n ls = [] := by
  induction ls generalizing n with
  | nil => rfl
  | cons l ls ih =>
    obtain ⟨hl, hls⟩ := List.forall_mem_cons.mp h
    rw [keptFrom_cons, if_pos hl, ih hls]

theorem keptFrom_add (n k : Nat) (ls : List (List Char))
    : keptFrom f (n + k) ls = (keptFrom f n ls).map fun x => (x.1, x.2 + k) := by
  induction ls generalizing n with
  | nil => rfl
  | cons l ls ih =>
    rw [keptFrom_cons, keptFrom_cons, Nat.add_right_comm, ih]
    split
    . rfl
    . rfl

theorem number_of_mem_keptFrom {ls : List (List Char)} {n : Nat} {x : List Char × Nat} (h : x ∈ keptFrom f n ls)
    : n ≤ x.2 ∧ x.2 < n + ls.length := by
  have hmem : x ∈ (ls.map f).zipIdx n := (List.mem_filter.mp h).1
  have hlt := List.snd_lt_add_of_mem_zipIdx hmem
  rw [List.length_map] at hlt
  exact ⟨List.le_snd_of_mem_zipIdx hmem, hlt⟩

theorem map_fst_keptFrom (f : List Char → List Char) (n : Nat) (ls : List (List Char))
    : (keptFrom f n ls).map Prod.fst = kept f ls := by
  induction ls generalizing n with
  | nil => rfl
  | cons l ls ih =>
    rw [keptFrom_cons, kept_cons]
    split
    . exact ih (n + 1)
    . exact congrArg (f l :: ·) (ih (n + 1))

/-- The carriage return before a line feed is a blank at the end of its line. -/
theorem map_endedLine (hend : ∀ cs c, isBlank c = true → f (cs ++ [c]) = f cs) (back : List Char)
    : f (endedLine back) = f back.reverse := by
  unfold endedLine
  split
  . next cs =>
    rw [List.reverse_cons]
    exact (hend cs.reverse '\r' (by decide)).symm
  . rfl

theorem keptFrom_linesFrom (hnil : f [] = []) (hend : ∀ cs c, isBlank c = true → f (cs ++ [c]) = f cs)
    (n : Nat) (back cs : List Char)
    : keptFrom f n (linesFrom back cs) = keptFrom f n (cs.splitOnPPrepend (· == '\n') back) := by
  induction cs generalizing n back with
  | nil =>
    unfold linesFrom
    -- A text that ends with a line feed has an empty piece behind it, but no line there.
    cases back with
    | nil =>
      rw [List.splitOnPPrepend_nil, List.reverse_nil, keptFrom_cons, if_pos hnil]
      rfl
    | cons c back => rfl
  | cons c cs ih =>
    by_cases hc : c = '\n'
    . subst hc
      rw [linesFrom, List.splitOnPPrepend_cons_pos rfl]
      exact keptFrom_cons_congr (map_endedLine hend back) (ih (n + 1) [])
    . have hpiece : (c :: cs).splitOnPPrepend (· == '\n') back = cs.splitOnPPrepend (· == '\n') (c :: back) :=
        List.splitOnPPrepend_cons_neg (beq_eq_false_iff_ne.mpr hc)
      rw [linesFrom, hpiece, ih]
      exact hc

theorem keptFrom_linesList (hnil : f [] = []) (hend : ∀ cs c, isBlank c = true → f (cs ++ [c]) = f cs)
    (n : Nat) (cs : List Char)
    : keptFrom f n (linesList cs) = keptFrom f n (cs.splitOn '\n') :=
  keptFrom_linesFrom hnil hend n [] cs

theorem kept_linesList (hnil : f [] = []) (hend : ∀ cs c, isBlank c = true → f (cs ++ [c]) = f cs)
    (cs : List Char)
    : kept f (linesList cs) = kept f (cs.splitOn '\n') := by
  have hnumbered := keptFrom_linesList hnil hend 0 cs
  rw [← map_fst_keptFrom f 0, hnumbered, map_fst_keptFrom]

theorem kept_splitOnPPrepend_concat (hnil : f [] = [])
    (hend : ∀ cs c, isBlank c = true → f (cs ++ [c]) = f cs) (hc : isBlank c = true) (back cs : List Char)
    : kept f ((cs ++ [c]).splitOnPPrepend (· == '\n') back)
        =
      kept f (cs.splitOnPPrepend (· == '\n') back) := by
  induction cs generalizing back with
  | nil =>
    rw [List.nil_append, List.splitOnPPrepend_cons_eq_if, List.splitOnPPrepend_nil]
    split
    . exact kept_concat_nil hnil [back.reverse]
    . rw [List.splitOnPPrepend_nil, List.reverse_cons]
      exact kept_cons_congr (hend back.reverse c hc) rfl
  | cons d cs ih =>
    rw [List.cons_append, List.splitOnPPrepend_cons_eq_if, List.splitOnPPrepend_cons_eq_if]
    split
    . exact kept_cons_congr rfl (ih [])
    . exact ih (d :: back)

theorem kept_splitOn_trimEndList (hnil : f [] = [])
    (hend : ∀ cs c, isBlank c = true → f (cs ++ [c]) = f cs) (cs : List Char)
    : kept f ((trimEndList cs).splitOn '\n') = kept f (cs.splitOn '\n') := by
  induction cs using List.reverseRecOn with
  | nil => rfl
  | append_singleton cs c ih =>
    by_cases hc : isBlank c = true
    . rw [trimEndList_concat hc, ih]
      exact (kept_splitOnPPrepend_concat hnil hend hc [] cs).symm
    . have hself : trimEndList (cs ++ [c]) = cs ++ [c] := List.rdropWhile_concat_neg isBlank cs c hc
      rw [hself]

theorem kept_splitOn_trimStartList (hnil : f [] = []) (hstart : ∀ cs c, isBlank c = true → f (c :: cs) = f cs)
    (cs : List Char)
    : kept f ((trimStartList cs).splitOn '\n') = kept f (cs.splitOn '\n') := by
  induction cs with
  | nil => rfl
  | cons c cs ih =>
    by_cases hc : isBlank c = true
    . rw [trimStartList_cons hc, ih, List.splitOn_cons_eq_if_modifyHead]
      split
      . rw [kept_cons, if_pos hnil]
      -- The blank is at the start of the first line, which goes on as before.
      . obtain ⟨l, ls, hls⟩ := List.exists_cons_of_ne_nil (List.splitOn_ne_nil '\n' cs)
        rw [hls]
        exact (kept_cons_congr (hstart l c hc) rfl).symm
    . have hself : trimStartList (c :: cs) = c :: cs := List.dropWhile_cons_of_neg hc
      rw [hself]

end

theorem not_mem_of_mem_linesFrom {back l : List Char} (hback : '\n' ∉ back) (h : l ∈ linesFrom back cs)
    : '\n' ∉ l := by
  induction cs generalizing back with
  | nil =>
    unfold linesFrom at h
    split at h
    . cases h
    . rw [List.mem_singleton.mp h, List.mem_reverse]
      exact hback
  | cons c cs ih =>
    by_cases hc : c = '\n'
    . subst hc
      rw [linesFrom] at h
      obtain rfl | h := List.mem_cons.mp h
      . unfold endedLine
        split
        . rw [List.mem_reverse]
          exact fun hmem => hback (List.mem_cons_of_mem _ hmem)
        . rw [List.mem_reverse]
          exact hback
      . exact ih List.not_mem_nil h
    . have hstart : '\n' ∉ c :: back := by
        rw [List.mem_cons, not_or]
        exact ⟨Ne.symm hc, hback⟩
      rw [linesFrom] at h
      . exact ih hstart h
      . exact hc

theorem not_mem_of_mem_linesList {l : List Char} (h : l ∈ linesList cs) : '\n' ∉ l :=
  not_mem_of_mem_linesFrom List.not_mem_nil h

theorem splitOn_flatMap_concat {ls : List (List Char)} (h : ∀ l ∈ ls, '\n' ∉ l)
    : (ls.flatMap (· ++ ['\n'])).splitOn '\n' = ls ++ [[]] := by
  induction ls with
  | nil => rfl
  | cons l ls ih =>
    obtain ⟨hl, hls⟩ := List.forall_mem_cons.mp h
    rw [List.flatMap_cons, List.append_assoc, List.singleton_append,
      List.splitOn_append_cons_self_of_not_mem hl, ih hls, List.cons_append]

theorem exists_splitOn_append (h : '\n' ∉ cs) (ds : List Char)
    : ∃ l ls, (cs ++ ds).splitOn '\n' = (cs ++ l) :: ls := by
  induction cs with
  | nil => exact List.exists_cons_of_ne_nil (List.splitOn_ne_nil '\n' ds)
  | cons c cs ih =>
    rw [List.mem_cons, not_or] at h
    obtain ⟨l, ls, hls⟩ := ih h.2
    refine ⟨l, ls, ?_⟩
    rw [List.cons_append, List.splitOn_cons_eq_if_modifyHead, if_neg (by simpa using Ne.symm h.1), hls]
    rfl

theorem not_mem_of_mem_splitOn {l : List Char} (h : l ∈ cs.splitOn '\n') : '\n' ∉ l := by
  induction cs generalizing l with
  | nil =>
    rw [List.splitOn_nil, List.mem_singleton] at h
    rw [h]
    exact List.not_mem_nil
  | cons c cs ih =>
    rw [List.splitOn_cons_eq_if_modifyHead] at h
    split at h
    . obtain rfl | h := List.mem_cons.mp h
      . exact List.not_mem_nil
      . exact ih h
    . next hc =>
      obtain ⟨l', ls, hls⟩ := List.exists_cons_of_ne_nil (List.splitOn_ne_nil '\n' cs)
      rw [hls] at h ih
      obtain rfl | h := List.mem_cons.mp h
      . rw [List.mem_cons, not_or]
        exact ⟨fun heq => hc (beq_iff_eq.mpr heq.symm), ih List.mem_cons_self⟩
      . exact ih (List.mem_cons_of_mem _ h)

end Text

end Triword
