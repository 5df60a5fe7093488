import Mathlib.Data.List.Nodup
import Triword.Proofs.Language.Variants
import Triword.Proofs.Regex.Pieces

/-!
Templates with placeholders that stand apart. Each placeholder of such a template occurs at one place and in no group
that is put in before, so filling the template puts each group where the placeholder of its operand has been, and
leaves all else as it is.
-/

namespace Triword

namespace Language

def operandSlot (o : String × KnownType) : Regex.Slot :=
  ⟨o.1, o.2.regex.toList⟩

def operandGroup (o : String × KnownType) : List Char :=
  (operandSlot o).group

def placeholderChars (o : String × KnownType) : List Char :=
  (placeholder o.1).toList

/-- A template that is cut up at its placeholders. -/
structure Layout where
  first : List Char
  pieces : Regex.Pieces (String × KnownType)

namespace Layout

def chars (l : Layout) (put : String × KnownType → List Char) : List Char :=
  l.first ++ l.pieces.chars put

/--
The placeholders of the operands stand apart in a template, each of them at one place, and do not come up in the
groups that are put in before; what stands between them can be read alone, and no flags are set.
-/
structure Fits (props : Regex.Properties) (l : Layout) (template : String) (operands : List (String × KnownType)) :
    Prop where
  chars_eq : template.toList = l.chars placeholderChars
  perm : l.pieces.places.Perm operands
  once : ∀ o ∈ operands, Text.occurrences (placeholder o.1).toList template.toList = 1
  apart : operands.Pairwise fun o p => Text.occurrences (placeholder p.1).toList (operandGroup o) = 0
  begins : Regex.Begins props l.first
  pieces : l.pieces.Holds props
  types : ∀ o ∈ operands, Regex.Reader.SetsNoFlags o.2.regex.toList

end Layout

/-! ### Filling templates -/

theorem placeholder_ne_nil (name : String) : (placeholder name).toList ≠ [] := by
  obtain ⟨cs, hcs⟩ := exists_toList_placeholder name
  rw [hcs]
  exact List.cons_ne_nil _ _

theorem toList_operandGroup (o : String × KnownType) : s!"(?P<{o.1}>{o.2.regex})".toList = operandGroup o := by
  simp [operandGroup, operandSlot, Regex.Slot.group, toString]

/-- The parentheses of a group part what occurs before it, in it, and behind it. -/
theorem occurrences_operandGroup {needle : List Char} (hneedle : needle ≠ []) (hopen : '(' ∉ needle)
    (hclose : ')' ∉ needle) (o : String × KnownType) (before after : List Char)
    : Text.occurrences needle (before ++ (operandGroup o ++ after))
        =
      Text.occurrences needle before + Text.occurrences needle (operandGroup o) + Text.occurrences needle after := by
  obtain ⟨body, hbody⟩ : ∃ body, operandGroup o = [] ++ '(' :: (body ++ ')' :: []) := by
    refine ⟨'?' :: 'P' :: '<' :: (o.1.toList ++ '>' :: o.2.regex.toList), ?_⟩
    simp [operandGroup, operandSlot, Regex.Slot.group]
  have hsplit {c : Char} (hc : c ∉ needle) := Text.occurrences_append_cons hneedle hc
  have hall : before ++ (operandGroup o ++ after) = before ++ '(' :: (body ++ ')' :: after) := by
    rw [hbody]
    simp
  have hnil : Text.occurrences needle [] = 0 := rfl
  rw [hall, hbody, hsplit hopen, hsplit hclose, hsplit hopen, hsplit hclose, hnil]
  omega

/-- What stands for an operand when the operands with some names have got their groups. -/
def filledWith (names : List String) (o : String × KnownType) : List Char :=
  if o.1 ∈ names then operandGroup o else placeholderChars o

variable {props : Regex.Properties} {l : Layout} {o : String × KnownType} {operands : List (String × KnownType)}
variable {filled : List String}

theorem exists_around (hnodup : (l.pieces.places.map Prod.fst).Nodup) (ho : o ∈ l.pieces.places) (hnot : o.1 ∉ filled)
    : ∃ before after, l.chars (filledWith filled) = before ++ ((placeholder o.1).toList ++ after)
        ∧ l.chars (filledWith (o.1 :: filled)) = before ++ (operandGroup o ++ after) := by
  have hsame : ∀ q ∈ l.pieces.places, q ≠ o → filledWith filled q = filledWith (o.1 :: filled) q := by
    intro q hq hne
    have hname : q.1 ≠ o.1 := fun heq => hne (List.inj_on_of_nodup_map hnodup hq ho heq)
    unfold filledWith
    simp only [List.mem_cons, hname, false_or]
  obtain ⟨before, after, hchars, hfilled⟩ := Regex.Pieces.exists_around ho hnodup.of_map hsame
  refine ⟨l.first ++ before, after, ?_, ?_⟩
  . rw [Layout.chars, hchars, List.append_assoc, filledWith, if_neg hnot, placeholderChars]
  . rw [Layout.chars, hfilled, List.append_assoc, filledWith, if_pos List.mem_cons_self]

theorem filledChars_cons (template : List Char) (o : String × KnownType) (operands : List (String × KnownType))
    : filledChars template (o :: operands)
        =
      filledChars (Text.replaceFrom (placeholder o.1).toList (operandGroup o) 0 template) operands := by
  rw [← toList_operandGroup]
  rfl

def IsBare (name : String) : Prop :=
  '(' ∉ (placeholder name).toList ∧ ')' ∉ (placeholder name).toList

/-- The operands get their groups one after the other, each where its placeholder stands. -/
theorem filledChars_layout (hnodup : (l.pieces.places.map Prod.fst).Nodup)
    (hplaces : ∀ o ∈ operands, o ∈ l.pieces.places)
    (hnames : (operands.map Prod.fst).Nodup) (hnot : ∀ o ∈ operands, o.1 ∉ filled) (hbare : ∀ o ∈ operands, IsBare o.1)
    (honce : ∀ o ∈ operands, Text.occurrences (placeholder o.1).toList (l.chars (filledWith filled)) ≤ 1)
    (hapart : operands.Pairwise fun o p => Text.occurrences (placeholder p.1).toList (operandGroup o) = 0)
    : filledChars (l.chars (filledWith filled)) operands
        =
      l.chars (filledWith ((operands.map Prod.fst).reverse ++ filled)) := by
  induction operands generalizing filled with
  | nil => rfl
  | cons o operands ih =>
    obtain ⟨ho, hplaces⟩ := List.forall_mem_cons.mp hplaces
    obtain ⟨hnew, hnames⟩ := List.nodup_cons.mp hnames
    obtain ⟨honot, hnot⟩ := List.forall_mem_cons.mp hnot
    obtain ⟨-, hbare⟩ := List.forall_mem_cons.mp hbare
    obtain ⟨hoonce, honce⟩ := List.forall_mem_cons.mp honce
    obtain ⟨hothers, hapart⟩ := List.pairwise_cons.mp hapart
    obtain ⟨before, after, hchars, hfilled⟩ := exists_around hnodup ho honot
    obtain ⟨needle, hneedle⟩ := exists_toList_placeholder o.1
    have hstep : Text.replaceFrom (placeholder o.1).toList (operandGroup o) 0 (l.chars (filledWith filled))
        = l.chars (filledWith (o.1 :: filled)) := by
      rw [hchars, hneedle] at hoonce
      rw [hchars, hneedle, Text.replaceFrom_of_once hoonce, hfilled]
    -- The other placeholders stand once each still, since the new group has none of them.
    rw [filledChars_cons, hstep, ih hplaces hnames ?_ hbare ?_ hapart]
    . simp
    . intro p hp
      rw [List.mem_cons, not_or]
      refine ⟨fun heq => hnew ?_, hnot p hp⟩
      rw [← heq]
      exact List.mem_map_of_mem hp
    . intro p hp
      obtain ⟨hopen, hclose⟩ := hbare p hp
      have hbefore := Text.occurrences_append_le (placeholder p.1).toList before ((placeholder o.1).toList ++ after)
      have hafter := Text.occurrences_append_le (placeholder p.1).toList (placeholder o.1).toList after
      have hle := honce p hp
      rw [hchars] at hle
      rw [hfilled, occurrences_operandGroup (placeholder_ne_nil p.1) hopen hclose, hothers p hp]
      omega

/-! ### Names -/

theorem count_placeholder_le (p : Regex.Pieces (String × KnownType)) (name : String)
    : (p.places.map fun o => placeholder o.1).count (placeholder name)
        ≤ Text.occurrences (placeholder name).toList (p.chars placeholderChars) := by
  have hsplit := Text.occurrences_append_le (placeholder name).toList
  induction p with
  | done => exact Nat.zero_le _
  | place o after next ih =>
    have hself := Text.occurrences_self_pos (placeholder_ne_nil name)
    have hfirst := hsplit (placeholderChars o) (after ++ next.chars placeholderChars)
    have hrest := hsplit after (next.chars placeholderChars)
    rw [Regex.Pieces.places, List.map_cons, List.count_cons, Regex.Pieces.chars]
    split
    . next heq =>
      rw [placeholderChars, eq_of_beq heq] at hfirst ⊢
      omega
    . omega
  | group opening first inner after next ihInner ih =>
    have hchars : (Regex.Pieces.group opening first inner after next).chars placeholderChars
        = ('(' :: (opening.chars ++ first))
          ++ (inner.chars placeholderChars ++ ((')' :: after) ++ next.chars placeholderChars)) := by
      simp [Regex.Pieces.chars]
    have hfirst := hsplit ('(' :: (opening.chars ++ first))
      (inner.chars placeholderChars ++ ((')' :: after) ++ next.chars placeholderChars))
    have hinner := hsplit (inner.chars placeholderChars) ((')' :: after) ++ next.chars placeholderChars)
    have hrest := hsplit (')' :: after) (next.chars placeholderChars)
    rw [Regex.Pieces.places, List.map_append, List.count_append, hchars]
    omega
  | bar first next ih =>
    have hrest := hsplit ('|' :: first) (next.chars placeholderChars)
    exact Nat.le_trans ih (Nat.le_trans (Nat.le_add_left ..) hrest)

theorem Layout.Fits.nodup {template : String} (h : l.Fits props template operands)
    : (l.pieces.places.map Prod.fst).Nodup := by
  have hplaceholders : (l.pieces.places.map fun o => placeholder o.1).Nodup := by
    rw [List.nodup_iff_count_le_one]
    intro name
    by_cases hname : name ∈ l.pieces.places.map fun o => placeholder o.1
    . obtain ⟨o, ho, rfl⟩ := List.mem_map.mp hname
      have honce := h.once o (h.perm.subset ho)
      have hle := count_placeholder_le l.pieces o.1
      have hfirst := Text.occurrences_append_le (placeholder o.1).toList l.first
        (l.pieces.chars placeholderChars)
      rw [h.chars_eq, Layout.chars] at honce
      omega
    . rw [List.count_eq_zero_of_not_mem hname]
      exact Nat.zero_le 1
  have hmap : (l.pieces.places.map fun o => placeholder o.1) = (l.pieces.places.map Prod.fst).map placeholder := by
    rw [List.map_map]
    rfl
  rw [hmap] at hplaceholders
  exact hplaceholders.of_map

theorem Layout.Fits.nodup_operands {template : String} (h : l.Fits props template operands)
    : (operands.map Prod.fst).Nodup := by
  rw [← (h.perm.map Prod.fst).nodup_iff]
  exact h.nodup

theorem mem_of_isIdentifier {name : String} (h : isIdentifier name)
    : ∀ c ∈ name.toList, c.isAlphanum ∨ c = '_' := by
  unfold isIdentifier at h
  split at h
  . cases h
  . next c cs hname =>
    rw [hname]
    obtain ⟨hfirst, hrest⟩ := Bool.and_eq_true_iff.mp h
    refine List.forall_mem_cons.mpr ⟨?_, by simpa using hrest⟩
    obtain halpha | hline := Bool.or_eq_true_iff.mp hfirst
    . exact .inl (by simp [Char.isAlphanum, halpha])
    . exact .inr (eq_of_beq hline)

theorem not_mem_of_isIdentifier {name : String} (h : isIdentifier name) {c : Char} (hc : c ∈ ['(', ')', '>'])
    : c ∉ name.toList := by
  intro hmem
  obtain ⟨⟩ | ⟨_, ⟨⟩ | ⟨_, ⟨⟩ | ⟨_, ⟨⟩⟩⟩⟩ := hc
  all_goals exact absurd (mem_of_isIdentifier h _ hmem) (by decide)

theorem eq_of_toUpper_eq {c d : Char} (hd : d.toNat < 65) (h : c.toUpper = d) : c = d := by
  unfold Char.toUpper at h
  split at h
  . next hletter =>
    have hval := congrArg (·.val.toNat) h
    have hsmall : d.val.toNat < 65 := hd
    simp [UInt32.le_iff_toNat_le] at hval hletter
    omega
  . exact h

theorem isBare_of_isIdentifier {name : String} (h : isIdentifier name) : IsBare name := by
  have hplaceholder : (placeholder name).toList = '_' :: '_' :: (name.toList.map Char.toUpper ++ ['_', '_']) := by
    simp [placeholder, String.toUpper, toString]
  have hsmall : ∀ c ∈ ['(', ')'], c.toNat < 65 ∧ c ≠ '_' := by simp
  have hnot : ∀ c ∈ ['(', ')'], c ∉ (placeholder name).toList := by
    intro c hc hmem
    have hname : c ∉ name.toList := not_mem_of_isIdentifier h (List.mem_append_left ['>'] hc)
    obtain ⟨hlow, hline⟩ := hsmall c hc
    simp only [hplaceholder, List.mem_cons, List.mem_append, List.mem_map, hline, false_or, or_false,
      List.not_mem_nil] at hmem
    obtain ⟨d, hd, heq⟩ := hmem
    exact hname (eq_of_toUpper_eq hlow heq ▸ hd)
  exact ⟨hnot '(' (by decide), hnot ')' (by decide)⟩

namespace Layout

def slots (l : Layout) : Regex.Pieces Regex.Slot :=
  l.pieces.map operandSlot

theorem Fits.toList_fillTemplate {template : String} (h : l.Fits props template operands)
    (hnames : ∀ o ∈ operands, isIdentifier o.1)
    : (fillTemplate template operands).toList = l.first ++ l.slots.chars Regex.Slot.group := by
  have hstart : placeholderChars = filledWith [] := by
    funext o
    exact (if_neg List.not_mem_nil).symm
  have hbare : ∀ o ∈ operands, IsBare o.1 := fun o ho => isBare_of_isIdentifier (hnames o ho)
  have honce : ∀ o ∈ operands, Text.occurrences (placeholder o.1).toList (l.chars (filledWith [])) ≤ 1 := by
    intro o ho
    rw [← hstart, ← h.chars_eq, h.once o ho]
  rw [Language.toList_fillTemplate, h.chars_eq, hstart, filledChars_layout h.nodup
    (fun o ho => h.perm.symm.subset ho) h.nodup_operands (fun o _ => List.not_mem_nil) hbare honce h.apart]
  rw [chars, slots, Regex.Pieces.chars_map]
  refine congrArg (l.first ++ ·) (Regex.Pieces.chars_congr fun o ho => ?_)
  have hmem : o.1 ∈ (operands.map Prod.fst).reverse ++ [] := by
    rw [List.append_nil, List.mem_reverse]
    exact List.mem_map_of_mem (h.perm.subset ho)
  rw [filledWith, if_pos hmem]
  rfl

end Layout

end Language

end Triword
