import Triword.Text.Occurrence

/-!
Searching a list of characters for another. What comes before the first occurrence is a start of the list with
no occurrence in it; cutting a list at the first occurrence gives the two parts around it; and replacing leaves
all else as it is.
-/

namespace Triword

namespace Text

variable {needle cs : List Char}

theorem occursIn_iff : occursIn needle cs = true ↔ needle <:+: cs := by
  induction cs with
  | nil => rw [occursIn, List.isEmpty_iff, List.infix_nil]
  | cons c cs ih => rw [occursIn, Bool.or_eq_true, List.isPrefixOf_iff_prefix, ih, List.infix_cons_iff]

theorem takeBefore_cons_eq_nil {c : Char} (h : needle <+: c :: cs) : takeBefore needle (c :: cs) = [] := by
  rw [takeBefore, if_pos (List.isPrefixOf_iff_prefix.mpr h)]

theorem takeBefore_cons_eq_cons {c : Char} (h : ¬needle <+: c :: cs)
    : takeBefore needle (c :: cs) = c :: takeBefore needle cs := by
  rw [takeBefore, if_neg fun hbegin => h (List.isPrefixOf_iff_prefix.mp hbegin)]

theorem takeBefore_prefix_self (needle cs : List Char) : takeBefore needle cs <+: cs := by
  induction cs with
  | nil => exact List.prefix_rfl
  | cons c cs ih =>
    by_cases h : needle <+: c :: cs
    . rw [takeBefore_cons_eq_nil h]
      exact List.nil_prefix
    . rw [takeBefore_cons_eq_cons h, List.prefix_cons_inj]
      exact ih

theorem not_infix_takeBefore (hneedle : needle ≠ []) (cs : List Char)
    : ¬needle <:+: takeBefore needle cs := by
  have hnil : ¬needle <:+: [] := fun h => hneedle (List.infix_nil.mp h)
  induction cs with
  | nil => exact hnil
  | cons c cs ih =>
    by_cases h : needle <+: c :: cs
    . rw [takeBefore_cons_eq_nil h]
      exact hnil
    . rw [takeBefore_cons_eq_cons h, List.infix_cons_iff, not_or]
      refine ⟨fun hbegin => h (hbegin.trans ?_), ih⟩
      exact (List.prefix_cons_inj c).mpr (takeBefore_prefix_self needle cs)

theorem takeBefore_eq_self (h : ¬needle <:+: cs) : takeBefore needle cs = cs := by
  induction cs with
  | nil => rfl
  | cons c cs ih =>
    rw [List.infix_cons_iff, not_or] at h
    rw [takeBefore_cons_eq_cons h.1, ih h.2]

theorem takeBefore_append_prefix_self (h : needle <:+: cs) : takeBefore needle cs ++ needle <+: cs := by
  induction cs with
  | nil =>
    rw [List.infix_nil.mp h]
    exact List.prefix_rfl
  | cons c cs ih =>
    by_cases hbegin : needle <+: c :: cs
    . rw [takeBefore_cons_eq_nil hbegin]
      exact hbegin
    . rw [takeBefore_cons_eq_cons hbegin, List.cons_append, List.prefix_cons_inj]
      exact ih ((List.infix_cons_iff.mp h).resolve_left hbegin)

theorem takeBefore_concat {c : Char} (hc : c ∉ needle) (hneedle : needle ≠ []) (cs : List Char)
    : takeBefore needle (cs ++ [c]) = takeBefore needle cs
        ∨ takeBefore needle (cs ++ [c]) = takeBefore needle cs ++ [c] := by
  -- No occurrence ends with the new character, so no new one comes about.
  have hbegin : ∀ ds, needle <+: ds ++ [c] ↔ needle <+: ds := by
    intro ds
    rw [List.prefix_concat_iff]
    refine or_iff_right fun heq => hc ?_
    rw [heq]
    exact List.mem_append_right ds List.mem_cons_self
  induction cs with
  | nil =>
    right
    exact takeBefore_cons_eq_cons fun h => hneedle (List.prefix_nil.mp ((hbegin []).mp h))
  | cons d cs ih =>
    by_cases h : needle <+: d :: cs
    . left
      rw [takeBefore_cons_eq_nil h]
      exact takeBefore_cons_eq_nil ((hbegin (d :: cs)).mpr h)
    . have hlong : ¬needle <+: d :: (cs ++ [c]) := mt (hbegin (d :: cs)).mp h
      rw [takeBefore_cons_eq_cons h, List.cons_append, takeBefore_cons_eq_cons hlong]
      exact ih.imp (congrArg (d :: ·)) (congrArg (d :: ·))

theorem takeBefore_append {d : Char} {before : List Char} (h : d ∉ before) (needle cs : List Char)
    : takeBefore (d :: needle) (before ++ cs) = before ++ takeBefore (d :: needle) cs := by
  induction before with
  | nil => rfl
  | cons c before ih =>
    rw [List.mem_cons, not_or] at h
    have hstart : ¬d :: needle <+: c :: (before ++ cs) :=
      fun hbegin => h.1 (List.cons_prefix_cons.mp hbegin).1
    rw [List.cons_append, takeBefore_cons_eq_cons hstart, ih h.2, List.cons_append]

theorem eq_append_of_splitAtFirst? {before after : List Char}
    (h : splitAtFirst? needle cs = some (before, after))
    : cs = before ++ needle ++ after := by
  unfold splitAtFirst? at h
  split at h
  . next hoccurs =>
    obtain ⟨tail, htail⟩ := takeBefore_append_prefix_self (occursIn_iff.mp hoccurs)
    cases h
    rw [← List.length_append]
    exact (List.prefix_iff_eq_append.mp ⟨tail, htail⟩).symm
  . cases h

theorem splitAtFirst?_append {d : Char} {before : List Char} (h : d ∉ before) (needle after : List Char)
    : splitAtFirst? (d :: needle) (before ++ (d :: needle) ++ after) = some (before, after) := by
  have hoccurs : occursIn (d :: needle) (before ++ (d :: needle) ++ after) = true :=
    occursIn_iff.mpr (List.infix_append before (d :: needle) after)
  have hbefore : takeBefore (d :: needle) (before ++ (d :: needle) ++ after) = before := by
    rw [List.append_assoc, takeBefore_append h, List.cons_append, takeBefore_cons_eq_nil, List.append_nil]
    exact List.prefix_append (d :: needle) after
  have hafter : (before ++ (d :: needle) ++ after).drop (before.length + (d :: needle).length) = after := by
    rw [← List.length_append, List.drop_left]
  unfold splitAtFirst?
  rw [if_pos hoccurs, hbefore]
  exact congrArg (fun rest => some (before, rest)) hafter

/-! ### Replacing -/

theorem replaceFrom_append {c : Char} {needle by_ before : List Char} (hbefore : c ∉ before)
    (cs : List Char)
    : replaceFrom (c :: needle) by_ 0 (before ++ cs)
        =
      before ++ replaceFrom (c :: needle) by_ 0 cs := by
  induction before with
  | nil => rfl
  | cons b before ih =>
    rw [List.mem_cons, not_or] at hbefore
    obtain ⟨hb, hbefore⟩ := hbefore
    rw [List.cons_append, List.cons_append, replaceFrom, if_neg, ih hbefore]
    simp [hb]

theorem replaceFrom_length (needle by_ before cs : List Char)
    : replaceFrom needle by_ before.length (before ++ cs) = replaceFrom needle by_ 0 cs := by
  induction before with
  | nil => rfl
  | cons b before ih => exact ih

theorem replaceFrom_needle {c : Char} (needle by_ cs : List Char)
    : replaceFrom (c :: needle) by_ 0 (c :: needle ++ cs)
        =
      by_ ++ replaceFrom (c :: needle) by_ 0 cs := by
  have hbegins : (c :: needle).isPrefixOf (c :: (needle ++ cs)) := by
    rw [List.isPrefixOf_iff_prefix]
    exact List.prefix_append (c :: needle) cs
  rw [List.cons_append, replaceFrom, if_pos hbegins]
  exact congrArg (by_ ++ ·) (replaceFrom_length (c :: needle) by_ needle cs)

theorem replaceFrom_needle_self {c : Char} (needle by_ : List Char)
    : replaceFrom (c :: needle) by_ 0 (c :: needle) = by_ := by
  have hneedle := replaceFrom_needle (c := c) needle by_ []
  rw [List.append_nil] at hneedle
  rw [hneedle]
  exact List.append_nil by_

theorem replaceFrom_eq_self {needle cs : List Char} (h : occursIn needle cs = false) (by_ : List Char)
    : replaceFrom needle by_ 0 cs = cs := by
  induction cs with
  | nil => rfl
  | cons c cs ih =>
    obtain ⟨hbegins, hrest⟩ := Bool.or_eq_false_iff.mp h
    rw [replaceFrom, hbegins, ih hrest]
    rfl

theorem not_prefix_append_cons {needle before : List Char} {c : Char} (hbefore : ¬needle <+: before)
    (hc : c ∉ needle) (cs : List Char) : ¬needle <+: before ++ c :: cs := by
  intro h
  obtain hlt | hle := Nat.lt_or_ge before.length needle.length
  . have hall : before ++ [c] <+: before ++ c :: cs := (List.prefix_append_right_inj before).mpr ⟨cs, rfl⟩
    have hreach : before ++ [c] <+: needle := by
      apply List.prefix_of_prefix_length_le hall h
      rw [List.length_append]
      exact hlt
    exact hc (hreach.subset (List.mem_append_right before List.mem_cons_self))
  . exact hbefore (List.prefix_of_prefix_length_le h (List.prefix_append before _) hle)

/-- A needle does not reach over a character that is not in it. -/
theorem replaceFrom_append_cons {needle before : List Char} {c : Char}
    (hbefore : occursIn needle before = false) (hc : c ∉ needle) (by_ cs : List Char)
    : replaceFrom needle by_ 0 (before ++ c :: cs)
        =
      before ++ c :: replaceFrom needle by_ 0 cs := by
  induction before with
  | nil =>
    have hbegins : ¬needle <+: [] := by
      rw [← List.isPrefixOf_iff_prefix]
      simpa [occursIn] using hbefore
    rw [List.nil_append, replaceFrom, if_neg]
    . rfl
    . rw [List.isPrefixOf_iff_prefix]
      exact not_prefix_append_cons hbegins hc cs
  | cons b before ih =>
    obtain ⟨hb, hrest⟩ := Bool.or_eq_false_iff.mp hbefore
    rw [List.cons_append, replaceFrom, if_neg, ih hrest]
    . rfl
    . rw [List.isPrefixOf_iff_prefix]
      have hnot : ¬needle <+: b :: before := by
        rw [← List.isPrefixOf_iff_prefix, hb]
        exact Bool.false_ne_true
      exact not_prefix_append_cons hnot hc cs

/-! ### How often something occurs -/

def occurrences (needle : List Char) : List Char → Nat
  | [] => 0
  | c :: cs => occurrences needle cs + if needle.isPrefixOf (c :: cs) then 1 else 0

theorem occurrences_cons_of_begins {c : Char} (h : needle <+: c :: cs)
    : occurrences needle (c :: cs) = occurrences needle cs + 1 := by
  rw [occurrences, if_pos (List.isPrefixOf_iff_prefix.mpr h)]

theorem occurrences_cons_of_not_begins {c : Char} (h : ¬needle <+: c :: cs)
    : occurrences needle (c :: cs) = occurrences needle cs := by
  rw [occurrences, if_neg fun hbegin => h (List.isPrefixOf_iff_prefix.mp hbegin), Nat.add_zero]

theorem not_occursIn_of_occurrences (hneedle : needle ≠ []) (h : occurrences needle cs = 0)
    : occursIn needle cs = false := by
  induction cs with
  | nil => simpa [occursIn] using hneedle
  | cons c cs ih =>
    by_cases hbegin : needle <+: c :: cs
    . rw [occurrences_cons_of_begins hbegin] at h
      cases h
    . rw [occurrences_cons_of_not_begins hbegin] at h
      rw [occursIn, ih h, Bool.or_false, Bool.eq_false_iff]
      exact fun hbegin' => hbegin (List.isPrefixOf_iff_prefix.mp hbegin')

theorem occurrences_append_of_not_mem {d : Char} {needle before : List Char} (h : d ∉ before) (cs : List Char)
    : occurrences (d :: needle) (before ++ cs) = occurrences (d :: needle) cs := by
  induction before with
  | nil => rfl
  | cons b before ih =>
    rw [List.mem_cons, not_or] at h
    have hbegin : ¬d :: needle <+: b :: (before ++ cs) :=
      fun hbegin => h.1 (List.cons_prefix_cons.mp hbegin).1
    rw [List.cons_append, occurrences_cons_of_not_begins hbegin, ih h.2]

theorem occurrences_append_le (needle as bs : List Char)
    : occurrences needle as + occurrences needle bs ≤ occurrences needle (as ++ bs) := by
  induction as with
  | nil => exact Nat.le_of_eq (Nat.zero_add _)
  | cons a as ih =>
    by_cases hbegin : needle <+: a :: as
    . have hlong : needle <+: a :: (as ++ bs) := hbegin.trans (List.prefix_append (a :: as) bs)
      rw [List.cons_append, occurrences_cons_of_begins hbegin, occurrences_cons_of_begins hlong]
      omega
    . rw [List.cons_append, occurrences_cons_of_not_begins hbegin]
      exact Nat.le_trans ih (Nat.le_add_right ..)

theorem occurrences_self_pos (hneedle : needle ≠ []) : 0 < occurrences needle needle := by
  cases needle with
  | nil => exact absurd rfl hneedle
  | cons c needle =>
    rw [occurrences_cons_of_begins List.prefix_rfl]
    exact Nat.succ_pos _

theorem occurrences_append_cons {c : Char} (hneedle : needle ≠ []) (hc : c ∉ needle) (before cs : List Char)
    : occurrences needle (before ++ c :: cs) = occurrences needle before + occurrences needle cs := by
  have hnil : ¬needle <+: [] := fun h => hneedle (List.prefix_nil.mp h)
  induction before with
  | nil =>
    rw [List.nil_append, occurrences_cons_of_not_begins (not_prefix_append_cons hnil hc cs)]
    exact (Nat.zero_add _).symm
  | cons b before ih =>
    by_cases hbegin : needle <+: b :: before
    . have hlong : needle <+: b :: (before ++ c :: cs) := hbegin.trans (List.prefix_append (b :: before) _)
      rw [List.cons_append, occurrences_cons_of_begins hbegin, occurrences_cons_of_begins hlong, ih,
        Nat.add_right_comm]
    . have hlong : ¬needle <+: b :: (before ++ c :: cs) := not_prefix_append_cons hbegin hc cs
      rw [List.cons_append, occurrences_cons_of_not_begins hbegin, occurrences_cons_of_not_begins hlong, ih]

/-- What occurs at no other place is replaced where it stands. -/
theorem replaceFrom_of_once {d : Char} {needle before after : List Char}
    (h : occurrences (d :: needle) (before ++ (d :: needle ++ after)) ≤ 1) (by_ : List Char)
    : replaceFrom (d :: needle) by_ 0 (before ++ (d :: needle ++ after)) = before ++ (by_ ++ after) := by
  have hself : 0 < occurrences (d :: needle) (d :: needle) := occurrences_self_pos nofun
  induction before with
  | nil =>
    have hafter : occurrences (d :: needle) after = 0 := by
      have hle := occurrences_append_le (d :: needle) (d :: needle) after
      rw [List.nil_append] at h
      omega
    have hnone : occursIn (d :: needle) after = false := not_occursIn_of_occurrences nofun hafter
    rw [List.nil_append, List.nil_append, replaceFrom_needle, replaceFrom_eq_self hnone]
  | cons b before ih =>
    have hbegin : ¬d :: needle <+: b :: (before ++ (d :: needle ++ after)) := by
      intro hbegin
      have hbefore := occurrences_append_le (d :: needle) before (d :: needle ++ after)
      have hafter := occurrences_append_le (d :: needle) (d :: needle) after
      rw [List.cons_append, occurrences_cons_of_begins hbegin] at h
      omega
    rw [List.cons_append, occurrences_cons_of_not_begins hbegin] at h
    rw [List.cons_append, replaceFrom, if_neg fun hp => hbegin (List.isPrefixOf_iff_prefix.mp hp), ih h,
      List.cons_append]

end Text

end Triword
