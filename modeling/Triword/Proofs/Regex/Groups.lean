import Triword.Proofs.Regex.Search

/-!
The texts of groups. The marks of a group that does not stand inside itself come in pairs, one pair for
each time that its body has been passed, so the text between the last two marks is one that its body
matches.
-/

namespace Triword.Regex

namespace Node

/-! ### Groups of an expression -/

mutual

def bodies (n : Nat) : Node → List Node
  | group m a => if m = n then a :: a.bodies n else a.bodies n
  | rep a _ _ _ => a.bodies n
  | cat as | alt as => bodiesAll n as
  | empty | literal _ | set _ | look _ => []

def bodiesAll (n : Nat) : List Node → List Node
  | [] => []
  | a :: as => a.bodies n ++ bodiesAll n as

end

theorem bodiesAll_append (n : Nat) (as bs : List Node)
    : bodiesAll n (as ++ bs) = bodiesAll n as ++ bodiesAll n bs := by
  induction as with
  | nil => rfl
  | cons a as ih => rw [List.cons_append, bodiesAll, bodiesAll, ih, List.append_assoc]

def IsFlat (n : Nat) (bodies : List Node) : Prop :=
  ∀ b ∈ bodies, b.bodies n = []

def Matches (a : Node) (cs : List Char) : Prop :=
  ∃ p q ms, a.Passes p q ms ∧ p.Reads cs q

/-! ### Passages -/

mutual

theorem exists_reads {a : Node} {p q : Place} {ms : List Mark} (h : a.Passes p q ms)
    : ∃ cs, p.Reads cs q := by
  cases a with
  | empty => exact ⟨[], h.1⟩
  | literal cs => exact ⟨cs, h.1⟩
  | set s =>
    obtain ⟨c, -, hreads, -⟩ := h
    exact ⟨[c], hreads⟩
  | look l => exact ⟨[], h.2.1⟩
  | rep a min max lazy =>
    obtain ⟨n, -, -, htimes⟩ := h
    induction n generalizing p ms with
    | zero => exact ⟨[], htimes.1⟩
    | succ n ih =>
      obtain ⟨r, ms₁, ms₂, hfirst, hrest, -⟩ := htimes
      obtain ⟨cs, hcs⟩ := exists_reads hfirst
      obtain ⟨ds, hds⟩ := ih hrest
      exact ⟨cs ++ ds, hcs.trans hds⟩
  | group number a =>
    obtain ⟨ms', h, -⟩ := h
    exact exists_reads h
  | cat as => exact exists_reads_all h
  | alt as => exact exists_reads_some h

theorem exists_reads_all {as : List Node} {p q : Place} {ms : List Mark} (h : PassesAll as p q ms)
    : ∃ cs, p.Reads cs q := by
  cases as with
  | nil => exact ⟨[], h.1⟩
  | cons a as =>
    obtain ⟨r, ms₁, ms₂, hfirst, hrest, -⟩ := h
    obtain ⟨cs, hcs⟩ := exists_reads hfirst
    obtain ⟨ds, hds⟩ := exists_reads_all hrest
    exact ⟨cs ++ ds, hcs.trans hds⟩

theorem exists_reads_some {as : List Node} {p q : Place} {ms : List Mark} (h : PassesSome as p q ms)
    : ∃ cs, p.Reads cs q := by
  cases as with
  | nil => exact ⟨[], h.1⟩
  | cons a as =>
    cases as with
    | nil => exact exists_reads h
    | cons b as =>
      cases h with
      | inl h => exact exists_reads h
      | inr h => exact exists_reads_some h

end

/-! ### Texts that match -/

variable {a : Node} {as : List Node} {cs : List Char}

theorem eq_of_matches_literal {ds : List Char} (h : (literal ds).Matches cs) : cs = ds := by
  obtain ⟨p, q, ms, ⟨hpasses, -⟩, hreads⟩ := h
  exact hreads.unique hpasses

theorem exists_of_matches_set {s : CharSet} (h : (set s).Matches cs) : ∃ c, s.contains c ∧ cs = [c] := by
  obtain ⟨p, q, ms, ⟨c, hc, hpasses, -⟩, hreads⟩ := h
  exact ⟨c, hc, hreads.unique hpasses⟩

theorem eq_nil_of_matches_cat_nil (h : (cat []).Matches cs) : cs = [] := by
  obtain ⟨p, q, ms, ⟨rfl, -⟩, hreads⟩ := h
  exact hreads.unique rfl

theorem exists_of_matches_cat_cons (h : (cat (a :: as)).Matches cs)
    : ∃ ds es, cs = ds ++ es ∧ a.Matches ds ∧ (cat as).Matches es := by
  obtain ⟨p, q, ms, ⟨r, ms₁, ms₂, hfirst, hrest, -⟩, hreads⟩ := h
  obtain ⟨ds, hds⟩ := exists_reads hfirst
  obtain ⟨es, hes⟩ := exists_reads_all hrest
  refine ⟨ds, es, hreads.unique (hds.trans hes), ⟨p, r, ms₁, hfirst, hds⟩, ⟨r, q, ms₂, hrest, hes⟩⟩

theorem eq_nil_or_matches_of_optional {lazy : Bool} (h : (rep a 0 (some 1) lazy).Matches cs)
    : cs = [] ∨ a.Matches cs := by
  obtain ⟨p, q, ms, ⟨n, -, hmax, htimes⟩, hreads⟩ := h
  have hn : n ≤ 1 := hmax 1 rfl
  cases n with
  | zero =>
    obtain ⟨rfl, -⟩ := htimes
    exact .inl (hreads.unique rfl)
  | succ n =>
    obtain rfl : n = 0 := by omega
    obtain ⟨r, ms₁, ms₂, hfirst, ⟨rfl, -⟩, -⟩ := htimes
    exact .inr ⟨p, q, ms₁, hfirst, hreads⟩

theorem forall_of_matches_row {s : CharSet} {min : Nat} {max : Option Nat} {lazy : Bool}
    (h : (rep (set s) min max lazy).Matches cs)
    : ∀ c ∈ cs, s.contains c := by
  obtain ⟨p, q, ms, ⟨n, -, -, htimes⟩, hreads⟩ := h
  induction n generalizing p cs ms with
  | zero =>
    obtain ⟨rfl, -⟩ := htimes
    obtain rfl : cs = [] := hreads.unique rfl
    exact fun c hc => absurd hc List.not_mem_nil
  | succ n ih =>
    obtain ⟨r, ms₁, ms₂, ⟨c, hc, hfirst, -⟩, hrest, -⟩ := htimes
    obtain ⟨ds, hds⟩ : ∃ ds, r.Reads ds q :=
      exists_reads (a := rep (set s) n (some n) lazy) ⟨n, Nat.le_refl n, fun m _ => Nat.le_max_left n m, hrest⟩
    rw [hreads.unique (hfirst.trans hds)]
    exact List.forall_mem_cons.mpr ⟨hc, ih r ms₂ hds hrest⟩

/-! ### Marks -/

/-- The marks of a group: a pair of them around each text that one of its bodies has matched. -/
inductive Paired (text : List Char) (bodies : List Node) (n : Nat) : List Mark → Prop where
  | nil : Paired text bodies n []
  | cons {p q : Place} {cs : List Char} {b : Node} {ms : List Mark} (hp : p.IsIn text) (hb : b ∈ bodies)
      (hmatches : b.Matches cs) (hreads : p.Reads cs q) (hrest : Paired text bodies n ms)
      : Paired text bodies n (⟨n, false, q.pos⟩ :: ⟨n, true, p.pos⟩ :: ms)

namespace Paired

variable {text : List Char} {bs bs' : List Node} {n : Nat} {ms ms' : List Mark}

theorem append (h : Paired text bs n ms) (h' : Paired text bs n ms') : Paired text bs n (ms ++ ms') := by
  induction h with
  | nil => exact h'
  | cons hp hb hmatches hreads _ ih => exact .cons hp hb hmatches hreads ih

theorem mono (h : Paired text bs n ms) (hsub : bs ⊆ bs') : Paired text bs' n ms := by
  induction h with
  | nil => exact .nil
  | cons hp hb hmatches hreads _ ih => exact .cons hp (hsub hb) hmatches hreads ih

theorem eq_nil (h : Paired text [] n ms) : ms = [] := by
  cases h with
  | nil => rfl
  | cons _ hb => cases hb

end Paired

def marksOf (n : Nat) (ms : List Mark) : List Mark :=
  ms.filter fun m => m.group == n

theorem marksOf_append (n : Nat) (ms ms' : List Mark)
    : marksOf n (ms ++ ms') = marksOf n ms ++ marksOf n ms' := by
  exact List.filter_append ..

variable {text : List Char} {n : Nat}

mutual

theorem paired_of_passes {a : Node} {p q : Place} {ms : List Mark} (hflat : IsFlat n (a.bodies n))
    (hp : p.IsIn text) (h : a.Passes p q ms) : Paired text (a.bodies n) n (marksOf n ms) := by
  cases a with
  | empty =>
    obtain ⟨-, rfl⟩ := h
    exact .nil
  | literal cs =>
    obtain ⟨-, rfl⟩ := h
    exact .nil
  | set s =>
    obtain ⟨c, -, -, rfl⟩ := h
    exact .nil
  | look l =>
    obtain ⟨-, -, rfl⟩ := h
    exact .nil
  | rep a min max lazy =>
    have hbody : IsFlat n (a.bodies n) := hflat
    obtain ⟨k, -, -, htimes⟩ := h
    induction k generalizing p ms with
    | zero =>
      obtain ⟨-, rfl⟩ := htimes
      exact .nil
    | succ k ih =>
      obtain ⟨r, ms₁, ms₂, hfirst, hrest, rfl⟩ := htimes
      obtain ⟨cs, hreads⟩ := exists_reads hfirst
      have hpaired := paired_of_passes hbody hp hfirst
      rw [marksOf_append]
      exact (ih (hp.of_reads hreads) hrest).append hpaired
  | group m a =>
    obtain ⟨ms', hbody, rfl⟩ := h
    by_cases hm : n = m
    . subst hm
      rw [bodies, if_pos rfl] at hflat ⊢
      -- The body sets no marks of this group, so the pair around it is all there is.
      have hinner : a.bodies n = [] := hflat a List.mem_cons_self
      rw [hinner]
      have hnone : marksOf n ms' = [] := by
        have hempty : IsFlat n (a.bodies n) := by
          rw [hinner]
          exact List.forall_mem_nil _
        have hpaired := paired_of_passes hempty hp hbody
        rw [hinner] at hpaired
        exact hpaired.eq_nil
      obtain ⟨cs, hreads⟩ := exists_reads hbody
      have hpair : Paired text [a] n [⟨n, false, q.pos⟩, ⟨n, true, p.pos⟩] :=
        .cons hp List.mem_cons_self ⟨p, q, ms', hbody, hreads⟩ hreads .nil
      unfold marksOf at hnone ⊢
      rw [List.cons_append, List.filter_cons, List.filter_append, hnone]
      simpa using hpair
    . rw [bodies, if_neg (Ne.symm hm)] at hflat ⊢
      have hbody := paired_of_passes hflat hp hbody
      unfold marksOf at hbody ⊢
      rw [List.cons_append, List.filter_cons, List.filter_append]
      simpa [Ne.symm hm] using hbody
  | cat as => exact paired_of_passesAll hflat hp h
  | alt as => exact paired_of_passesSome hflat hp h

theorem paired_of_passesAll {as : List Node} {p q : Place} {ms : List Mark}
    (hflat : IsFlat n (bodiesAll n as)) (hp : p.IsIn text) (h : PassesAll as p q ms)
    : Paired text (bodiesAll n as) n (marksOf n ms) := by
  cases as with
  | nil =>
    obtain ⟨-, rfl⟩ := h
    exact .nil
  | cons a as =>
    obtain ⟨r, ms₁, ms₂, hfirst, hrest, rfl⟩ := h
    obtain ⟨hflat₁, hflat₂⟩ := List.forall_mem_append.mp hflat
    obtain ⟨cs, hreads⟩ := exists_reads hfirst
    have hpaired₁ := paired_of_passes hflat₁ hp hfirst
    have hpaired₂ := paired_of_passesAll hflat₂ (hp.of_reads hreads) hrest
    rw [marksOf_append]
    exact (hpaired₂.mono (List.subset_append_right _ _)).append
      (hpaired₁.mono (List.subset_append_left _ _))

theorem paired_of_passesSome {as : List Node} {p q : Place} {ms : List Mark}
    (hflat : IsFlat n (bodiesAll n as)) (hp : p.IsIn text) (h : PassesSome as p q ms)
    : Paired text (bodiesAll n as) n (marksOf n ms) := by
  cases as with
  | nil =>
    obtain ⟨-, rfl⟩ := h
    exact .nil
  | cons a as =>
    obtain ⟨hflat₁, hflat₂⟩ := List.forall_mem_append.mp hflat
    cases as with
    | nil => exact (paired_of_passes hflat₁ hp h).mono (List.subset_append_left _ _)
    | cons b as =>
      cases h with
      | inl h => exact (paired_of_passes hflat₁ hp h).mono (List.subset_append_left _ _)
      | inr h => exact (paired_of_passesSome hflat₂ hp h).mono (List.subset_append_right _ _)

end

end Node

/-! ### Texts -/

namespace Expression

theorem pos?_eq_head? (c : Captures) (n : Nat) (isOpen : Bool)
    : c.pos? n isOpen = ((Node.marksOf n c.marks).find? (·.isOpen == isOpen)).map Mark.pos := by
  unfold Captures.pos? Node.marksOf
  simp only [List.find?_filter, Bool.decide_and, Bool.decide_eq_true]

/-- The text of a group, none of which stands inside another, is one that a body of the group matches. -/
theorem exists_matches_of_numbered? {e : Expression} {text : String} {c : Captures} {n : Nat} {t : String}
    (hflat : Node.IsFlat n (e.node.bodies n)) (hcaptures : e.captures? text = some c)
    (ht : c.numbered? n = some t) : ∃ b ∈ e.node.bodies n, b.Matches t.toList := by
  obtain ⟨htext, -, p, q, hp, hpasses⟩ := exists_passes hcaptures
  have hpaired := Node.paired_of_passes hflat hp hpasses
  unfold Captures.numbered? at ht
  rw [pos?_eq_head?, pos?_eq_head?, htext] at ht
  generalize Node.marksOf n c.marks = ms at hpaired ht
  cases hpaired with
  | nil => cases ht
  | @cons p q cs b ms hp hb hmatches hreads hrest =>
    have hcs : t = String.ofList ((text.toList.drop p.pos).take (q.pos - p.pos)) :=
      (Option.some.inj ht).symm
    rw [hp.take_eq hreads] at hcs
    rw [hcs, String.toList_ofList]
    exact ⟨b, hb, hmatches⟩

end Expression

end Triword.Regex
