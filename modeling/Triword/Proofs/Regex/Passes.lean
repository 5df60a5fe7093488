import Triword.Regex.Search

/-!
What it means that an expression matches a part of a text. An expression passes from one place to another
by its parts, and on its way marks where its groups begin and end. Nothing is said about which of several
ways is preferred.
-/

namespace Triword.Regex

namespace Place

def Reads : Place → List Char → Place → Prop
  | p, [], q => q = p
  | p, c :: cs, q => ∃ rest, p.rest = c :: rest ∧ (p.step c rest).Reads cs q

namespace Reads

variable {p q r : Place} {cs ds : List Char}

theorem rest_eq (h : p.Reads cs q) : p.rest = cs ++ q.rest := by
  induction cs generalizing p with
  | nil =>
    cases h
    rfl
  | cons c cs ih =>
    obtain ⟨rest, hrest, h⟩ := h
    rw [hrest, List.cons_append, ← ih h]
    rfl

theorem pos_eq (h : p.Reads cs q) : q.pos = p.pos + cs.length := by
  induction cs generalizing p with
  | nil =>
    cases h
    rfl
  | cons c cs ih =>
    obtain ⟨rest, -, h⟩ := h
    rw [ih h, List.length_cons]
    show p.pos + 1 + cs.length = _
    omega

theorem trans (h₁ : p.Reads cs q) (h₂ : q.Reads ds r) : p.Reads (cs ++ ds) r := by
  induction cs generalizing p with
  | nil =>
    cases h₁
    exact h₂
  | cons c cs ih =>
    obtain ⟨rest, hrest, h₁⟩ := h₁
    exact ⟨rest, hrest, ih h₁⟩

theorem unique (h₁ : p.Reads cs q) (h₂ : p.Reads ds q) : cs = ds := by
  have hlength : cs.length = ds.length := by
    have hpos₁ := h₁.pos_eq
    have hpos₂ := h₂.pos_eq
    omega
  exact List.append_inj_left (h₁.rest_eq.symm.trans h₂.rest_eq) hlength

theorem isSome_before (h : p.Reads cs q) (hcs : cs ≠ []) : q.before.isSome := by
  induction cs generalizing p with
  | nil => exact absurd rfl hcs
  | cons c cs ih =>
    obtain ⟨rest, -, h⟩ := h
    cases cs with
    | nil =>
      cases h
      rfl
    | cons d cs => exact ih h (List.cons_ne_nil d cs)

end Reads

def IsIn (p : Place) (text : List Char) : Prop :=
  ∃ cs, (start text).Reads cs p

namespace IsIn

variable {p q : Place} {text cs : List Char}

theorem start (text : List Char) : (Place.start text).IsIn text :=
  ⟨[], rfl⟩

theorem of_reads (hp : p.IsIn text) (h : p.Reads cs q) : q.IsIn text := by
  obtain ⟨ds, hp⟩ := hp
  exact ⟨ds ++ cs, hp.trans h⟩

theorem rest_eq (hp : p.IsIn text) : p.rest = text.drop p.pos := by
  obtain ⟨ds, hp⟩ := hp
  have hrest : text = ds ++ p.rest := hp.rest_eq
  have hpos : p.pos = 0 + ds.length := hp.pos_eq
  rw [hpos, Nat.zero_add, hrest, List.drop_left]

theorem pos_add_length (hp : p.IsIn text) : p.pos + p.rest.length = text.length := by
  obtain ⟨ds, hp⟩ := hp
  have hrest : text = ds ++ p.rest := hp.rest_eq
  have hpos : p.pos = 0 + ds.length := hp.pos_eq
  rw [hpos, Nat.zero_add, hrest, List.length_append]

theorem length_le_pos {before rest : List Char} {c : Char} (hp : p.IsIn text) (hbefore : before <+: text)
    (hc : c ∉ before) (hrest : p.rest = c :: rest) : before.length ≤ p.pos := by
  obtain ⟨after, rfl⟩ := hbefore
  apply Nat.le_of_not_lt
  intro hpos
  rw [hp.rest_eq, List.drop_append_of_le_length (Nat.le_of_lt hpos), List.drop_eq_getElem_cons hpos] at hrest
  obtain ⟨rfl, -⟩ := List.cons.inj hrest
  exact hc (List.getElem_mem hpos)

theorem take_eq (hp : p.IsIn text) (h : p.Reads cs q) : (text.drop p.pos).take (q.pos - p.pos) = cs := by
  rw [← hp.rest_eq, h.rest_eq, h.pos_eq, Nat.add_sub_cancel_left, List.take_left]

theorem rest_eq_of_textStart (hp : p.IsIn text) (h : p.satisfies .textStart) : p.rest = text := by
  obtain ⟨cs, hp⟩ := hp
  cases cs with
  | nil =>
    cases hp
    rfl
  | cons c cs =>
    have hsome := hp.isSome_before (List.cons_ne_nil c cs)
    rw [Option.isSome_iff_ne_none] at hsome
    exact absurd (Option.isNone_iff_eq_none.mp h) hsome

end IsIn

end Place

/-- A way from one place to another, with the marks that it sets, the last one first. -/
abbrev Passage := Place → Place → List Mark → Prop

namespace Passage

def andThen (R S : Passage) : Passage := fun p q ms =>
  ∃ r ms₁ ms₂, R p r ms₁ ∧ S r q ms₂ ∧ ms = ms₂ ++ ms₁

def stay : Passage := fun p q ms =>
  q = p ∧ ms = []

def times (R : Passage) : Nat → Passage
  | 0 => stay
  | n + 1 => R.andThen (R.times n)

variable {R S : Passage} {p q r : Place} {ms ms₁ ms₂ : List Mark} {m n : Nat}

theorem times_add (h₁ : R.times m p r ms₁) (h₂ : R.times n r q ms₂) : R.times (m + n) p q (ms₂ ++ ms₁) := by
  induction m generalizing p ms₁ with
  | zero =>
    obtain ⟨rfl, rfl⟩ := h₁
    rw [Nat.zero_add, List.append_nil]
    exact h₂
  | succ m ih =>
    obtain ⟨t, ms₃, ms₄, hfirst, hrest, rfl⟩ := h₁
    rw [Nat.succ_add, ← List.append_assoc]
    exact ⟨t, ms₃, ms₂ ++ ms₄, hfirst, ih hrest, rfl⟩

theorem times_one (h : R p q ms) : R.times 1 p q ms :=
  ⟨q, ms, [], h, ⟨rfl, rfl⟩, rfl⟩

end Passage

namespace Node

mutual

def Passes : Node → Passage
  | empty, p, q, ms => Passage.stay p q ms
  | literal cs, p, q, ms => p.Reads cs q ∧ ms = []
  | set s, p, q, ms => ∃ c, s.contains c ∧ p.Reads [c] q ∧ ms = []
  | look l, p, q, ms => p.satisfies l ∧ Passage.stay p q ms
  | rep a min max _, p, q, ms =>
    ∃ n, min ≤ n ∧ (∀ m, max = some m → n ≤ Nat.max min m) ∧ Passage.times a.Passes n p q ms
  | group number a, p, q, ms =>
    ∃ ms', a.Passes p q ms' ∧ ms = ⟨number, false, q.pos⟩ :: ms' ++ [⟨number, true, p.pos⟩]
  | cat as, p, q, ms => PassesAll as p q ms
  | alt as, p, q, ms => PassesSome as p q ms

def PassesAll : List Node → Passage
  | [], p, q, ms => Passage.stay p q ms
  | a :: as, p, q, ms => Passage.andThen a.Passes (PassesAll as) p q ms

def PassesSome : List Node → Passage
  | [], p, q, ms => Passage.stay p q ms
  | [a], p, q, ms => a.Passes p q ms
  | a :: b :: as, p, q, ms => a.Passes p q ms ∨ PassesSome (b :: as) p q ms

end

def admits : List CharSet → List Char → Bool
  | s :: ss, c :: cs => s.contains c && admits ss cs
  | _, _ => true

theorem admits_of_append {ss : List CharSet} {cs ds : List Char} (h : admits ss (cs ++ ds))
    : admits ss cs := by
  induction ss generalizing cs with
  | nil => rfl
  | cons s ss ih =>
    cases cs with
    | nil => rfl
    | cons c cs =>
      obtain ⟨hc, hcs⟩ := Bool.and_eq_true_iff.mp h
      exact Bool.and_eq_true_iff.mpr ⟨hc, ih hcs⟩

theorem admits_of_passesAll {ss : List CharSet} {as : List Node} {p q : Place} {ms : List Mark}
    (h : PassesAll (ss.map set ++ as) p q ms)
    : admits ss p.rest := by
  induction ss generalizing p ms with
  | nil => rfl
  | cons s ss ih =>
    obtain ⟨r, ms₁, ms₂, ⟨c, hc, hreads, -⟩, hrest, -⟩ := h
    rw [hreads.rest_eq]
    exact Bool.and_eq_true_iff.mpr ⟨hc, ih hrest⟩

end Node

end Triword.Regex
