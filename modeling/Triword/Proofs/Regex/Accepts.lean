import Triword.Proofs.Regex.Groups

/-!
What an expression passes over wherever it comes next. A sequence does so for what its parts do so for, and an
expression of which no part looks around does so for all that it matches somewhere.
-/

namespace Triword.Regex

namespace Place

variable {p q : Place} {cs ds : List Char}

theorem exists_reads_end (p : Place) (h : p.rest = cs) : ∃ q, p.Reads cs q ∧ q.rest = [] := by
  induction cs generalizing p with
  | nil => exact ⟨p, rfl, h⟩
  | cons c cs ih =>
    obtain ⟨q, hreads, hend⟩ := ih (p.step c cs) rfl
    exact ⟨q, ⟨cs, h, hreads⟩, hend⟩

theorem Reads.exists_of_append (h : p.Reads (cs ++ ds) q) : ∃ r, p.Reads cs r ∧ r.Reads ds q := by
  induction cs generalizing p with
  | nil => exact ⟨p, rfl, h⟩
  | cons c cs ih =>
    obtain ⟨rest, hrest, h⟩ := h
    obtain ⟨r, hcs, hds⟩ := ih h
    exact ⟨r, ⟨rest, hrest, hcs⟩, hds⟩

end Place

namespace Node

variable {a : Node} {as : List Node} {s : CharSet} {c : Char} {cs ds : List Char} {lazy : Bool}

/-- An expression passes over these characters wherever they come next. -/
def Accepts (a : Node) (cs : List Char) : Prop :=
  ∀ ⦃p q : Place⦄, p.Reads cs q → ∃ ms, a.Passes p q ms

theorem accepts_literal (cs : List Char) : (literal cs).Accepts cs :=
  fun _ _ h => ⟨[], h, rfl⟩

theorem accepts_set (h : s.contains c) : (set s).Accepts [c] :=
  fun _ _ hreads => ⟨[], c, h, hreads, rfl⟩

theorem Accepts.group (h : a.Accepts cs) (number : Nat) : (group number a).Accepts cs := by
  intro p q hreads
  obtain ⟨ms, hpasses⟩ := h hreads
  exact ⟨_, ms, hpasses, rfl⟩

theorem accepts_cat_nil : (cat []).Accepts [] :=
  fun _ _ h => ⟨[], h, rfl⟩

theorem Accepts.cat_cons (h : a.Accepts cs) (hrest : (cat as).Accepts ds)
    : (cat (a :: as)).Accepts (cs ++ ds) := by
  intro p q hreads
  obtain ⟨r, hcs, hds⟩ := hreads.exists_of_append
  obtain ⟨ms₁, hfirst⟩ := h hcs
  obtain ⟨ms₂, hmore⟩ := hrest hds
  exact ⟨_, r, ms₁, ms₂, hfirst, hmore, rfl⟩

theorem accepts_cat_singleton (h : a.Accepts cs) : (cat [a]).Accepts cs := by
  have hcat := h.cat_cons accepts_cat_nil
  rw [List.append_nil] at hcat
  exact hcat

theorem Accepts.alt (h : a.Accepts cs) (ha : a ∈ as) : (alt as).Accepts cs := by
  intro p q hreads
  obtain ⟨ms, hpasses⟩ := h hreads
  refine ⟨ms, ?_⟩
  show PassesSome as p q ms
  induction as with
  | nil => cases ha
  | cons b as ih =>
    cases as with
    | nil =>
      rw [List.mem_singleton] at ha
      rw [← ha]
      exact hpasses
    | cons b' as =>
      obtain rfl | ha := List.mem_cons.mp ha
      . exact .inl hpasses
      . exact .inr (ih ha)

theorem accepts_optional_nil (a : Node) (max : Option Nat) : (rep a 0 max lazy).Accepts [] := by
  rintro p q rfl
  exact ⟨[], 0, Nat.le_refl 0, fun m _ => Nat.zero_le _, rfl, rfl⟩

theorem Accepts.optional (h : a.Accepts cs) : (rep a 0 (some 1) lazy).Accepts cs := by
  intro p q hreads
  obtain ⟨ms, hpasses⟩ := h hreads
  refine ⟨ms, 1, Nat.zero_le 1, ?_, Passage.times_one hpasses⟩
  intro m hm
  cases hm
  exact Nat.le_refl 1

theorem exists_times_of_reads {p q : Place} (h : ∀ c ∈ cs, s.contains c) (hreads : p.Reads cs q)
    : Passage.times (set s).Passes cs.length p q [] := by
  induction cs generalizing p with
  | nil => exact ⟨hreads, rfl⟩
  | cons c cs ih =>
    obtain ⟨hc, hcs⟩ := List.forall_mem_cons.mp h
    obtain ⟨rest, hrest, hreads⟩ := hreads
    exact ⟨p.step c rest, [], [], ⟨c, hc, ⟨rest, hrest, rfl⟩, rfl⟩, ih hcs hreads, rfl⟩

theorem accepts_row {min : Nat} (h : ∀ c ∈ cs, s.contains c) (hmin : min ≤ cs.length)
    : (rep (set s) min none lazy).Accepts cs :=
  fun _ _ hreads => ⟨[], cs.length, hmin, nofun, exists_times_of_reads h hreads⟩

theorem Accepts.matches (h : a.Accepts cs) : a.Matches cs := by
  obtain ⟨q, hreads, -⟩ := Place.exists_reads_end (.start cs) rfl
  obtain ⟨ms, hpasses⟩ := h hreads
  exact ⟨.start cs, q, ms, hpasses, hreads⟩

end Node

end Triword.Regex
