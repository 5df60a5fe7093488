import Triword.Proofs.Regex.Groups

/-!
The characters that an expression can pass over. They are those of the sets in it, and whether two sets have
a character in common is told by their ranges.
-/

namespace Triword.Regex

/-! ### Sets -/

namespace CharSet

variable {s t : CharSet} {c : Char}

theorem exists_range_of_holds {n : Nat} (hn : n < limit)
    : ∀ {edges : List Nat}, holds n false edges → ∃ r ∈ rangesOf edges, r.1 ≤ n ∧ n ≤ r.2
  | [], h => by cases h
  | [low], h => by
    unfold holds at h
    split at h
    . cases h
    . next hlow => exact ⟨_, List.mem_singleton_self _, Nat.le_of_not_lt hlow, Nat.le_sub_one_of_lt hn⟩
  | low :: next :: edges, h => by
    unfold holds at h
    split at h
    . cases h
    . next hlow =>
      unfold holds at h
      split at h
      . next hnext => exact ⟨_, List.mem_cons_self, Nat.le_of_not_lt hlow, Nat.le_sub_one_of_lt hnext⟩
      . obtain ⟨r, hr, hin⟩ := exists_range_of_holds hn h
        exact ⟨r, List.mem_cons_of_mem _ hr, hin⟩

theorem toNat_lt_limit (c : Char) : c.toNat < limit := by
  unfold limit
  obtain h | h := c.valid
  . exact Nat.lt_trans h (by decide)
  . exact h.2

theorem exists_range_of_contains (h : s.contains c) : ∃ r ∈ s.toRanges, r.1 ≤ c.toNat ∧ c.toNat ≤ r.2 :=
  exists_range_of_holds (toNat_lt_limit c) h

def apart (s t : CharSet) : Bool :=
  s.toRanges.all fun r => t.toRanges.all fun r' => decide (r.2 < r'.1) || decide (r'.2 < r.1)

theorem contains_of_apart (h : s.apart t) (hc : s.contains c) : t.contains c = false := by
  rw [← Bool.not_eq_true]
  intro ht
  obtain ⟨r, hr, hlow, hhigh⟩ := exists_range_of_contains hc
  obtain ⟨r', hr', hlow', hhigh'⟩ := exists_range_of_contains ht
  have hapart := List.all_eq_true.mp (List.all_eq_true.mp h r hr) r' hr'
  rw [Bool.or_eq_true, decide_eq_true_eq, decide_eq_true_eq] at hapart
  omega

end CharSet

namespace Node

variable {a : Node} {as bs : List Node} {p q : Place} {ms : List Mark} {cs : List Char}

theorem exists_reads_times {n : Nat} (h : Passage.times a.Passes n p q ms) : ∃ cs, p.Reads cs q :=
  exists_reads (a := rep a n (some n) false) ⟨n, Nat.le_refl n, fun m _ => Nat.le_max_left n m, h⟩

/-! ### Characters of expressions -/

mutual

/-- The sets that the characters of a match come from. -/
def sets : Node → List CharSet
  | literal cs => cs.map .single
  | set s => [s]
  | rep a _ _ _ | group _ a => a.sets
  | cat as | alt as => setsAll as
  | empty | look _ => []

def setsAll : List Node → List CharSet
  | [] => []
  | a :: as => a.sets ++ setsAll as

end

def Among (sets : List CharSet) (cs : List Char) : Prop :=
  ∀ c ∈ cs, ∃ s ∈ sets, s.contains c

namespace Among

variable {ss ts : List CharSet} {ds : List Char}

theorem mono (h : Among ss cs) (hsub : ss ⊆ ts) : Among ts cs := by
  intro c hc
  obtain ⟨s, hs, hcontains⟩ := h c hc
  exact ⟨s, hsub hs, hcontains⟩

theorem append (h₁ : Among ss cs) (h₂ : Among ss ds) : Among ss (cs ++ ds) :=
  List.forall_mem_append.mpr ⟨h₁, h₂⟩

end Among

mutual

theorem among_of_passes {a : Node} {p q : Place} {ms : List Mark} {cs : List Char} (h : a.Passes p q ms)
    (hreads : p.Reads cs q) : Among a.sets cs := by
  cases a with
  | empty =>
    obtain ⟨rfl, -⟩ := h
    obtain rfl : cs = [] := hreads.unique rfl
    exact List.forall_mem_nil _
  | literal ds =>
    obtain ⟨hpasses, -⟩ := h
    rw [hreads.unique hpasses]
    intro c hc
    exact ⟨.single c, List.mem_map_of_mem hc, (CharSet.contains_single c c).mpr rfl⟩
  | set s =>
    obtain ⟨c, hc, hpasses, -⟩ := h
    rw [hreads.unique hpasses]
    exact List.forall_mem_singleton.mpr ⟨s, List.mem_singleton_self s, hc⟩
  | look l =>
    obtain ⟨-, rfl, -⟩ := h
    obtain rfl : cs = [] := hreads.unique rfl
    exact List.forall_mem_nil _
  | rep a min max lazy =>
    show Among a.sets cs
    obtain ⟨n, -, -, htimes⟩ := h
    -- On the number of times, each of which takes its characters from the same sets.
    induction n generalizing p ms cs with
    | zero =>
      obtain ⟨rfl, -⟩ := htimes
      obtain rfl : cs = [] := hreads.unique rfl
      exact List.forall_mem_nil _
    | succ n ih =>
      obtain ⟨r, ms₁, ms₂, hfirst, hrest, -⟩ := htimes
      obtain ⟨ds, hds⟩ := exists_reads hfirst
      obtain ⟨es, hes⟩ := exists_reads_times hrest
      rw [hreads.unique (hds.trans hes)]
      exact (among_of_passes hfirst hds).append (ih hes hrest)
  | group number a =>
    obtain ⟨ms', h, -⟩ := h
    show Among a.sets cs
    exact among_of_passes h hreads
  | cat as => exact among_of_passesAll h hreads
  | alt as => exact among_of_passesSome h hreads

theorem among_of_passesAll {as : List Node} {p q : Place} {ms : List Mark} {cs : List Char}
    (h : PassesAll as p q ms) (hreads : p.Reads cs q) : Among (setsAll as) cs := by
  cases as with
  | nil =>
    obtain ⟨rfl, -⟩ := h
    obtain rfl : cs = [] := hreads.unique rfl
    exact List.forall_mem_nil _
  | cons a as =>
    obtain ⟨r, ms₁, ms₂, hfirst, hrest, -⟩ := h
    obtain ⟨ds, hds⟩ := exists_reads hfirst
    obtain ⟨es, hes⟩ := exists_reads_all hrest
    rw [hreads.unique (hds.trans hes)]
    exact ((among_of_passes hfirst hds).mono (List.subset_append_left _ _)).append
      ((among_of_passesAll hrest hes).mono (List.subset_append_right _ _))

theorem among_of_passesSome {as : List Node} {p q : Place} {ms : List Mark} {cs : List Char}
    (h : PassesSome as p q ms) (hreads : p.Reads cs q) : Among (setsAll as) cs := by
  cases as with
  | nil =>
    obtain ⟨rfl, -⟩ := h
    obtain rfl : cs = [] := hreads.unique rfl
    exact List.forall_mem_nil _
  | cons a as =>
    cases as with
    | nil => exact (among_of_passes h hreads).mono (List.subset_append_left _ _)
    | cons b as =>
      cases h with
      | inl h => exact (among_of_passes h hreads).mono (List.subset_append_left _ _)
      | inr h => exact (among_of_passesSome h hreads).mono (List.subset_append_right _ _)

end

theorem among_of_matches (h : a.Matches cs) : Among a.sets cs := by
  obtain ⟨p, q, ms, hpasses, hreads⟩ := h
  exact among_of_passes hpasses hreads

/-! ### Parts of passages -/

theorem passesAll_append
    : PassesAll (as ++ bs) p q ms
        ↔
      ∃ r ms₁ ms₂, PassesAll as p r ms₁ ∧ PassesAll bs r q ms₂ ∧ ms = ms₂ ++ ms₁ := by
  induction as generalizing p ms with
  | nil =>
    constructor
    . intro h
      exact ⟨p, [], ms, ⟨rfl, rfl⟩, h, (List.append_nil ms).symm⟩
    . rintro ⟨r, ms₁, ms₂, ⟨rfl, rfl⟩, h, rfl⟩
      rw [List.append_nil]
      exact h
  | cons a as ih =>
    constructor
    . rintro ⟨r, ms₁, ms₂, hfirst, hrest, rfl⟩
      obtain ⟨t, ms₃, ms₄, has, hbs, rfl⟩ := ih.mp hrest
      exact ⟨t, ms₃ ++ ms₁, ms₄, ⟨r, ms₁, ms₃, hfirst, has, rfl⟩, hbs, List.append_assoc ..⟩
    . rintro ⟨t, ms₁, ms₂, ⟨r, ms₃, ms₄, hfirst, has, rfl⟩, hbs, rfl⟩
      exact ⟨r, ms₃, ms₂ ++ ms₄, hfirst, ih.mpr ⟨t, ms₄, ms₂, has, hbs, rfl⟩, (List.append_assoc ..).symm⟩

theorem eq_nil_of_passes {text : List Char} (hbodies : ∀ n, a.bodies n = []) (hp : p.IsIn text)
    (h : a.Passes p q ms) : ms = [] := by
  rw [List.eq_nil_iff_forall_not_mem]
  intro m hm
  have hflat : IsFlat m.group (a.bodies m.group) := by
    rw [hbodies]
    exact List.forall_mem_nil _
  have hpaired := paired_of_passes hflat hp h
  rw [hbodies] at hpaired
  have hmem : m ∈ marksOf m.group ms := List.mem_filter.mpr ⟨hm, beq_self_eq_true m.group⟩
  rw [hpaired.eq_nil] at hmem
  cases hmem

theorem exists_reads_of_row {s : CharSet} {min : Nat} {max : Option Nat} {lazy : Bool}
    (h : (rep (set s) min max lazy).Passes p q ms)
    : ∃ cs, p.Reads cs q ∧ (∀ c ∈ cs, s.contains c) ∧ min ≤ cs.length := by
  obtain ⟨cs, hreads⟩ := exists_reads h
  refine ⟨cs, hreads, forall_of_matches_row ⟨p, q, ms, h, hreads⟩, ?_⟩
  obtain ⟨n, hmin, -, htimes⟩ := h
  suffices hcount : cs.length = n by
    rw [hcount]
    exact hmin
  clear hmin
  induction n generalizing p ms cs with
  | zero =>
    obtain ⟨rfl, -⟩ := htimes
    obtain rfl : cs = [] := hreads.unique rfl
    rfl
  | succ n ih =>
    obtain ⟨r, ms₁, ms₂, ⟨c, -, hfirst, -⟩, hrest, -⟩ := htimes
    obtain ⟨ds, hds⟩ := exists_reads_times hrest
    rw [hreads.unique (hfirst.trans hds)]
    exact congrArg Nat.succ (ih ds hds hrest)

end Node

end Triword.Regex
