import Triword.Proofs.Regex.Code

/-!
Runs from passages. Every passage of an expression is taken by a run through its steps, so a place can be
passed to if and only if there is a run to it.
-/

namespace Triword.Regex

namespace Passage

variable {R : Passage} {p q : Place} {ms : List Mark} {m n : Nat}

theorem andThen_of_times_add (h : R.times (m + n) p q ms) : (R.times m).andThen (R.times n) p q ms := by
  induction m generalizing p ms with
  | zero =>
    rw [Nat.zero_add] at h
    exact ⟨p, [], ms, ⟨rfl, rfl⟩, h, (List.append_nil ms).symm⟩
  | succ m ih =>
    rw [Nat.succ_add] at h
    obtain ⟨r, ms₁, ms', hfirst, hrest, rfl⟩ := h
    obtain ⟨t, ms₂, ms₃, hm, hn, rfl⟩ := ih hrest
    exact ⟨t, ms₂ ++ ms₁, ms₃, ⟨r, ms₁, ms₂, hfirst, hm, rfl⟩, hn, List.append_assoc ..⟩

end Passage

namespace Code

variable {code body rest : Code} {R S : Passage} {step n : Nat} {p q : Place} {ms : List Mark}

/-- A run from the end of a part goes on from a passage of it, and so there is a run from its start. -/
def Complete (body : Code) (R : Passage) : Prop :=
  ∀ ⦃code : Code⦄ ⦃n step : Nat⦄ ⦃p q : Place⦄ ⦃ms : List Mark⦄, code.Placed step body
    → Passage.andThen R (code.Runs n (step + body.length)) p q ms
    → ∃ m, code.Runs m step p q ms

theorem Complete.mono (h : Complete body R) (hSR : ∀ p q ms, S p q ms → R p q ms) : Complete body S := by
  rintro code n step p q ms hplaced ⟨r, ms₁, ms₂, hS, hrun, rfl⟩
  exact h hplaced ⟨r, ms₁, ms₂, hSR _ _ _ hS, hrun, rfl⟩

theorem complete_nil : Complete [] Passage.stay := by
  rintro code n step p q ms - ⟨r, ms₁, ms₂, ⟨rfl, rfl⟩, hrun, rfl⟩
  rw [List.append_nil]
  exact ⟨n, hrun⟩

theorem Complete.append (hbody : Complete body R) (hrest : Complete rest S)
    : Complete (body ++ rest) (R.andThen S) := by
  rintro code n step p q ms hplaced ⟨r, ms', ms, ⟨t, ms₁, ms₂, hR, hS, rfl⟩, hrun, rfl⟩
  obtain ⟨hplaced₁, hplaced₂⟩ := hplaced.append
  rw [List.length_append, ← Nat.add_assoc] at hrun
  obtain ⟨m, hmiddle⟩ := hrest hplaced₂ ⟨r, ms₂, ms, hS, hrun, rfl⟩
  exact hbody hplaced₁ ⟨t, ms₁, ms ++ ms₂, hR, hmiddle, (List.append_assoc ..).symm⟩

/-! ### Single steps -/

theorem complete_singleton {s : Step} (h : ∀ {step p p' ms}, R p p' ms → s.Goes step p (step + 1) p' ms)
    : Complete [s] R := by
  rintro code n step p q ms hplaced ⟨r, ms₁, ms₂, hR, hrun, rfl⟩
  exact ⟨n + 1, .step hplaced.cons.1 (h hR) hrun⟩

theorem complete_take (s : CharSet)
    : Complete [.take s] fun p q ms => ∃ c, s.contains c ∧ p.Reads [c] q ∧ ms = [] := by
  apply complete_singleton
  rintro step p p' ms ⟨c, hc, hreads, rfl⟩
  exact ⟨rfl, ⟨c, hc, hreads⟩, rfl⟩

theorem complete_look (l : Look)
    : Complete [.look l] fun p q ms => p.satisfies l ∧ Passage.stay p q ms := by
  apply complete_singleton
  rintro step p p' ms ⟨hl, rfl, rfl⟩
  exact ⟨rfl, ⟨hl, rfl⟩, rfl⟩

theorem runs_fork {i j : Int} {step' : Nat} (h : code[step]? = some (.fork i j))
    (hstep : step' = ((step : Int) + i).toNat ∨ step' = ((step : Int) + j).toNat)
    (hrun : code.Runs n step' p q ms) : code.Runs (n + 1) step p q ms := by
  have hrun' := Runs.step h ⟨hstep, rfl, rfl⟩ hrun
  rw [List.append_nil] at hrun'
  exact hrun'

theorem runs_jump {i : Int} {step' : Nat} (h : code[step]? = some (.jump i))
    (hstep : step' = ((step : Int) + i).toNat) (hrun : code.Runs n step' p q ms)
    : code.Runs (n + 1) step p q ms := by
  have hrun' := Runs.step h ⟨hstep, rfl, rfl⟩ hrun
  rw [List.append_nil] at hrun'
  exact hrun'

theorem runs_choose {lazy : Bool} {distance step' : Nat} (h : code[step]? = some (choose lazy distance))
    (hstep : step' = step + 1 ∨ step' = step + distance) (hrun : code.Runs n step' p q ms)
    : code.Runs (n + 1) step p q ms := by
  unfold choose at h
  cases lazy with
  | false => exact runs_fork h (by omega) hrun
  | true => exact runs_fork h (by omega) hrun

/-! ### Repetitions -/

theorem complete_times (h : Complete body R) (n : Nat) : Complete (times n body) (R.times n) := by
  induction n with
  | zero => exact complete_nil
  | succ n ih =>
    show Complete (List.replicate (n + 1) body).flatten _
    rw [List.replicate_succ, List.flatten_cons]
    exact h.append ih

theorem complete_upTo (h : Complete body R) (lazy : Bool) (n : Nat)
    : Complete (upTo n lazy body) fun p q ms => ∃ k ≤ n, R.times k p q ms := by
  induction n with
  | zero =>
    apply complete_nil.mono
    rintro p q ms ⟨k, hk, htimes⟩
    obtain rfl := Nat.le_zero.mp hk
    exact htimes
  | succ n ih =>
    rintro code m step p q ms hplaced ⟨r, ms', ms, ⟨k, hk, htimes⟩, hrun, rfl⟩
    have hlength := length_upTo (n + 1) lazy body
    rw [upTo_succ] at hplaced hlength hrun
    obtain ⟨hstep, hrest⟩ := hplaced.cons
    cases k with
    | zero =>
      obtain ⟨rfl, rfl⟩ := htimes
      rw [List.append_nil]
      exact ⟨m + 1, runs_choose hstep (.inr (by rw [hlength])) hrun⟩
    | succ k =>
      obtain ⟨t, ms₁, ms₂, hfirst, htimes, rfl⟩ := htimes
      rw [List.length_cons, Nat.add_comm _ 1, ← Nat.add_assoc] at hrun
      obtain ⟨m', hinto⟩ := h.append ih hrest
        ⟨r, ms₂ ++ ms₁, ms, ⟨t, ms₁, ms₂, hfirst, ⟨k, Nat.le_of_succ_le_succ hk, htimes⟩, rfl⟩, hrun, rfl⟩
      exact ⟨m' + 1, runs_choose hstep (.inl rfl) hinto⟩

theorem complete_plus (h : Complete body R) (lazy : Bool)
    : Complete (plus lazy body) fun p q ms => ∃ k, 1 ≤ k ∧ R.times k p q ms := by
  rintro code n step p q ms hplaced ⟨r, ms', ms, ⟨k, hk, htimes⟩, hrun, rfl⟩
  obtain ⟨hbody, hlast⟩ := hplaced.append
  have hlength : step + (plus lazy body).length = step + body.length + 1 := by
    simp [plus, Nat.add_assoc]
  rw [hlength] at hrun
  -- After each time the last step goes back to the start of the body or on to the end.
  have hagain : ∀ {m step' p q ms}, step' = step ∨ step' = step + body.length + 1 → code.Runs m step' p q ms
      → code.Runs (m + 1) (step + body.length) p q ms := by
    intro m step' p q ms hstep hnext
    cases lazy with
    | false => exact runs_fork hlast.cons.1 (by omega) hnext
    | true => exact runs_fork hlast.cons.1 (by omega) hnext
  obtain ⟨k, rfl⟩ := Nat.exists_eq_add_of_le' hk
  clear hk
  induction k generalizing p ms' with
  | zero =>
    obtain ⟨t, ms₁, ms₂, hfirst, ⟨rfl, rfl⟩, rfl⟩ := htimes
    exact h hbody ⟨_, _, ms, hfirst, hagain (.inr rfl) hrun, rfl⟩
  | succ k ih =>
    obtain ⟨t, ms₁, ms₂, hfirst, hmore, rfl⟩ := htimes
    obtain ⟨m, hnext⟩ := ih _ hmore
    exact h hbody ⟨t, ms₁, ms ++ ms₂, hfirst, hagain (.inl rfl) hnext, (List.append_assoc ..).symm⟩

theorem complete_star (h : Complete body R) (lazy : Bool)
    : Complete (star lazy body) fun p q ms => ∃ k, R.times k p q ms := by
  rintro code n step p q ms hplaced ⟨r, ms', ms, ⟨k, htimes⟩, hrun, rfl⟩
  have hlength : (star lazy body).length = body.length + 2 := by
    simp [star]
  rw [hlength] at hrun
  obtain ⟨hstep, hrest⟩ := Placed.cons (show code.Placed step (_ :: (body ++ [_])) from hplaced)
  obtain ⟨hbody, hlast⟩ := hrest.append
  induction k generalizing p ms' with
  | zero =>
    obtain ⟨rfl, rfl⟩ := htimes
    rw [List.append_nil]
    exact ⟨n + 1, runs_choose hstep (.inr rfl) hrun⟩
  | succ k ih =>
    obtain ⟨t, ms₁, ms₂, hfirst, hmore, rfl⟩ := htimes
    obtain ⟨m, hnext⟩ := ih _ hmore
    have hback := runs_jump hlast.cons.1 (by omega) hnext
    obtain ⟨m', hinto⟩ := h hbody ⟨t, ms₁, ms ++ ms₂, hfirst, hback, (List.append_assoc ..).symm⟩
    exact ⟨m' + 1, runs_choose hstep (.inl rfl) hinto⟩

theorem complete_repeated (h : Complete body R) (min : Nat) (max : Option Nat) (lazy takesUp : Bool)
    : Complete (repeated min max lazy takesUp body) fun p q ms =>
        ∃ n, min ≤ n ∧ (∀ m, max = some m → n ≤ Nat.max min m) ∧ R.times n p q ms := by
  unfold repeated
  split
  . next max =>
    apply ((complete_times h min).append (complete_upTo h lazy (max - min))).mono
    rintro p q ms ⟨n, hmin, hmax, htimes⟩
    obtain ⟨k, rfl⟩ := Nat.exists_eq_add_of_le hmin
    obtain ⟨r, ms₁, ms₂, hfirst, hrest, rfl⟩ := Passage.andThen_of_times_add htimes
    have hk : min + k ≤ Max.max min max := hmax max rfl
    exact ⟨r, ms₁, ms₂, hfirst, ⟨k, by omega, hrest⟩, rfl⟩
  . split
    . apply (complete_star h lazy).mono
      rintro p q ms ⟨n, -, -, htimes⟩
      exact ⟨n, htimes⟩
    -- No times go around the repetition, and any others are one passage of it.
    . apply (complete_upTo (complete_plus h lazy) lazy 1).mono
      rintro p q ms ⟨n, -, -, htimes⟩
      cases n with
      | zero => exact ⟨0, Nat.zero_le 1, htimes⟩
      | succ n => exact ⟨1, Nat.le_refl 1, Passage.times_one ⟨n + 1, Nat.le_add_left 1 n, htimes⟩⟩
  . next n =>
    apply ((complete_times h n).append (complete_plus h lazy)).mono
    rintro p q ms ⟨k, hmin, -, htimes⟩
    obtain ⟨j, rfl⟩ := Nat.exists_eq_add_of_le hmin
    rw [Nat.succ_eq_add_one, Nat.add_assoc] at htimes
    obtain ⟨r, ms₁, ms₂, hfirst, hrest, rfl⟩ := Passage.andThen_of_times_add htimes
    exact ⟨r, ms₁, ms₂, hfirst, ⟨1 + j, Nat.le_add_right 1 j, hrest⟩, rfl⟩

/-! ### Alternatives -/

theorem complete_either (hbody : Complete body R) (hrest : Complete rest S)
    : Complete (.fork 1 (body.length + 2 : Nat) :: body ++ .jump (rest.length + 1 : Nat) :: rest)
        fun p q ms => R p q ms ∨ S p q ms := by
  rintro code n step p q ms hplaced ⟨r, ms₁, ms₂, hpasses, hrun, rfl⟩
  obtain ⟨hplaced₁, hplaced₂⟩ := hplaced.append
  obtain ⟨hfork, hplaced₁⟩ := hplaced₁.cons
  obtain ⟨hjump, hplaced₂⟩ := hplaced₂.cons
  rw [List.length_cons] at hjump hplaced₂
  have hend : step + (Step.fork 1 (body.length + 2 : Nat) :: body
      ++ Step.jump (rest.length + 1 : Nat) :: rest).length = step + (body.length + 1) + 1 + rest.length := by
    rw [List.length_append, List.length_cons, List.length_cons]
    omega
  rw [hend] at hrun
  cases hpasses with
  | inl hR =>
    have hover : code.Runs (n + 1) (step + 1 + body.length) r q ms₂ := by
      rw [Nat.add_assoc, Nat.add_comm 1]
      exact runs_jump hjump (by omega) hrun
    obtain ⟨m, hinto⟩ := hbody hplaced₁ ⟨r, ms₁, ms₂, hR, hover, rfl⟩
    exact ⟨m + 1, runs_fork hfork (.inl (by omega)) hinto⟩
  | inr hS =>
    obtain ⟨m, hinto⟩ := hrest hplaced₂ ⟨r, ms₁, ms₂, hS, hrun, rfl⟩
    exact ⟨m + 1, runs_fork hfork (.inr (by omega)) hinto⟩

theorem complete_literal (cs : List Char)
    : Complete (cs.map fun c => .take (.single c)) fun p q ms => p.Reads cs q ∧ ms = [] := by
  induction cs with
  | nil => exact complete_nil
  | cons c cs ih =>
    apply ((complete_take (.single c)).append ih).mono
    rintro p q ms ⟨⟨rest, hrest, hreads⟩, rfl⟩
    exact ⟨p.step c rest, [], [], ⟨c, (CharSet.contains_single c c).mpr rfl, ⟨rest, hrest, rfl⟩, rfl⟩,
      ⟨hreads, rfl⟩, rfl⟩

theorem complete_group (h : Complete body R) (number : Nat)
    : Complete (.openGroup number :: body ++ [.closeGroup number]) fun p q ms =>
        ∃ ms', R p q ms' ∧ ms = ⟨number, false, q.pos⟩ :: ms' ++ [⟨number, true, p.pos⟩] := by
  have hopen : Complete [.openGroup number] fun p q ms => q = p ∧ ms = [⟨number, true, p.pos⟩] :=
    complete_singleton fun h => ⟨rfl, h⟩
  have hclose : Complete [.closeGroup number] fun p q ms => q = p ∧ ms = [⟨number, false, p.pos⟩] :=
    complete_singleton fun h => ⟨rfl, h⟩
  apply ((hopen.append h).append hclose).mono
  rintro p q ms ⟨ms', hR, rfl⟩
  exact ⟨q, _, [_], ⟨p, [_], ms', ⟨rfl, rfl⟩, hR, rfl⟩, ⟨rfl, rfl⟩, rfl⟩

end Code

namespace Node

open Code

mutual

theorem complete_code (a : Node) : Complete a.code a.Passes := by
  cases a with
  | empty => exact complete_nil
  | literal cs => exact complete_literal cs
  | set s => exact complete_take s
  | look l => exact complete_look l
  | rep a min max lazy => exact complete_repeated (complete_code a) min max lazy a.takesUp
  | group number a => exact complete_group (complete_code a) number
  | cat as => exact complete_codes as
  | alt as => exact complete_alternatives as

theorem complete_codes (as : List Node) : Complete (codes as).flatten (PassesAll as) := by
  cases as with
  | nil => exact complete_nil
  | cons a as => exact (complete_code a).append (complete_codes as)

theorem complete_alternatives (as : List Node) : Complete (Code.alternatives (codes as)) (PassesSome as) := by
  cases as with
  | nil => exact complete_nil
  | cons a as =>
    cases as with
    | nil => exact complete_code a
    | cons b as => exact complete_either (complete_code a) (complete_alternatives (b :: as))

end

variable {a : Node} {p q : Place} {ms : List Mark}

/-- The passages of an expression are the runs through its whole code. -/
theorem passes_iff_runs : a.Passes p q ms ↔ ∃ n, a.code.Runs n 0 p q ms := by
  constructor
  . intro h
    have hend : a.code.Runs 0 (0 + a.code.length) q q [] := .done (Nat.le_of_eq (Nat.zero_add _).symm)
    exact complete_code a (placed_self a.code) ⟨q, ms, [], h, hend, rfl⟩
  . rintro ⟨n, hrun⟩
    exact passes_of_runs hrun

end Node

end Triword.Regex
