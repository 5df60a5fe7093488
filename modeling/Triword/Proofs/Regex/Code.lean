import Triword.Proofs.Regex.Passes

/-!
Runs through the steps of an expression. A run that comes to the end has passed the expression on its
way, and has set the marks of that passage.
-/

namespace Triword.Regex

/-! ### Characters -/

namespace CharSet

theorem contains_range (low high : Nat) (c : Char)
    : (range low high).contains c ↔ low ≤ c.toNat ∧ c.toNat ≤ high := by
  have hlimit : c.toNat < limit := by
    have hvalid := c.valid
    unfold limit
    rcases hvalid with h | h
    . exact Nat.lt_trans h (by decide)
    . exact h.2
  unfold range contains
  split
  . simp only [holds]
    split
    . simp only [Bool.false_eq_true, false_iff]
      omega
    . split
      . simp only [Bool.not_false, true_iff]
        omega
      . simp only [Bool.not_false, Bool.not_true, Bool.false_eq_true, false_iff]
        omega
  . simp only [holds]
    split
    . simp only [Bool.false_eq_true, false_iff]
      omega
    . simp only [Bool.not_false, true_iff]
      omega

theorem contains_single (c d : Char) : (single c).contains d ↔ d = c := by
  unfold single
  rw [contains_range, ← Char.toNat_inj]
  omega

end CharSet

/-! ### Runs -/

def Step.Goes (s : Step) (step : Nat) (p : Place) (step' : Nat) (p' : Place) (ms : List Mark) : Prop :=
  match s with
  | .take s => step' = step + 1 ∧ (∃ c, s.contains c ∧ p.Reads [c] p') ∧ ms = []
  | .look l => step' = step + 1 ∧ (p.satisfies l ∧ p' = p) ∧ ms = []
  | .openGroup g => step' = step + 1 ∧ p' = p ∧ ms = [⟨g, true, p.pos⟩]
  | .closeGroup g => step' = step + 1 ∧ p' = p ∧ ms = [⟨g, false, p.pos⟩]
  | .fork i j => (step' = ((step : Int) + i).toNat ∨ step' = ((step : Int) + j).toNat) ∧ p' = p ∧ ms = []
  | .jump i => step' = ((step : Int) + i).toNat ∧ p' = p ∧ ms = []

/-- Ways through a code to its end, in so many steps, with the marks that they set. -/
inductive Code.Runs (code : Code) : (n step : Nat) → Passage where
  | done {step : Nat} {p : Place} (h : code.length ≤ step) : Runs code 0 step p p []
  | step {n step step' : Nat} {s : Step} {p p' q : Place} {ms ms' : List Mark}
      (h : code[step]? = some s) (hgoes : s.Goes step p step' p' ms) (hrun : Runs code n step' p' q ms')
      : Runs code (n + 1) step p q (ms' ++ ms)

namespace Code

variable {code body rest : Code} {R S : Passage} {step n : Nat} {p q : Place} {ms : List Mark}

/-! ### Parts of a code -/

/-- The steps of a part stand in the code from one of its steps on. -/
def Placed (code : Code) (step : Nat) (body : Code) : Prop :=
  ∀ i < body.length, code[step + i]? = body[i]?

theorem Placed.cons {s : Step} (h : code.Placed step (s :: body))
    : code[step]? = some s ∧ code.Placed (step + 1) body := by
  constructor
  . exact h 0 (by simp)
  . intro i hi
    have hstep := h (i + 1) (by simpa using hi)
    rw [show step + 1 + i = step + (i + 1) by omega, hstep]
    rfl

theorem Placed.append (h : code.Placed step (body ++ rest))
    : code.Placed step body ∧ code.Placed (step + body.length) rest := by
  constructor
  . intro i hi
    rw [h i (by rw [List.length_append]; omega), List.getElem?_append_left hi]
  . intro i hi
    rw [Nat.add_assoc, h (body.length + i) (by rw [List.length_append]; omega)]
    rw [List.getElem?_append_right (by omega), Nat.add_sub_cancel_left]

theorem placed_self (code : Code) : code.Placed 0 code := by
  intro i _
  rw [Nat.zero_add]

/-- A run that comes to the start of a part comes to its end, and has passed it in between. -/
def Sound (body : Code) (R : Passage) : Prop :=
  ∀ ⦃code : Code⦄ ⦃n step : Nat⦄ ⦃p q : Place⦄ ⦃ms : List Mark⦄, code.Placed step body
    → code.Runs n step p q ms
    → ∃ m ≤ n, Passage.andThen R (code.Runs m (step + body.length)) p q ms

theorem Sound.mono (h : Sound body R) (hRS : ∀ p q ms, R p q ms → S p q ms) : Sound body S := by
  intro code n step p q ms hplaced hrun
  obtain ⟨m, hm, r, ms₁, ms₂, hR, hrest, rfl⟩ := h hplaced hrun
  exact ⟨m, hm, r, ms₁, ms₂, hRS _ _ _ hR, hrest, rfl⟩

theorem sound_nil : Sound [] Passage.stay := by
  intro code n step p q ms _ hrun
  exact ⟨n, Nat.le_refl n, p, [], ms, ⟨rfl, rfl⟩, hrun, (List.append_nil ms).symm⟩

theorem Sound.append (hbody : Sound body R) (hrest : Sound rest S)
    : Sound (body ++ rest) (R.andThen S) := by
  intro code n step p q ms hplaced hrun
  obtain ⟨hplaced₁, hplaced₂⟩ := hplaced.append
  obtain ⟨m₁, hm₁, r, ms₁, ms₂, hR, hrun₁, rfl⟩ := hbody hplaced₁ hrun
  obtain ⟨m₂, hm₂, t, ms₃, ms₄, hS, hrun₂, rfl⟩ := hrest hplaced₂ hrun₁
  rw [Nat.add_assoc, ← List.length_append] at hrun₂
  refine ⟨m₂, by omega, t, ms₃ ++ ms₁, ms₄, ⟨r, ms₁, ms₃, hR, hS, rfl⟩, hrun₂, ?_⟩
  rw [List.append_assoc]

/-! ### Single steps -/

theorem exists_of_runs {s : Step} (h : code[step]? = some s) (hrun : code.Runs n step p q ms)
    : ∃ m, n = m + 1 ∧ ∃ step' p' ms₁ ms₂, s.Goes step p step' p' ms₁
        ∧ code.Runs m step' p' q ms₂
        ∧ ms = ms₂ ++ ms₁ := by
  cases hrun with
  | done hstep =>
    rw [List.getElem?_eq_none hstep] at h
    cases h
  | step h' hgoes hrun =>
    rw [h] at h'
    cases h'
    exact ⟨_, rfl, _, _, _, _, hgoes, hrun, rfl⟩

theorem sound_singleton {s : Step}
    (h : ∀ {step p step' p' ms}, s.Goes step p step' p' ms → step' = step + 1 ∧ R p p' ms)
    : Sound [s] R := by
  intro code n step p q ms hplaced hrun
  obtain ⟨m, rfl, step', p', ms₁, ms₂, hgoes, hrun, rfl⟩ := exists_of_runs hplaced.cons.1 hrun
  obtain ⟨rfl, hR⟩ := h hgoes
  exact ⟨m, Nat.le_succ m, p', ms₁, ms₂, hR, hrun, rfl⟩

theorem sound_take (s : CharSet)
    : Sound [.take s] fun p q ms => ∃ c, s.contains c ∧ p.Reads [c] q ∧ ms = [] := by
  apply sound_singleton
  rintro step p step' p' ms ⟨hstep, ⟨c, hc, hreads⟩, hms⟩
  exact ⟨hstep, c, hc, hreads, hms⟩

theorem sound_look (l : Look)
    : Sound [.look l] fun p q ms => p.satisfies l ∧ Passage.stay p q ms := by
  apply sound_singleton
  rintro step p step' p' ms ⟨hstep, ⟨hl, hp⟩, hms⟩
  exact ⟨hstep, hl, hp, hms⟩

theorem runs_of_choose {lazy : Bool} {distance : Nat} (h : code[step]? = some (choose lazy distance))
    (hrun : code.Runs n step p q ms)
    : ∃ m, n = m + 1 ∧ (code.Runs m (step + 1) p q ms ∨ code.Runs m (step + distance) p q ms) := by
  obtain ⟨m, hm, step', p', ms₁, ms₂, hgoes, hnext, rfl⟩ := exists_of_runs h hrun
  refine ⟨m, hm, ?_⟩
  unfold choose at hgoes
  have hdistance : ((step : Int) + (distance : Nat)).toNat = step + distance := by omega
  have hone : ((step : Int) + 1).toNat = step + 1 := by omega
  cases lazy with
  | false =>
    obtain ⟨rfl | rfl, rfl, rfl⟩ := hgoes
    . rw [List.append_nil, ← hone]
      exact .inl hnext
    . rw [List.append_nil, ← hdistance]
      exact .inr hnext
  | true =>
    obtain ⟨rfl | rfl, rfl, rfl⟩ := hgoes
    . rw [List.append_nil, ← hdistance]
      exact .inr hnext
    . rw [List.append_nil, ← hone]
      exact .inl hnext

/-! ### Repetitions -/

theorem sound_times (h : Sound body R) (n : Nat) : Sound (times n body) (R.times n) := by
  induction n with
  | zero => exact sound_nil
  | succ n ih =>
    show Sound (List.replicate (n + 1) body).flatten _
    rw [List.replicate_succ, List.flatten_cons]
    exact h.append ih

theorem upTo_succ (n : Nat) (lazy : Bool) (body : Code)
    : upTo (n + 1) lazy body
        =
      choose lazy ((n + 1) * (body.length + 1) : Nat) :: (body ++ upTo n lazy body) := by
  unfold upTo
  rw [List.range_succ_eq_map, List.flatMap_cons, List.flatMap_map]
  simp only [Nat.sub_zero, List.cons_append, Nat.succ_eq_add_one, Nat.add_sub_add_right]

theorem length_upTo (n : Nat) (lazy : Bool) (body : Code)
    : (upTo n lazy body).length = n * (body.length + 1) := by
  induction n with
  | zero => simp [upTo]
  | succ n ih =>
    rw [upTo_succ, List.length_cons, List.length_append, ih, Nat.succ_mul]
    omega

theorem sound_upTo (h : Sound body R) (lazy : Bool) (n : Nat)
    : Sound (upTo n lazy body) fun p q ms => ∃ k ≤ n, R.times k p q ms := by
  induction n with
  | zero =>
    apply sound_nil.mono
    intro p q ms hstay
    exact ⟨0, Nat.le_refl 0, hstay⟩
  | succ n ih =>
    intro code fuel step p q ms hplaced hrun
    have hlength := length_upTo (n + 1) lazy body
    rw [upTo_succ] at hplaced hlength ⊢
    obtain ⟨hstep, hrest⟩ := hplaced.cons
    obtain ⟨m, rfl, hinto | hover⟩ := runs_of_choose hstep hrun
    . obtain ⟨m', hm', r, ms₁, ms₂, ⟨t, ms₃, ms₄, hfirst, ⟨k, hk, htimes⟩, rfl⟩, hafter, rfl⟩ :=
        h.append ih hrest hinto
      rw [Nat.add_assoc, Nat.add_comm 1] at hafter
      refine ⟨m', by omega, r, ms₄ ++ ms₃, ms₂, ⟨k + 1, by omega, ?_⟩, hafter, rfl⟩
      exact ⟨t, ms₃, ms₄, hfirst, htimes, rfl⟩
    . rw [← hlength] at hover
      refine ⟨m, by omega, p, [], ms, ⟨0, Nat.zero_le _, rfl, rfl⟩, hover, ?_⟩
      rw [List.append_nil]

theorem sound_plus (h : Sound body R) (lazy : Bool)
    : Sound (plus lazy body) fun p q ms => ∃ k, 1 ≤ k ∧ R.times k p q ms := by
  intro code n step p q ms hplaced hrun
  -- Each time takes a step more than its body, so a run that goes back is a shorter one.
  induction n using Nat.strongRecOn generalizing p ms with
  | ind n ih =>
    obtain ⟨hbody, hlast⟩ := hplaced.append
    obtain ⟨m, hm, r, ms₁, ms₂, hR, hafter, rfl⟩ := h hbody hrun
    obtain ⟨m', rfl, step', r', ms₃, ms₄, hgoes, hnext, rfl⟩ := exists_of_runs hlast.cons.1 hafter
    have hback : ((step + body.length : Nat) + -(body.length : Int)).toNat = step := by omega
    have honward : ((step + body.length : Nat) + (1 : Int)).toNat = step + (plus lazy body).length := by
      simp only [plus, List.length_append, List.length_cons, List.length_nil]
      omega
    have hcases : (step' = step ∨ step' = step + (plus lazy body).length) ∧ r' = r ∧ ms₃ = [] := by
      cases lazy with
      | false =>
        obtain ⟨hstep, hr, hms⟩ := hgoes
        rw [hback, honward] at hstep
        exact ⟨hstep, hr, hms⟩
      | true =>
        obtain ⟨hstep, hr, hms⟩ := hgoes
        rw [hback, honward] at hstep
        exact ⟨hstep.symm, hr, hms⟩
    obtain ⟨rfl | rfl, rfl, rfl⟩ := hcases
    . obtain ⟨m'', hm'', t, ms₅, ms₆, ⟨k, hk, htimes⟩, hrest, rfl⟩ := ih m' (by omega) hnext
      refine ⟨m'', by omega, t, ms₅ ++ ms₁, ms₆, ⟨k + 1, by omega, ?_⟩, hrest, by simp⟩
      exact ⟨_, ms₁, ms₅, hR, htimes, rfl⟩
    . exact ⟨m', by omega, _, ms₁, ms₄, ⟨1, Nat.le_refl 1, Passage.times_one hR⟩, hnext, by simp⟩

theorem sound_star (h : Sound body R) (lazy : Bool)
    : Sound (star lazy body) fun p q ms => ∃ k, R.times k p q ms := by
  intro code n step p q ms hplaced hrun
  induction n using Nat.strongRecOn generalizing p ms with
  | ind n ih =>
    have hlength : (star lazy body).length = body.length + 2 := by
      simp [star]
    obtain ⟨hstep, hrest⟩ := Placed.cons (show code.Placed step (_ :: (body ++ [_])) from hplaced)
    obtain ⟨hbody, hlast⟩ := hrest.append
    obtain ⟨m, rfl, hinto | hover⟩ := runs_of_choose hstep hrun
    . obtain ⟨m', hm', r, ms₁, ms₂, hR, hafter, rfl⟩ := h hbody hinto
      obtain ⟨m'', rfl, step', r', ms₃, ms₄, hgoes, hnext, rfl⟩ := exists_of_runs hlast.cons.1 hafter
      have hback : ((step + 1 + body.length : Nat) + -((body.length + 1 : Nat) : Int)).toNat = step := by
        omega
      obtain ⟨hstep', rfl, rfl⟩ := hgoes
      rw [hback] at hstep'
      subst hstep'
      obtain ⟨m₃, hm₃, t, ms₅, ms₆, ⟨k, htimes⟩, hrest, rfl⟩ := ih m'' (by omega) hnext
      refine ⟨m₃, by omega, t, ms₅ ++ ms₁, ms₆, ⟨k + 1, ?_⟩, hrest, by simp⟩
      exact ⟨_, ms₁, ms₅, hR, htimes, rfl⟩
    . rw [← hlength] at hover
      exact ⟨m, by omega, p, [], ms, ⟨0, rfl, rfl⟩, hover, (List.append_nil ms).symm⟩

theorem sound_repeated (h : Sound body R) (min : Nat) (max : Option Nat) (lazy takesUp : Bool)
    : Sound (repeated min max lazy takesUp body) fun p q ms =>
        ∃ n, min ≤ n ∧ (∀ m, max = some m → n ≤ Nat.max min m) ∧ R.times n p q ms := by
  unfold repeated
  split
  . next max =>
    apply ((sound_times h min).append (sound_upTo h lazy (max - min))).mono
    rintro p q ms ⟨r, ms₁, ms₂, hmin, ⟨k, hk, htimes⟩, rfl⟩
    refine ⟨min + k, by omega, ?_, Passage.times_add hmin htimes⟩
    intro m hm
    cases hm
    show min + k ≤ Max.max min max
    omega
  . split
    . apply (sound_star h lazy).mono
      rintro p q ms ⟨k, htimes⟩
      exact ⟨k, Nat.zero_le k, by simp, htimes⟩
    -- What may take up nothing is repeated at least once behind a way around it.
    . apply (sound_upTo (sound_plus h lazy) lazy 1).mono
      rintro p q ms ⟨k, hk, htimes⟩
      cases k with
      | zero => exact ⟨0, Nat.le_refl 0, by simp, htimes⟩
      | succ k =>
        obtain ⟨r, ms₁, ms₂, ⟨j, -, hfirst⟩, hrest, rfl⟩ := htimes
        obtain rfl : k = 0 := by omega
        obtain ⟨rfl, rfl⟩ := hrest
        exact ⟨j, Nat.zero_le j, by simp, hfirst⟩
  . next n =>
    apply ((sound_times h n).append (sound_plus h lazy)).mono
    rintro p q ms ⟨r, ms₁, ms₂, htimes, ⟨k, hk, hmore⟩, rfl⟩
    exact ⟨n + k, by omega, by simp, Passage.times_add htimes hmore⟩

/-! ### Alternatives -/

theorem sound_either (hbody : Sound body R) (hrest : Sound rest S)
    : Sound (.fork 1 (body.length + 2 : Nat) :: body ++ .jump (rest.length + 1 : Nat) :: rest)
        fun p q ms => R p q ms ∨ S p q ms := by
  intro code n step p q ms hplaced hrun
  obtain ⟨hplaced₁, hplaced₂⟩ := hplaced.append
  obtain ⟨hfork, hplaced₁⟩ := hplaced₁.cons
  obtain ⟨hjump, hplaced₂⟩ := hplaced₂.cons
  rw [List.length_cons] at hjump hplaced₂
  obtain ⟨m, rfl, step', p', ms₁, ms₂, ⟨hstep, rfl, rfl⟩, hnext, rfl⟩ := exists_of_runs hfork hrun
  -- The fork leads to the first part, or over it and the jump behind it to the second.
  have hinto : ((step : Int) + 1).toNat = step + 1 := by omega
  have hover : ((step : Int) + (body.length + 2 : Nat)).toNat = step + (body.length + 1) + 1 := by omega
  rw [hinto, hover] at hstep
  cases hstep with
  | inl hstep =>
    subst hstep
    obtain ⟨m', hm', r, ms₃, ms₄, hR, hafter, rfl⟩ := hbody hplaced₁ hnext
    rw [show step + 1 + body.length = step + (body.length + 1) by omega] at hafter
    obtain ⟨m'', rfl, step', r', ms₅, ms₆, ⟨rfl, rfl, rfl⟩, hlast, rfl⟩ := exists_of_runs hjump hafter
    refine ⟨m'', by omega, _, ms₃, ms₆, .inl hR, ?_, by simp⟩
    have hend : ((step + (body.length + 1) : Nat) + (rest.length + 1 : Nat) : Int).toNat
        = step + (Step.fork 1 (body.length + 2 : Nat) :: body
          ++ Step.jump (rest.length + 1 : Nat) :: rest).length := by
      rw [List.length_append, List.length_cons, List.length_cons]
      omega
    rw [← hend]
    exact hlast
  | inr hstep =>
    subst hstep
    obtain ⟨m', hm', r, ms₃, ms₄, hS, hafter, rfl⟩ := hrest hplaced₂ hnext
    refine ⟨m', by omega, r, ms₃, ms₄, .inr hS, ?_, by simp⟩
    have hend : step + (body.length + 1) + 1 + rest.length
        = step + (Step.fork 1 (body.length + 2 : Nat) :: body
          ++ Step.jump (rest.length + 1 : Nat) :: rest).length := by
      rw [List.length_append, List.length_cons, List.length_cons]
      omega
    rw [← hend]
    exact hafter

theorem sound_literal (cs : List Char)
    : Sound (cs.map fun c => .take (.single c)) fun p q ms => p.Reads cs q ∧ ms = [] := by
  induction cs with
  | nil => exact sound_nil
  | cons c cs ih =>
    apply ((sound_take (.single c)).append ih).mono
    rintro p q ms ⟨r, ms₁, ms₂, ⟨d, hd, hfirst, rfl⟩, ⟨hrest, rfl⟩, rfl⟩
    rw [CharSet.contains_single] at hd
    subst hd
    exact ⟨hfirst.trans hrest, rfl⟩

theorem sound_group (h : Sound body R) (number : Nat)
    : Sound (.openGroup number :: body ++ [.closeGroup number]) fun p q ms =>
        ∃ ms', R p q ms' ∧ ms = ⟨number, false, q.pos⟩ :: ms' ++ [⟨number, true, p.pos⟩] := by
  have hopen : Sound [.openGroup number] fun p q ms => q = p ∧ ms = [⟨number, true, p.pos⟩] := by
    apply sound_singleton
    rintro step p step' p' ms ⟨hstep, hp, hms⟩
    exact ⟨hstep, hp, hms⟩
  have hclose : Sound [.closeGroup number] fun p q ms => q = p ∧ ms = [⟨number, false, p.pos⟩] := by
    apply sound_singleton
    rintro step p step' p' ms ⟨hstep, hp, hms⟩
    exact ⟨hstep, hp, hms⟩
  apply ((hopen.append h).append hclose).mono
  rintro p q ms ⟨r, ms₁, ms₂, ⟨t, ms₃, ms₄, ⟨rfl, rfl⟩, hR, rfl⟩, ⟨rfl, rfl⟩, rfl⟩
  exact ⟨ms₄, hR, by simp⟩

end Code

namespace Node

open Code

mutual

theorem sound_code (a : Node) : Sound a.code a.Passes := by
  cases a with
  | empty => exact sound_nil
  | literal cs => exact sound_literal cs
  | set s => exact sound_take s
  | look l => exact sound_look l
  | rep a min max lazy => exact sound_repeated (sound_code a) min max lazy a.takesUp
  | group number a => exact sound_group (sound_code a) number
  | cat as => exact sound_codes as
  | alt as => exact sound_alternatives as

theorem sound_codes (as : List Node) : Sound (codes as).flatten (PassesAll as) := by
  cases as with
  | nil => exact sound_nil
  | cons a as => exact (sound_code a).append (sound_codes as)

theorem sound_alternatives (as : List Node) : Sound (Code.alternatives (codes as)) (PassesSome as) := by
  cases as with
  | nil => exact sound_nil
  | cons a as =>
    cases as with
    | nil => exact sound_code a
    | cons b as => exact sound_either (sound_code a) (sound_alternatives (b :: as))

end

theorem passes_of_runs {a : Node} {n : Nat} {p q : Place} {ms : List Mark}
    (h : a.code.Runs n 0 p q ms) : a.Passes p q ms := by
  obtain ⟨m, -, r, ms₁, ms₂, hpasses, hrun, rfl⟩ := sound_code a (placed_self a.code) h
  rw [Nat.zero_add] at hrun
  cases hrun with
  | done => exact hpasses
  | step hstep =>
    rw [List.getElem?_eq_none (Nat.le_refl _)] at hstep
    cases hstep

end Node

end Triword.Regex
