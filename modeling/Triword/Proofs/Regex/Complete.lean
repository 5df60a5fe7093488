import Mathlib.Data.Finset.Card
import Mathlib.Data.List.TakeWhile
import Triword.Proofs.Regex.Runs
import Triword.Proofs.Regex.Search

/-!
What a search cannot miss. Of the ways that come to one step at one place only the first is followed, but it can
come to an end wherever the others can. So there is a match in a text as soon as the expression passes a part of
it, and since all that is found is such a passage, no text is matched but for one.
-/

namespace Triword.Regex

namespace Search

variable {code : Array Step} {p : Place} {w : Way} {todo settled ways : List Way} {seen : Array Nat}
variable {fuel n : Nat}

/-! ### Going on -/

def waits (code : Array Step) (w : Way) : Bool :=
  match code[w.step]? with
  | none | some (.take _) => true
  | _ => false

def onward (code : Array Step) (p : Place) (w : Way) : List Way :=
  match code[w.step]? with
  | none | some (.take _) => []
  | some (.look l) => if p.satisfies l then [w.go 1] else []
  | some (.openGroup n) => [w.mark ⟨n, true, p.pos⟩]
  | some (.closeGroup n) => [w.mark ⟨n, false, p.pos⟩]
  | some (.fork first second) => [w.go first, w.go second]
  | some (.jump distance) => [w.go distance]

theorem settle_cons
    : settle code p (fuel + 1) (w :: todo) settled seen
        =
      if seen[w.step]? = some (p.pos + 1) then settle code p fuel todo settled seen
      else
        settle code p fuel (onward code p w ++ todo) (if waits code w then w :: settled else settled)
          (seen.setIfInBounds w.step (p.pos + 1)) := by
  rw [settle]
  unfold onward waits
  split
  . rfl
  . generalize code[w.step]? = s
    cases s with
    | none => rfl
    | some s =>
      cases s with
      | look l =>
        dsimp only
        split
        . rfl
        . rfl
      | _ => rfl

def Ends (code : Array Step) (p : Place) (n : Nat) (w : Way) : Prop :=
  ∃ q ms, Code.Runs code.toList n w.step p q ms

theorem exists_ends_of_ends (hwaits : waits code w = false) (h : Ends code p n w)
    : ∃ v ∈ onward code p w, ∃ m < n, Ends code p m v := by
  obtain ⟨q, ms, hrun⟩ := h
  cases hrun with
  | done hstep =>
    rw [Array.length_toList] at hstep
    simp [waits, Array.getElem?_eq_none hstep] at hwaits
  | step hs hgoes hrun =>
    rw [Array.getElem?_toList] at hs
    unfold waits at hwaits
    unfold onward
    rw [hs] at hwaits ⊢
    cases ‹Step› with
    | take s => cases hwaits
    | look l =>
      obtain ⟨rfl, ⟨hl, rfl⟩, rfl⟩ := hgoes
      dsimp only
      rw [if_pos hl, go_one]
      exact ⟨_, List.mem_singleton_self _, _, Nat.lt_succ_self _, _, _, hrun⟩
    | openGroup g | closeGroup g =>
      obtain ⟨rfl, rfl, rfl⟩ := hgoes
      exact ⟨_, List.mem_singleton_self _, _, Nat.lt_succ_self _, _, _, hrun⟩
    | fork i j =>
      obtain ⟨rfl | rfl, rfl, rfl⟩ := hgoes
      . exact ⟨_, List.mem_cons_self, _, Nat.lt_succ_self _, _, _, hrun⟩
      . exact ⟨_, List.mem_cons_of_mem _ (List.mem_singleton_self _), _, Nat.lt_succ_self _, _, _, hrun⟩
    | jump i =>
      obtain ⟨rfl, rfl, rfl⟩ := hgoes
      exact ⟨_, List.mem_singleton_self _, _, Nat.lt_succ_self _, _, _, hrun⟩

/-! ### Settling -/

/-- Stamps are those of places up to this one, and there is one for every step. -/
structure Stamped (code : Array Step) (p : Place) (seen : Array Nat) : Prop where
  size : code.size ≤ seen.size
  stamps : ∀ i k : Nat, seen[i]? = some k → k ≤ p.pos + 1

/--
What has come up at a place leads to an end through the ways that have settled, or else through those to come,
and then in fewer steps.
-/
def Covered (code : Array Step) (p : Place) (todo settled : List Way) (seen : Array Nat) : Prop :=
  ∀ w n, seen[w.step]? = some (p.pos + 1) → Ends code p n w →
    (∃ v ∈ settled, ∃ m ≤ n, Ends code p m v) ∨ ∃ v ∈ todo, ∃ m < n, Ends code p m v

def unseen (code : Array Step) (p : Place) (seen : Array Nat) : Finset Nat :=
  (Finset.range code.size).filter fun i => seen[i]? ≠ some (p.pos + 1)

theorem Stamped.set (h : Stamped code p seen) (i : Nat) : Stamped code p (seen.setIfInBounds i (p.pos + 1)) := by
  constructor
  . rw [Array.size_setIfInBounds]
    exact h.size
  . intro j k hk
    rw [Array.getElem?_setIfInBounds] at hk
    split at hk
    . split at hk
      . cases hk
        exact Nat.le_refl _
      . cases hk
    . exact h.stamps j k hk

theorem unseen_set_subset (i : Nat) : unseen code p (seen.setIfInBounds i (p.pos + 1)) ⊆ unseen code p seen := by
  intro j hj
  unfold unseen at hj ⊢
  rw [Finset.mem_filter, Array.getElem?_setIfInBounds] at hj
  rw [Finset.mem_filter]
  refine ⟨hj.1, fun hseen => hj.2 ?_⟩
  split
  . next hij =>
    have hsize : i < seen.size := by
      rw [hij]
      exact (Array.getElem?_eq_some_iff.mp hseen).1
    rw [if_pos hsize]
  . exact hseen

theorem length_onward (w : Way) : (onward code p w).length ≤ 2 := by
  unfold onward
  split
  case h_3 => split <;> simp
  all_goals simp

/-- A way that goes on uses up a step. -/
theorem length_onward_add_card (h : Stamped code p seen) (hw : seen[w.step]? ≠ some (p.pos + 1))
    : (onward code p w).length + 2 * (unseen code p (seen.setIfInBounds w.step (p.pos + 1))).card
        ≤ 2 * (unseen code p seen).card := by
  have hsubset : unseen code p (seen.setIfInBounds w.step (p.pos + 1)) ⊆ unseen code p seen :=
    unseen_set_subset w.step
  cases hstep : code[w.step]? with
  | none =>
    have hnone : onward code p w = [] := by
      unfold onward
      rw [hstep]
    rw [hnone, List.length_nil, Nat.zero_add]
    exact Nat.mul_le_mul_left 2 (Finset.card_le_card hsubset)
  | some s =>
    have hlt : w.step < code.size := (Array.getElem?_eq_some_iff.mp hstep).1
    have hstrict : unseen code p (seen.setIfInBounds w.step (p.pos + 1)) ⊂ unseen code p seen := by
      refine Finset.ssubset_iff_subset_ne.mpr ⟨hsubset, fun heq => ?_⟩
      have hmem : w.step ∈ unseen code p seen := Finset.mem_filter.mpr ⟨Finset.mem_range.mpr hlt, hw⟩
      rw [← heq] at hmem
      apply (Finset.mem_filter.mp hmem).2
      rw [Array.getElem?_setIfInBounds_self_of_lt (Nat.lt_of_lt_of_le hlt h.size)]
    have hcard := Finset.card_lt_card hstrict
    have hlength : (onward code p w).length ≤ 2 := length_onward w
    omega

/-- A step that comes up again leads to nothing more. -/
theorem Covered.skip (h : Covered code p (w :: todo) settled seen) (hw : seen[w.step]? = some (p.pos + 1))
    : Covered code p todo settled seen := by
  intro v n hv hends
  -- Where the way that is skipped would lead on, it does so in fewer steps, from a step that has come up.
  induction n using Nat.strongRecOn generalizing v with
  | ind n ih =>
    obtain hsettled | ⟨u, hu, m, hm, hends⟩ := h v n hv hends
    . exact .inl hsettled
    . obtain rfl | hu := List.mem_cons.mp hu
      . obtain ⟨x, hx, k, hk, hends⟩ | ⟨x, hx, k, hk, hends⟩ := ih m hm u hw hends
        . exact .inl ⟨x, hx, k, by omega, hends⟩
        . exact .inr ⟨x, hx, k, by omega, hends⟩
      . exact .inr ⟨u, hu, m, hm, hends⟩

theorem exists_ends_onward (h : Ends code p n w)
    : (∃ v ∈ if waits code w then w :: settled else settled, ∃ m ≤ n, Ends code p m v)
        ∨ ∃ v ∈ onward code p w ++ todo, ∃ m < n, Ends code p m v := by
  cases hwaits : waits code w with
  | true => exact .inl ⟨w, List.mem_cons_self, n, Nat.le_refl n, h⟩
  | false =>
    obtain ⟨v, hv, m, hm, hends⟩ := exists_ends_of_ends hwaits h
    exact .inr ⟨v, List.mem_append_left todo hv, m, hm, hends⟩

theorem subset_settled : settled ⊆ if waits code w then w :: settled else settled := by
  split
  . exact List.subset_cons_self w settled
  . exact List.Subset.refl settled

theorem Covered.goOn (h : Covered code p (w :: todo) settled seen)
    : Covered code p (onward code p w ++ todo) (if waits code w then w :: settled else settled)
        (seen.setIfInBounds w.step (p.pos + 1)) := by
  have hnext : ∀ {m}, Ends code p m w →
      (∃ v ∈ if waits code w then w :: settled else settled, ∃ k ≤ m, Ends code p k v)
        ∨ ∃ v ∈ onward code p w ++ todo, ∃ k < m, Ends code p k v := exists_ends_onward
  intro v n hv hends
  rw [Array.getElem?_setIfInBounds] at hv
  split at hv
  . next hsame =>
    replace hends : Ends code p n w := by
      unfold Ends at hends ⊢
      rw [hsame]
      exact hends
    exact hnext hends
  . obtain ⟨u, hu, m, hm, hends⟩ | ⟨u, hu, m, hm, hends⟩ := h v n hv hends
    . exact .inl ⟨u, subset_settled hu, m, hm, hends⟩
    . obtain rfl | hu := List.mem_cons.mp hu
      . obtain ⟨x, hx, k, hk, hends⟩ | ⟨x, hx, k, hk, hends⟩ := hnext hends
        . exact .inl ⟨x, hx, k, by omega, hends⟩
        . exact .inr ⟨x, hx, k, by omega, hends⟩
      . exact .inr ⟨u, List.mem_append_right _ hu, m, hm, hends⟩

def Alive (code : Array Step) (p : Place) (ways : List Way) : Prop :=
  ∃ w ∈ ways, ∃ n, Ends code p n w

theorem alive_of_skip (hcovered : Covered code p todo settled seen) (hw : seen[w.step]? = some (p.pos + 1))
    (h : Alive code p (w :: todo) ∨ Alive code p settled) : Alive code p todo ∨ Alive code p settled := by
  obtain ⟨v, hv, n, hends⟩ | hsettled := h
  . obtain rfl | hv := List.mem_cons.mp hv
    . obtain ⟨x, hx, m, -, hends⟩ | ⟨x, hx, m, -, hends⟩ := hcovered v n hw hends
      . exact .inr ⟨x, hx, m, hends⟩
      . exact .inl ⟨x, hx, m, hends⟩
    . exact .inl ⟨v, hv, n, hends⟩
  . exact .inr hsettled

theorem alive_of_goOn (h : Alive code p (w :: todo) ∨ Alive code p settled)
    : Alive code p (onward code p w ++ todo) ∨ Alive code p (if waits code w then w :: settled else settled) := by
  obtain ⟨v, hv, n, hends⟩ | ⟨v, hv, n, hends⟩ := h
  . obtain rfl | hv := List.mem_cons.mp hv
    . obtain ⟨x, hx, m, -, hends⟩ | ⟨x, hx, m, -, hends⟩ := exists_ends_onward hends
      . exact .inr ⟨x, hx, m, hends⟩
      . exact .inl ⟨x, hx, m, hends⟩
    . exact .inl ⟨v, List.mem_append_right _ hv, n, hends⟩
  . exact .inr ⟨v, subset_settled hv, n, hends⟩

/-- Ways that have settled wait, and some can come to its end if one that they come from could. -/
theorem settle_spec (hstamped : Stamped code p seen) (hcovered : Covered code p todo settled seen)
    (hwaits : ∀ w ∈ settled, waits code w) (hfuel : todo.length + 2 * (unseen code p seen).card ≤ fuel)
    : Stamped code p (settle code p fuel todo settled seen).2
        ∧ (∀ w ∈ (settle code p fuel todo settled seen).1, waits code w)
        ∧ (Alive code p todo ∨ Alive code p settled → Alive code p (settle code p fuel todo settled seen).1) := by
  have hdone : ∀ {settled : List Way}, (∀ w ∈ settled, waits code w) →
      (∀ w ∈ settled.reverse, waits code w)
        ∧ (Alive code p [] ∨ Alive code p settled → Alive code p settled.reverse) := by
    intro settled hwaits
    refine ⟨fun w hw => hwaits w (List.mem_reverse.mp hw), ?_⟩
    rintro (⟨w, hw, -⟩ | ⟨w, hw, hends⟩)
    . cases hw
    . exact ⟨w, List.mem_reverse.mpr hw, hends⟩
  -- A step is followed once and leads to two ways at most, so each turn uses up some of the measure.
  induction fuel generalizing todo settled seen with
  | zero =>
    obtain rfl : todo = [] := List.eq_nil_of_length_eq_zero (by omega)
    exact ⟨hstamped, hdone hwaits⟩
  | succ fuel ih =>
    cases todo with
    | nil => exact ⟨hstamped, hdone hwaits⟩
    | cons w todo =>
      rw [List.length_cons] at hfuel
      rw [settle_cons]
      split
      . next hw =>
        have hskip := hcovered.skip hw
        obtain ⟨hstamped', hwaits', halive⟩ := ih hstamped hskip hwaits (by omega)
        exact ⟨hstamped', hwaits', fun h => halive (alive_of_skip hskip hw h)⟩
      . next hw =>
        have hcard := length_onward_add_card hstamped hw
        have hkept : ∀ v ∈ if waits code w then w :: settled else settled, waits code v := by
          split
          . next hwait => exact List.forall_mem_cons.mpr ⟨hwait, hwaits⟩
          . exact hwaits
        obtain ⟨hstamped', hwaits', halive⟩ := ih (hstamped.set w.step) hcovered.goOn hkept
          (by rw [List.length_append]; omega)
        exact ⟨hstamped', hwaits', fun h => halive (alive_of_goOn h)⟩

theorem settle_spec_of_stamps (p : Place) (ways : List Way) (hsize : code.size ≤ seen.size)
    (hstamps : ∀ i k : Nat, seen[i]? = some k → k ≤ p.pos) (hfuel : 2 * code.size + ways.length ≤ fuel)
    : Stamped code p (settle code p fuel ways [] seen).2
        ∧ (∀ w ∈ (settle code p fuel ways [] seen).1, waits code w)
        ∧ (Alive code p ways → Alive code p (settle code p fuel ways [] seen).1) := by
  have hstamped : Stamped code p seen := ⟨hsize, fun i k hk => Nat.le_succ_of_le (hstamps i k hk)⟩
  -- No step has come up at this place, since all stamps are those of earlier ones.
  have hcovered : Covered code p ways [] seen := by
    intro w n hw _
    have hle := hstamps _ _ hw
    omega
  have hcard : (unseen code p seen).card ≤ code.size := by
    refine Nat.le_trans (Finset.card_filter_le _ _) ?_
    rw [Finset.card_range]
  have henough : ways.length + 2 * (unseen code p seen).card ≤ fuel := by
    omega
  obtain ⟨hstamped', hwaits, halive⟩ := settle_spec hstamped hcovered (List.forall_mem_nil _) henough
  exact ⟨hstamped', hwaits, fun h => halive (.inl h)⟩

theorem settleAll_spec (p : Place) (ways : List Way) (hsize : code.size ≤ seen.size)
    (hstamps : ∀ i k : Nat, seen[i]? = some k → k ≤ p.pos)
    : Stamped code p (settleAll code p ways seen).2
        ∧ (∀ w ∈ (settleAll code p ways seen).1, waits code w)
        ∧ (Alive code p ways → Alive code p (settleAll code p ways seen).1) :=
  settle_spec_of_stamps p ways hsize hstamps (Nat.le_add_right _ 2)

/-! ### Ways that have come to their end -/

def undone (code : Array Step) (ways : List Way) : List Way :=
  ways.takeWhile fun w => !isDone code w

theorem mem_of_mem_undone (h : w ∈ undone code ways) : w ∈ ways :=
  List.takeWhile_subset _ h

theorem not_isDone_of_mem_undone (h : w ∈ undone code ways) : isDone code w = false := by
  have hundone := List.mem_takeWhile_imp h
  simpa using hundone

theorem undone_append_of_some (h : ways.find? (isDone code) = some w) (others : List Way)
    : undone code (ways ++ others) = undone code ways := by
  obtain ⟨hw, before, after, rfl, hbefore⟩ := List.find?_eq_some_iff_append.mp h
  have hstop : ∀ after, undone code (before ++ w :: after) = before := by
    intro after
    unfold undone
    rw [List.takeWhile_append_of_pos hbefore, List.takeWhile_cons_of_neg (by simp [hw]), List.append_nil]
  rw [List.append_assoc, List.cons_append, hstop, hstop]

theorem undone_append_of_none (h : ways.find? (isDone code) = none) (others : List Way)
    : undone code (ways ++ others) = ways ++ undone code others := by
  unfold undone
  apply List.takeWhile_append_of_pos
  intro w hw
  simpa using List.find?_eq_none.mp h w hw

theorem undone_of_none (h : ways.find? (isDone code) = none) : undone code ways = ways := by
  have hall := undone_append_of_none h []
  unfold undone at hall ⊢
  rwa [List.append_nil, List.takeWhile_nil, List.append_nil] at hall

theorem bestAt_of_some {best : Option Match} (h : ways.find? (isDone code) = some w)
    : bestAt code n ways best = some ⟨w.start, n, w.marks⟩ := by
  unfold bestAt
  rw [h]

theorem bestAt_of_none {best : Option Match} (h : ways.find? (isDone code) = none)
    : bestAt code n ways best = best := by
  unfold bestAt
  rw [h]

theorem waysOver_of_some (code : Array Step) (c : Char) (next : Place) (ways : List Way) (m : Match)
    : waysOver code c next ways (some m) = (undone code ways).filterMap (pass? code c) := rfl

theorem waysOver_of_none (code : Array Step) (c : Char) (next : Place) (ways : List Way)
    : waysOver code c next ways none = (undone code ways).filterMap (pass? code c) ++ [begin next] := rfl

/-! ### Searching -/

theorem isSome_search_of_best {rest : List Char} {best : Option Match} (h : (bestAt code p.pos ways best).isSome)
    : (search code p.pos rest ways seen best).isSome := by
  induction rest generalizing p ways seen best with
  | nil => exact h
  | cons c rest ih =>
    rw [search_cons]
    split
    . exact h
    . apply ih
      unfold bestAt at h ⊢
      split
      . rfl
      . exact h

theorem isSome_bestAt {best : Option Match} (hw : w ∈ ways) (hdone : isDone code w)
    : (bestAt code n ways best).isSome := by
  unfold bestAt
  cases hfind : ways.find? (isDone code) with
  | none => exact absurd hdone (List.find?_eq_none.mp hfind w hw)
  | some v => rfl

theorem isDone_or_pass? (hwaits : waits code w) (h : Ends code p n w)
    : isDone code w
        ∨ ∃ c rest v, p.rest = c :: rest ∧ pass? code c w = some v ∧ ∃ m, Ends code (p.step c rest) m v := by
  obtain ⟨q, ms, hrun⟩ := h
  cases hrun with
  | done hstep =>
    rw [Array.length_toList] at hstep
    exact .inl (decide_eq_true hstep)
  | step hs hgoes hrun =>
    rw [Array.getElem?_toList] at hs
    unfold waits at hwaits
    rw [hs] at hwaits
    cases ‹Step› with
    | take s =>
      obtain ⟨rfl, ⟨c, hc, rest, hrest, rfl⟩, rfl⟩ := hgoes
      have hpass : pass? code c w = some (w.go 1) := by
        unfold pass?
        rw [hs]
        exact if_pos hc
      rw [go_one] at hpass
      exact .inr ⟨c, rest, _, hrest, hpass, _, _, _, hrun⟩
    | look l => cases hwaits
    | openGroup g | closeGroup g => cases hwaits
    | fork i j => cases hwaits
    | jump i => cases hwaits

theorem alive_filterMap_pass? {c : Char} {rest : List Char} (hrest : p.rest = c :: rest)
    (hwaits : ∀ w ∈ ways, waits code w) (hundone : ∀ w ∈ ways, isDone code w = false) (h : Alive code p ways)
    : Alive code (p.step c rest) (ways.filterMap (pass? code c)) := by
  obtain ⟨w, hw, n, hends⟩ := h
  obtain hdone | ⟨d, rest', v, hrest', hpass, m, hends⟩ := isDone_or_pass? (hwaits w hw) hends
  . rw [hundone w hw] at hdone
    cases hdone
  . obtain ⟨rfl, rfl⟩ := List.cons.inj (hrest.symm.trans hrest')
    exact ⟨v, List.mem_filterMap.mpr ⟨w, hw, hpass⟩, m, hends⟩

/-- Somewhere behind a place there is one at which a way can come to its end if it begins there. -/
def Ahead (code : Array Step) (p : Place) : Prop :=
  ∃ c cs q n, p.Reads (c :: cs) q ∧ Ends code q n (begin q)

theorem alive_waysOver {c : Char} {rest : List Char} {best : Option Match} (hrest : p.rest = c :: rest)
    (hwaits : ∀ w ∈ ways, waits code w) (hnone : ¬(bestAt code p.pos ways best).isSome)
    (h : Alive code p ways ∨ Ahead code p)
    : Alive code (p.step c rest) (waysOver code c (p.step c rest) ways (bestAt code p.pos ways best))
        ∨ Ahead code (p.step c rest) := by
  have hundone : ∀ w ∈ ways, isDone code w = false := by
    intro w hw
    rw [← Bool.not_eq_true]
    exact fun hdone => hnone (isSome_bestAt hw hdone)
  have hall : undone code ways = ways := by
    apply undone_of_none
    rw [List.find?_eq_none]
    intro w hw
    rw [hundone w hw]
    decide
  rw [Option.not_isSome_iff_eq_none.mp hnone, waysOver_of_none, hall]
  obtain halive | ⟨d, ds, q, n, ⟨rest', hrest', hreads⟩, hends⟩ := h
  . obtain ⟨v, hv, hends⟩ := alive_filterMap_pass? hrest hwaits hundone halive
    exact .inl ⟨v, List.mem_append_left _ hv, hends⟩
  . obtain ⟨rfl, rfl⟩ := List.cons.inj (hrest.symm.trans hrest')
    cases ds with
    | nil =>
      cases hreads
      exact .inl ⟨_, List.mem_append_right _ (List.mem_singleton_self _), n, hends⟩
    | cons d ds => exact .inr ⟨d, ds, q, n, hreads, hends⟩

theorem isSome_search {rest : List Char} {best : Option Match} (hrest : p.rest = rest)
    (hstamped : Stamped code p seen) (hwaits : ∀ w ∈ ways, waits code w) (h : Alive code p ways ∨ Ahead code p)
    : (search code p.pos rest ways seen best).isSome := by
  induction rest generalizing p ways seen best with
  | nil =>
    apply isSome_search_of_best
    obtain ⟨w, hw, n, hends⟩ | ⟨c, cs, q, n, ⟨rest, hrest', -⟩, -⟩ := h
    . obtain hdone | ⟨c, rest, v, hrest', -⟩ := isDone_or_pass? (hwaits w hw) hends
      . exact isSome_bestAt hw hdone
      . rw [hrest] at hrest'
        cases hrest'
    . rw [hrest] at hrest'
      cases hrest'
  | cons c rest ih =>
    by_cases hbest : (bestAt code p.pos ways best).isSome
    . exact isSome_search_of_best hbest
    . rw [search_cons, if_neg (by simp [hbest])]
      obtain ⟨hstamped', hwaits', halive⟩ := settleAll_spec (p.step c rest)
        (waysOver code c (p.step c rest) ways (bestAt code p.pos ways best)) hstamped.size hstamped.stamps
      exact ih rfl hstamped' hwaits' ((alive_waysOver hrest hwaits hbest h).imp_left halive)

theorem stamps_replicate (size pos : Nat) : ∀ i k : Nat, (Array.replicate size 0)[i]? = some k → k ≤ pos := by
  intro i k hk
  rw [Array.getElem?_replicate] at hk
  split at hk
  . cases hk
    exact Nat.zero_le _
  . cases hk

theorem size_le_replicate (code : Array Step) : code.size ≤ (Array.replicate (code.size + 1) 0).size := by
  simp

theorem isSome_first? {cs : List Char} {q : Place} (hreads : p.Reads cs q) (h : Ends code q n (begin q))
    : (first? code p).isSome := by
  obtain ⟨hstamped, hwaits, halive⟩ := settleAll_spec p [begin p] (size_le_replicate code)
    (stamps_replicate _ _)
  apply isSome_search rfl hstamped hwaits
  cases cs with
  | nil =>
    cases hreads
    exact .inl (halive ⟨_, List.mem_singleton_self _, n, h⟩)
  | cons c cs => exact .inr ⟨c, cs, q, n, hreads, h⟩

end Search

namespace Expression

variable {e : Expression} {text : String}

/-- There is a match in a text if and only if the expression passes from some place of it to another. -/
theorem isSome_captures?_iff
    : (e.captures? text).isSome ↔ ∃ p q ms, p.IsIn text.toList ∧ e.node.Passes p q ms := by
  constructor
  . intro h
    obtain ⟨c, hc⟩ := Option.isSome_iff_exists.mp h
    obtain ⟨-, -, p, q, hp, hpasses⟩ := exists_passes hc
    exact ⟨p, q, _, hp, hpasses⟩
  . rintro ⟨p, q, ms, ⟨cs, hreads⟩, hpasses⟩
    obtain ⟨n, hrun⟩ := Node.passes_iff_runs.mp hpasses
    unfold captures?
    rw [Option.isSome_map]
    refine Search.isSome_first? hreads (n := n) ⟨q, ms, ?_⟩
    rw [e.code_eq]
    exact hrun

theorem erase_eq_self (h : ∀ p q ms, p.IsIn text.toList → ¬e.node.Passes p q ms) : e.erase text = text := by
  have hnone : Search.all e.code text.toList = [] := by
    unfold Search.all
    rw [Nat.add_succ, Search.matchesFrom]
    cases hfirst : Search.first? e.code (.start text.toList) with
    | none => rfl
    | some m =>
      obtain ⟨p, q, hp, -, -, hpasses⟩ := exists_passes_of_first? hfirst
      exact absurd hpasses (h p q m.marks hp)
  unfold erase
  dsimp only
  rw [hnone]
  exact String.ofList_toList

end Expression

end Triword.Regex
