import Triword.Proofs.Regex.Complete

/-!
Where a match begins. Ways are kept in the order in which they begin, and of the ways that come to one step only the
first is followed; so a way that begins later never takes the place of one that begins earlier, and no passage of the
expression begins before the match that is found.
-/

namespace Triword.Regex

namespace Search

variable {code : Array Step} {p q : Place} {v w : Way} {todo others settled ways : List Way} {seen : Array Nat}
variable {fuel n s : Nat} {best : Option Match} {m : Match}

/-! ### Settling -/

theorem start_of_mem_onward (hv : v ∈ onward code p w) : v.start = w.start := by
  unfold onward at hv
  split at hv
  . cases hv
  . cases hv
  . split at hv
    . rw [List.mem_singleton.mp hv]
      rfl
    . cases hv
  . rw [List.mem_singleton.mp hv]
    rfl
  . rw [List.mem_singleton.mp hv]
    rfl
  . obtain rfl | hv := List.mem_cons.mp hv
    . rfl
    . rw [List.mem_singleton.mp hv]
      rfl
  . rw [List.mem_singleton.mp hv]
    rfl

theorem starts_settle (htodo : ∀ w ∈ todo, w.start ≤ s) (hsettled : ∀ w ∈ settled, w.start ≤ s)
    : ∀ w ∈ (settle code p fuel todo settled seen).1, w.start ≤ s := by
  induction fuel generalizing todo settled seen with
  | zero => exact fun w hw => hsettled w (List.mem_reverse.mp hw)
  | succ fuel ih =>
    cases todo with
    | nil => exact fun w hw => hsettled w (List.mem_reverse.mp hw)
    | cons w todo =>
      obtain ⟨hw, hrest⟩ := List.forall_mem_cons.mp htodo
      rw [settle_cons]
      split
      . exact ih hrest hsettled
      . apply ih
        . rw [List.forall_mem_append]
          exact ⟨fun v hv => (start_of_mem_onward hv).trans_le hw, hrest⟩
        . split
          . exact List.forall_mem_cons.mpr ⟨hw, hsettled⟩
          . exact hsettled

theorem prefix_settle_nil (fuel : Nat) (todo settled : List Way) (seen : Array Nat)
    : settled.reverse <+: (settle code p fuel todo settled seen).1 := by
  induction fuel generalizing todo settled seen with
  | zero => exact List.prefix_refl _
  | succ fuel ih =>
    cases todo with
    | nil => exact List.prefix_refl _
    | cons w todo =>
      rw [settle_cons]
      split
      . exact ih todo settled seen
      . have hmore : settled.reverse <+: (if waits code w then w :: settled else settled).reverse := by
          split
          . rw [List.reverse_cons]
            exact List.prefix_append _ _
          . exact List.prefix_refl _
        exact hmore.trans (ih _ _ _)

/-- What the first ways lead to comes first, and is not touched by the ways behind them. -/
theorem prefix_settle (fuel : Nat) (todo others settled : List Way) (seen : Array Nat)
    : (settle code p fuel todo settled seen).1 <+: (settle code p fuel (todo ++ others) settled seen).1 := by
  induction fuel generalizing todo settled seen with
  | zero => exact List.prefix_refl _
  | succ fuel ih =>
    cases todo with
    | nil => exact prefix_settle_nil (fuel + 1) others settled seen
    | cons w todo =>
      rw [List.cons_append, settle_cons, settle_cons]
      split
      . exact ih todo settled seen
      . rw [← List.append_assoc]
        exact ih _ _ _

/-! ### Ways from the first places -/

/--
A match will be found that begins at a place or before it: there is one already, or one of the first ways can come to
its end, which all began by then, or else none has been found and the place is still to come.
-/
inductive Timely (code : Array Step) (s : Nat) (p : Place) (ways : List Way) (best : Option Match) : Prop where
  | found {m : Match} (hbest : best = some m) (hstart : m.start ≤ s) (hways : ∀ w ∈ ways, w.start ≤ s)
  | followed {first others : List Way} (hways : ways = first ++ others) (hfirst : ∀ w ∈ first, w.start ≤ s)
      (halive : Alive code p first)
  | ahead {c : Char} {cs : List Char} {q : Place} {n : Nat} (hbest : best = none)
      (hways : ∀ w ∈ ways, w.start ≤ s) (hreads : p.Reads (c :: cs) q) (hpos : q.pos = s)
      (hends : Ends code q n (begin q))

theorem Timely.settle (h : Timely code s p ways best) (hsize : code.size ≤ seen.size)
    (hstamps : ∀ i k : Nat, seen[i]? = some k → k ≤ p.pos)
    : Timely code s p (settleAll code p ways seen).1 best := by
  cases h with
  | found hbest hstart hways => exact .found hbest hstart (starts_settle hways (List.forall_mem_nil _))
  | @followed first others hways hfirst halive =>
    have hkept : (Search.settle code p (2 * code.size + ways.length + 2) first [] seen).1
        <+: (settleAll code p ways seen).1 := by
      rw [hways]
      exact prefix_settle _ first others [] seen
    obtain ⟨others', hothers⟩ := hkept
    refine .followed hothers.symm (starts_settle hfirst (List.forall_mem_nil _)) ?_
    refine (settle_spec_of_stamps p first hsize hstamps ?_).2.2 halive
    rw [hways, List.length_append]
    omega
  | ahead hbest hways hreads hpos hends =>
    exact .ahead hbest (starts_settle hways (List.forall_mem_nil _)) hreads hpos hends

/-! ### Ways that have come to their end -/

theorem timely_of_some (h : ways.find? (isDone code) = some w) (hways : ∀ w ∈ ways, w.start ≤ s)
    : Timely code s p (undone code ways) (bestAt code p.pos ways best) :=
  .found (bestAt_of_some h) (hways w (List.mem_of_find?_eq_some h)) fun v hv => hways v (mem_of_mem_undone hv)

theorem Timely.undone (h : Timely code s p ways best)
    : Timely code s p (undone code ways) (bestAt code p.pos ways best) := by
  cases h with
  | found hbest hstart hways =>
    cases hfind : ways.find? (isDone code) with
    | some w => exact timely_of_some hfind hways
    | none =>
      rw [bestAt_of_none hfind, undone_of_none hfind]
      exact .found hbest hstart hways
  | @followed first others hways hfirst halive =>
    subst hways
    cases hfind : first.find? (isDone code) with
    | some w =>
      have hfound : (first ++ others).find? (isDone code) = some w := by
        rw [List.find?_append, hfind]
        rfl
      have hbest : bestAt code p.pos (first ++ others) best = bestAt code p.pos first best :=
        (bestAt_of_some hfound).trans (bestAt_of_some hfind).symm
      rw [hbest, undone_append_of_some hfind]
      exact timely_of_some hfind hfirst
    | none =>
      rw [undone_append_of_none hfind]
      exact .followed rfl hfirst halive
  | ahead hbest hways hreads hpos hends =>
    cases hfind : ways.find? (isDone code) with
    | some w => exact timely_of_some hfind hways
    | none =>
      rw [bestAt_of_none hfind, undone_of_none hfind]
      exact .ahead hbest hways hreads hpos hends

/-! ### Searching -/

theorem start_of_pass? {c : Char} (h : pass? code c w = some v) : v.start = w.start := by
  unfold pass? at h
  split at h
  . split at h
    . cases h
      rfl
    . cases h
  . cases h

theorem starts_filterMap_pass? {c : Char} (h : ∀ w ∈ ways, w.start ≤ s)
    : ∀ v ∈ ways.filterMap (pass? code c), v.start ≤ s := by
  intro v hv
  obtain ⟨w, hw, hpass⟩ := List.mem_filterMap.mp hv
  exact (start_of_pass? hpass).trans_le (h w hw)

theorem exists_waysOver (code : Array Step) (c : Char) (next : Place) (ways : List Way) (best : Option Match)
    : ∃ later, waysOver code c next ways best = (undone code ways).filterMap (pass? code c) ++ later := by
  cases best with
  | none => exact ⟨_, waysOver_of_none code c next ways⟩
  | some m => exact ⟨[], (List.append_nil _).symm⟩

theorem Timely.over {c : Char} {rest : List Char} (hrest : p.rest = c :: rest)
    (hwaits : ∀ w ∈ ways, waits code w) (h : Timely code s p (Search.undone code ways) best)
    : Timely code s (p.step c rest) (waysOver code c (p.step c rest) ways best) best := by
  cases h with
  | @found m hbest hstart hways =>
    subst hbest
    rw [waysOver_of_some]
    exact .found rfl hstart (starts_filterMap_pass? hways)
  | @followed first others hways hfirst halive =>
    obtain ⟨later, hlater⟩ := exists_waysOver code c (p.step c rest) ways best
    have hmem : ∀ w ∈ first, w ∈ Search.undone code ways := by
      rw [hways]
      exact fun w => List.mem_append_left others
    have hover := alive_filterMap_pass? hrest (fun w hw => hwaits w (mem_of_mem_undone (hmem w hw)))
      (fun w hw => not_isDone_of_mem_undone (hmem w hw)) halive
    rw [hlater, hways, List.filterMap_append, List.append_assoc]
    exact .followed rfl (starts_filterMap_pass? hfirst) hover
  | @ahead d ds q n hbest hways hreads hpos hends =>
    subst hbest
    obtain ⟨rest', hrest', hreads⟩ := hreads
    obtain ⟨rfl, rfl⟩ := List.cons.inj (hrest.symm.trans hrest')
    have hnext : (p.step c rest).pos ≤ s := by
      rw [← hpos, hreads.pos_eq]
      exact Nat.le_add_right _ _
    have hall : ∀ w ∈ waysOver code c (p.step c rest) ways none, w.start ≤ s := by
      rw [waysOver_of_none, List.forall_mem_append, List.forall_mem_singleton]
      exact ⟨starts_filterMap_pass? hways, hnext⟩
    -- The place that was ahead is the next one, where a way begins, or it is ahead still.
    cases ds with
    | nil =>
      cases hreads
      have hbegin : begin (p.step c rest) ∈ waysOver code c (p.step c rest) ways none := by
        rw [waysOver_of_none]
        exact List.mem_append_right _ (List.mem_singleton_self _)
      exact .followed (List.append_nil _).symm hall ⟨_, hbegin, n, hends⟩
    | cons d ds => exact .ahead rfl hall hreads hpos hends

theorem Timely.start_le (h : Timely code s p (Search.undone code ways) (some m))
    (hwaits : ∀ w ∈ ways, waits code w) (hend : p.rest = [] ∨ Search.undone code ways = []) : m.start ≤ s := by
  cases h with
  | found hbest hstart hways =>
    cases hbest
    exact hstart
  | @followed first others hways hfirst halive =>
    obtain ⟨w, hw, n, hends⟩ := halive
    have hmem : w ∈ Search.undone code ways := by
      rw [hways]
      exact List.mem_append_left others hw
    obtain hdone | ⟨c, rest, v, hrest, -⟩ := isDone_or_pass? (hwaits w (mem_of_mem_undone hmem)) hends
    . rw [not_isDone_of_mem_undone hmem] at hdone
      cases hdone
    . obtain hnil | hnone := hend
      . rw [hrest] at hnil
        cases hnil
      . rw [hnone] at hmem
        cases hmem
  | ahead hbest => cases hbest

theorem start_le_of_search {rest : List Char} (hrest : p.rest = rest) (hstamped : Stamped code p seen)
    (hwaits : ∀ w ∈ ways, waits code w) (h : Timely code s p ways best)
    (hm : search code p.pos rest ways seen best = some m) : m.start ≤ s := by
  induction rest generalizing p ways seen best with
  | nil =>
    have hcut := h.undone
    replace hm : bestAt code p.pos ways best = some m := hm
    rw [hm] at hcut
    exact hcut.start_le hwaits (.inl hrest)
  | cons c rest ih =>
    have hcut := h.undone
    rw [search_cons] at hm
    split at hm
    . next hstop =>
      rw [hm] at hcut
      exact hcut.start_le hwaits (.inr (List.isEmpty_iff.mp (Bool.and_eq_true_iff.mp hstop).1))
    . obtain ⟨hstamped', hwaits', -⟩ := settleAll_spec (p.step c rest)
        (waysOver code c (p.step c rest) ways (bestAt code p.pos ways best)) hstamped.size hstamped.stamps
      exact ih rfl hstamped' hwaits' ((hcut.over hrest hwaits).settle hstamped.size hstamped.stamps) hm

theorem start_le_of_first? {cs : List Char} (hreads : p.Reads cs q) (hends : Ends code q n (begin q))
    (hm : first? code p = some m) : m.start ≤ q.pos := by
  have hsize := size_le_replicate code
  have hstamps := stamps_replicate (code.size + 1) p.pos
  obtain ⟨hstamped, hwaits, -⟩ := settleAll_spec p [begin p] hsize hstamps
  have hle : p.pos ≤ q.pos := by
    rw [hreads.pos_eq]
    exact Nat.le_add_right _ _
  have hbegin : Timely code q.pos p [begin p] none := by
    cases cs with
    | nil =>
      cases hreads
      exact .followed (List.append_nil _).symm (List.forall_mem_singleton.mpr hle)
        ⟨_, List.mem_singleton_self _, n, hends⟩
    | cons c cs => exact .ahead rfl (List.forall_mem_singleton.mpr hle) hreads rfl hends
  exact start_le_of_search rfl hstamped hwaits (hbegin.settle hsize hstamps) hm

end Search

namespace Expression

variable {e : Expression} {text : String}

/-- The match that counts begins no later than any part of the text that the expression passes. -/
theorem start_le_of_passes {p q : Place} {ms : List Mark} {m : Match} (hp : p.IsIn text.toList)
    (hpasses : e.node.Passes p q ms) (hm : Search.first? e.code (.start text.toList) = some m)
    : m.start ≤ p.pos := by
  obtain ⟨cs, hreads⟩ := hp
  obtain ⟨n, hrun⟩ := Node.passes_iff_runs.mp hpasses
  refine Search.start_le_of_first? hreads (n := n) ⟨q, ms, ?_⟩ hm
  rw [e.code_eq]
  exact hrun

end Expression

end Triword.Regex
