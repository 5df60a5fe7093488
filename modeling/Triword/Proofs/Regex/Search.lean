import Triword.Proofs.Regex.Code
import Triword.Regex.Expression

/-!
What a search finds. Every way that is followed in a text comes from a place where a match may begin, so
a match that is found is a passage of the expression through a part of the text.
-/

namespace Triword.Regex

/-! ### Ways -/

inductive Code.Reaches (code : Code) (p₀ : Place) : (step : Nat) → Place → List Mark → Prop where
  | start : Reaches code p₀ 0 p₀ []
  | step {step step' : Nat} {s : Step} {p p' : Place} {ms ms' : List Mark}
      (hway : Reaches code p₀ step p ms) (h : code[step]? = some s)
      (hgoes : s.Goes step p step' p' ms') : Reaches code p₀ step' p' (ms' ++ ms)

theorem Code.runs_of_reaches {code : Code} {p₀ p q : Place} {n step : Nat} {ms ms' : List Mark}
    (hway : code.Reaches p₀ step p ms) (hrun : code.Runs n step p q ms')
    : ∃ m, code.Runs m 0 p₀ q (ms' ++ ms) := by
  induction hway generalizing n ms' with
  | start =>
    rw [List.append_nil]
    exact ⟨n, hrun⟩
  | step hway h hgoes ih =>
    rw [← List.append_assoc]
    exact ih (.step h hgoes hrun)

namespace Search

variable {code : Array Step} {text : List Char} {p : Place} {w : Way} {todo settled ways : List Way}

/-- A way that has come to a place of a text from the place where it began. -/
def Follows (code : Array Step) (text : List Char) (p : Place) (w : Way) : Prop :=
  ∃ p₀, p₀.IsIn text ∧ p₀.pos = w.start ∧ Code.Reaches code.toList p₀ w.step p w.marks

theorem Follows.step (h : Follows code text p w) {s : Step} (hs : code[w.step]? = some s) {step' : Nat}
    {p' : Place} {ms : List Mark} (hgoes : s.Goes w.step p step' p' ms)
    : Follows code text p' ⟨step', w.start, ms ++ w.marks⟩ := by
  obtain ⟨p₀, hin, hpos, hway⟩ := h
  rw [← Array.getElem?_toList] at hs
  exact ⟨p₀, hin, hpos, .step hway hs hgoes⟩

theorem follows_begin (hp : p.IsIn text) : Follows code text p (begin p) :=
  ⟨p, hp, rfl, .start⟩

theorem go_one (w : Way) : w.go 1 = ⟨w.step + 1, w.start, w.marks⟩ := by
  have hstep : ((w.step : Int) + 1).toNat = w.step + 1 := by omega
  unfold Way.go
  rw [hstep]

/-! ### Settling -/

theorem follows_settle {fuel : Nat} {seen : Array Nat} (htodo : ∀ w ∈ todo, Follows code text p w)
    (hsettled : ∀ w ∈ settled, Follows code text p w)
    : ∀ w ∈ (settle code p fuel todo settled seen).1, Follows code text p w := by
  induction fuel generalizing todo settled seen with
  | zero =>
    intro w hw
    exact hsettled w (List.mem_reverse.mp hw)
  | succ fuel ih =>
    cases todo with
    | nil =>
      intro w hw
      exact hsettled w (List.mem_reverse.mp hw)
    | cons w todo =>
      have hw : Follows code text p w := htodo w List.mem_cons_self
      have hrest : ∀ v ∈ todo, Follows code text p v := fun v hv => htodo v (List.mem_cons_of_mem w hv)
      -- Ways that come to read or to an end are settled; the others go on from where they are.
      unfold settle
      split
      . exact ih hrest hsettled
      . dsimp only
        split
        . exact ih hrest (List.forall_mem_cons.mpr ⟨hw, hsettled⟩)
        . exact ih hrest (List.forall_mem_cons.mpr ⟨hw, hsettled⟩)
        . next l hl =>
          split
          . next hsatisfies =>
            apply ih _ hsettled
            rw [List.forall_mem_cons, go_one]
            exact ⟨hw.step hl ⟨rfl, ⟨hsatisfies, rfl⟩, rfl⟩, hrest⟩
          . exact ih hrest hsettled
        . next n hn =>
          exact ih (List.forall_mem_cons.mpr ⟨hw.step hn ⟨rfl, rfl, rfl⟩, hrest⟩) hsettled
        . next n hn =>
          exact ih (List.forall_mem_cons.mpr ⟨hw.step hn ⟨rfl, rfl, rfl⟩, hrest⟩) hsettled
        . next i j hij =>
          have hfirst : Follows code text p (w.go i) := hw.step hij ⟨.inl rfl, rfl, rfl⟩
          have hsecond : Follows code text p (w.go j) := hw.step hij ⟨.inr rfl, rfl, rfl⟩
          exact ih (List.forall_mem_cons.mpr ⟨hfirst, List.forall_mem_cons.mpr ⟨hsecond, hrest⟩⟩) hsettled
        . next i hi =>
          exact ih (List.forall_mem_cons.mpr ⟨hw.step hi ⟨rfl, rfl, rfl⟩, hrest⟩) hsettled

theorem follows_settleAll {seen : Array Nat} (h : ∀ w ∈ ways, Follows code text p w)
    : ∀ w ∈ (settleAll code p ways seen).1, Follows code text p w := by
  apply follows_settle h
  intro w hw
  cases hw

theorem follows_pass? {c : Char} {rest : List Char} {w' : Way} (hrest : p.rest = c :: rest)
    (h : Follows code text p w) (hpass : pass? code c w = some w')
    : Follows code text (p.step c rest) w' := by
  unfold pass? at hpass
  split at hpass
  . next s hs =>
    split at hpass
    . next hc =>
      cases hpass
      rw [go_one]
      exact h.step hs ⟨rfl, ⟨c, hc, rest, hrest, rfl⟩, rfl⟩
    . cases hpass
  . cases hpass

/-! ### Searching -/

def Finds (code : Array Step) (text : List Char) (m : Match) : Prop :=
  ∃ p q n, p.IsIn text ∧ p.pos = m.start ∧ q.pos = m.stop ∧ Code.Runs code.toList n 0 p q m.marks

theorem finds_of_isDone (h : Follows code text p w) (hdone : isDone code w)
    : Finds code text ⟨w.start, p.pos, w.marks⟩ := by
  obtain ⟨p₀, hin, hpos, hway⟩ := h
  have hsize : code.toList.length ≤ w.step := of_decide_eq_true hdone
  obtain ⟨n, hrun⟩ := Code.runs_of_reaches hway (.done hsize)
  exact ⟨p₀, p, n, hin, hpos, rfl, hrun⟩

def bestAt (code : Array Step) (pos : Nat) (ways : List Way) (best : Option Match) : Option Match :=
  match ways.find? (isDone code) with
  | some w => some ⟨w.start, pos, w.marks⟩
  | none => best

theorem finds_of_bestAt {best : Option Match} (hways : ∀ w ∈ ways, Follows code text p w)
    (hbest : ∀ m ∈ best, Finds code text m) : ∀ m ∈ bestAt code p.pos ways best, Finds code text m := by
  intro m hm
  unfold bestAt at hm
  split at hm
  . next w hw =>
    cases hm
    exact finds_of_isDone (hways w (List.mem_of_find?_eq_some hw)) (List.find?_some hw)
  . exact hbest m hm

def waysOver (code : Array Step) (c : Char) (next : Place) (ways : List Way) (best : Option Match)
    : List Way :=
  let passed := (ways.takeWhile fun w => !isDone code w).filterMap (pass? code c)
  if best.isSome then passed else passed ++ [begin next]

theorem search_cons (code : Array Step) (p : Place) (c : Char) (rest : List Char) (ways : List Way)
    (seen : Array Nat) (best : Option Match)
    : search code p.pos (c :: rest) ways seen best
        =
      if (ways.takeWhile fun w => !isDone code w).isEmpty && (bestAt code p.pos ways best).isSome then
        bestAt code p.pos ways best
      else
        let settled := settleAll code (p.step c rest)
          (waysOver code c (p.step c rest) ways (bestAt code p.pos ways best)) seen
        search code (p.step c rest).pos rest settled.1 settled.2 (bestAt code p.pos ways best) := rfl

theorem follows_waysOver {c : Char} {rest : List Char} {best : Option Match} (hp : p.IsIn text)
    (hrest : p.rest = c :: rest) (hways : ∀ w ∈ ways, Follows code text p w)
    : ∀ w ∈ waysOver code c (p.step c rest) ways best, Follows code text (p.step c rest) w := by
  have hreads : p.Reads [c] (p.step c rest) := ⟨rest, hrest, by rfl⟩
  have hpassed : ∀ w ∈ (ways.takeWhile fun w => !isDone code w).filterMap (pass? code c),
      Follows code text (p.step c rest) w := by
    intro w' hw'
    obtain ⟨w, hw, hpass⟩ := List.mem_filterMap.mp hw'
    exact follows_pass? hrest (hways w ((List.takeWhile_subset _) hw)) hpass
  unfold waysOver
  dsimp only
  split
  . exact hpassed
  . rw [List.forall_mem_append]
    exact ⟨hpassed, List.forall_mem_singleton.mpr (follows_begin (hp.of_reads hreads))⟩

theorem finds_of_search {rest : List Char} {seen : Array Nat} {best : Option Match} {m : Match}
    (hp : p.IsIn text) (hrest : p.rest = rest) (hways : ∀ w ∈ ways, Follows code text p w)
    (hbest : ∀ m ∈ best, Finds code text m) (h : search code p.pos rest ways seen best = some m)
    : Finds code text m := by
  induction rest generalizing p ways seen best with
  | nil => exact finds_of_bestAt hways hbest m h
  | cons c rest ih =>
    have hdone := finds_of_bestAt hways hbest
    rw [search_cons] at h
    split at h
    . exact hdone m h
    . have hreads : p.Reads [c] (p.step c rest) := ⟨rest, hrest, by rfl⟩
      exact ih (hp.of_reads hreads) rfl (follows_settleAll (follows_waysOver hp hrest hways)) hdone h

theorem finds_of_first? {m : Match} (hp : p.IsIn text) (h : first? code p = some m)
    : Finds code text m := by
  have hbegin : ∀ w ∈ (settleAll code p [begin p] (Array.replicate (code.size + 1) 0)).1,
      Follows code text p w :=
    follows_settleAll (List.forall_mem_singleton.mpr (follows_begin hp))
  have hnone : ∀ m ∈ (none : Option Match), Finds code text m := by
    intro m hm
    cases hm
  exact finds_of_search hp rfl hbegin hnone h

end Search

namespace Expression

variable {e : Expression} {text : String}

theorem exists_passes_of_first? {m : Match} (h : Search.first? e.code (.start text.toList) = some m)
    : ∃ p q, p.IsIn text.toList ∧ p.pos = m.start ∧ q.pos = m.stop ∧ e.node.Passes p q m.marks := by
  obtain ⟨p, q, n, hp, hstart, hstop, hrun⟩ := Search.finds_of_first? (Place.IsIn.start text.toList) h
  rw [e.code_eq] at hrun
  exact ⟨p, q, hp, hstart, hstop, Node.passes_of_runs hrun⟩

theorem exists_passes {c : Captures} (h : e.captures? text = some c)
    : c.text = text.toList
        ∧ c.names = e.names
        ∧ ∃ p q, p.IsIn text.toList ∧ e.node.Passes p q c.marks := by
  obtain ⟨m, hm, rfl⟩ := Option.map_eq_some_iff.mp h
  obtain ⟨p, q, hp, -, -, hpasses⟩ := exists_passes_of_first? hm
  exact ⟨rfl, rfl, p, q, hp, hpasses⟩

theorem without_nil (pos : Nat) (ms : List Match) : Search.without pos [] ms = [] := by
  induction ms generalizing pos with
  | nil => rfl
  | cons m ms ih =>
    rw [Search.without, List.take_nil, List.drop_nil, ih]
    rfl

theorem toList_erase_of_first? {m : Match} (h : Search.first? e.code (.start text.toList) = some m)
    (hstop : m.stop = text.toList.length) : (e.erase text).toList = text.toList.take m.start := by
  have hcount : ¬(m.start = m.stop ∧ none = some m.stop) := by simp
  unfold erase
  rw [String.toList_ofList]
  unfold Search.all
  rw [Nat.add_succ, Search.matchesFrom, h]
  simp only [if_neg hcount, Search.without, Nat.sub_zero]
  rw [hstop, List.drop_length, without_nil, List.append_nil]

end Expression

end Triword.Regex
