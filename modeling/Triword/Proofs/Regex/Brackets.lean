import Triword.Proofs.Regex.Local

/-!
Sets in brackets behind which a parenthesis or a bar comes. A set ends with its own bracket, so what is read of it is
what is read of it alone; the name of a set between colons, too, ends before any such character.
-/

namespace Triword.Regex.Reader

variable {props : Properties} {behind cs : List Char} {fuel fuel' depth depth' : Nat}

/-! ### Items in brackets -/

theorem local_setItem (hbehind : AtBreak behind) : Local behind setItem setItem := by
  have hliteral : ∀ c : Char, Local behind
      (flags >>= fun f => if f.ascii && !isAscii c then failure else Pure.pure (.inl c) : Reader (Char ⊕ CharSet))
      (flags >>= fun f => if f.ascii && !isAscii c then failure else Pure.pure (.inl c)) := by
    intro c
    apply local_flags.bind
    intro f
    split
    . exact .failure
    . exact .pure _
  apply local_next.bind
  intro c
  split
  . apply (local_escape hbehind).bind
    intro found
    cases found with
    | literal d => exact hliteral d
    | set s => exact .pure _
    | look l => exact .failure
  . exact hliteral c

def rangeTo (first : Char ⊕ CharSet) : Reader CharSet := do
  skipSpace
  match first, ← setItem with
  | .inl low, .inl high => if low ≤ high then return .range low.toNat high.toNat else failure
  | _, _ => failure

theorem local_rangeTo (hbehind : AtBreak behind) (first : Char ⊕ CharSet)
    : Local behind (rangeTo first) (rangeTo first) := by
  apply local_skipSpace.bind
  intro _
  apply (local_setItem hbehind).bind
  intro second
  cases first with
  | inr set => exact .failure
  | inl low =>
    cases second with
    | inr set => exact .failure
    | inl high =>
      dsimp only
      split
      . exact .pure _
      . exact .failure

def rangeFrom (first : Char ⊕ CharSet) : Reader CharSet := do
  match ← rest with
  | [] => failure
  | '-' :: cs =>
    let after ← afterDash cs
    if after = some ']' ∨ after = some '-' then return setRange.single first
    setRest cs
    rangeTo first
  | _ => return setRange.single first

theorem setRange_eq : setRange = (setItem >>= fun first => skipSpace >>= fun _ => rangeFrom first) := rfl

section RangeFrom

variable (first : Char ⊕ CharSet) (groups : Nat) (names : List (String × Nat))

theorem rangeFrom_of_ne {c : Char} (hc : c ≠ '-') (cs : List Char)
    : rangeFrom first (ahead props (c :: cs) groups names)
        =
      some (setRange.single first, ahead props (c :: cs) groups names) := by
  unfold rangeFrom
  rw [rest_bind]
  generalize hall : (ahead props (c :: cs) groups names).rest = all
  split
  . cases hall
  . cases hall
    exact absurd rfl hc
  . rfl

theorem rangeFrom_of_end {c : Char} (hc : c = ']' ∨ c = '-') (cs : List Char)
    : rangeFrom first (ahead props ('-' :: c :: cs) groups names)
        =
      some (setRange.single first, ahead props ('-' :: c :: cs) groups names) := by
  obtain rfl | rfl := hc
  . rfl
  . rfl

theorem rangeFrom_of_dash {c : Char} (hc : ¬(c = ']' ∨ c = '-')) (cs : List Char)
    : rangeFrom first (ahead props ('-' :: c :: cs) groups names)
        =
      rangeTo first (ahead props (c :: cs) groups names) := by
  have hnot : ¬(some c = some ']' ∨ some c = some '-') := by simpa using hc
  show (if some c = some ']' ∨ some c = some '-' then _ else _ : Reader CharSet) _ = _
  rw [if_neg hnot]
  rfl

end RangeFrom

theorem local_rangeFrom (hbehind : AtBreak behind) (first : Char ⊕ CharSet)
    : Local behind (rangeFrom first) (rangeFrom first) := by
  intro props cs groups names set s h
  cases cs with
  | nil => cases h
  | cons c cs =>
    by_cases hdash : c = '-'
    . subst hdash
      cases cs with
      | nil => cases h
      | cons d ds =>
        by_cases hend : d = ']' ∨ d = '-'
        . rw [rangeFrom_of_end first groups names hend] at h
          exact (Local.pure _).found h List.suffix_rfl fun _ _ => rangeFrom_of_end first _ _ hend _
        . rw [rangeFrom_of_dash first groups names hend] at h
          exact (local_rangeTo hbehind first).found h (List.suffix_cons '-' (d :: ds)) fun _ _ =>
            rangeFrom_of_dash first _ _ hend _
    . rw [rangeFrom_of_ne first groups names hdash] at h
      exact (Local.pure _).found h List.suffix_rfl fun _ _ => rangeFrom_of_ne first _ _ hdash _

theorem local_setRange (hbehind : AtBreak behind) : Local behind setRange setRange := by
  rw [setRange_eq]
  apply (local_setItem hbehind).bind
  intro first
  exact local_skipSpace.bind fun _ => local_rangeFrom hbehind first

/-! ### Named sets -/

theorem named?_eq_none {name : String} {c : Char} (hc : c ∈ breaks) (hmem : c ∈ name.toList)
    : CharSet.named? name = none := by
  have hkeys : ∀ entry ∈ CharSet.named?.table, Stops entry.1.toList.contains := by
    decide
  have hlookup : CharSet.named?.table.lookup name = none := by
    rw [List.lookup_eq_none_iff]
    intro entry hentry
    rw [bne_iff_ne]
    rintro rfl
    exact absurd hmem (by simpa using hkeys entry hentry c hc)
  unfold CharSet.named?
  rw [hlookup]
  rfl

/-- What comes after the colon that opens a named set; where it is none, the reader goes back to `all`. -/
def namedSetFrom (all : List Char) (isNegated : Bool) (cs : List Char) : Reader (Option CharSet) := do
  let name := cs.takeWhile (· ≠ ':')
  setRest (cs.drop name.length)
  if ← skip? [':', ']'] then
    if let some s := CharSet.named? (String.ofList name) then
      let s ← inCase s
      return some (← if isNegated then negated s else pure s)
  setRest all
  return none

theorem namedSet?_eq : namedSet? = (rest >>= fun all => skip? ['[', ':'] >>= fun isOpen =>
    if !isOpen then pure none
    else skip? ['^'] >>= fun isNegated => rest >>= fun cs => namedSetFrom all isNegated cs) := rfl

theorem namedSetFrom_of_unknown {all cs rest : List Char} {isNegated : Bool} {groups : Nat}
    {names : List (String × Nat)} (h : CharSet.named? (String.ofList (cs.takeWhile (· ≠ ':'))) = none)
    : namedSetFrom all isNegated cs (ahead props rest groups names) = some (none, ahead props all groups names) := by
  obtain ⟨isClosed, ds, hskip⟩ := exists_skip? [':', ']'] (cs.drop (cs.takeWhile (· ≠ ':')).length) groups names
  unfold namedSetFrom
  dsimp only
  rw [h]
  show (skip? [':', ']'] (ahead props (cs.drop _) groups names)).bind _ = _
  rw [hskip]
  cases isClosed with
  | false => rfl
  | true => rfl

def namedSetEnd (all : List Char) (isNegated : Bool) (set : CharSet) : Reader (Option CharSet) := do
  if ← skip? [':', ']'] then
    let set ← inCase set
    some <$> if isNegated then negated set else pure set
  else
    setRest all
    return none

theorem namedSetFrom_of_known {all cs rest : List Char} {isNegated : Bool} {groups : Nat}
    {names : List (String × Nat)} {set : CharSet}
    (h : CharSet.named? (String.ofList (cs.takeWhile (· ≠ ':'))) = some set)
    : namedSetFrom all isNegated cs (ahead props rest groups names)
        =
      namedSetEnd all isNegated set (ahead props (cs.drop (cs.takeWhile (· ≠ ':')).length) groups names) := by
  unfold namedSetFrom
  dsimp only
  rw [h]
  cases isNegated with
  | false => rfl
  | true => rfl

theorem returning_namedSetEnd (hbehind : AtBreak behind) (all : List Char) (isNegated : Bool) (set : CharSet)
    : Returning behind all (namedSetEnd all isNegated set) (namedSetEnd (all ++ behind) isNegated set) := by
  apply Returning.bind (local_skip? hbehind (by decide))
  intro isClosed
  cases isClosed with
  | false => exact returning_setRest none
  | true =>
    apply Local.returning
    apply (local_inCase set).bind
    intro set
    apply Local.map
    split
    . exact local_negated set
    . exact .pure set

theorem returning_namedSetFrom (hbehind : AtBreak behind) (all : List Char) (isNegated : Bool)
    : Returning behind all (rest >>= namedSetFrom all isNegated) (rest >>= namedSetFrom (all ++ behind) isNegated) := by
  intro props cs groups names found s hall h
  rw [rest_bind] at h
  replace h : namedSetFrom all isNegated cs (ahead props cs groups names) = some (found, s) := h
  by_cases hcolon : ':' ∈ cs
  . obtain ⟨name, ds, rfl, hname⟩ := List.eq_append_cons_of_mem hcolon
    have htake := takeWhile_ne_append_cons hname
    cases hset : CharSet.named? (String.ofList name) with
    | none =>
      rw [namedSetFrom_of_unknown (by rw [htake, hset])] at h
      apply (Local.pure none).found h List.suffix_rfl
      intro groups' names'
      rw [rest_bind, List.append_assoc, List.cons_append]
      exact namedSetFrom_of_unknown (by rw [htake, hset])
    | some set =>
      rw [namedSetFrom_of_known (by rw [htake, hset]), htake, List.drop_left] at h
      apply (returning_namedSetEnd hbehind all isNegated set).found h ((List.suffix_append name _).trans hall)
      intro groups' names'
      rw [rest_bind, List.append_assoc, List.cons_append]
      show namedSetFrom (all ++ behind) isNegated (name ++ ':' :: (ds ++ behind)) _ = _
      rw [namedSetFrom_of_known (by rw [htake, hset]), htake, List.drop_left]
  . -- All that comes next is taken for the name, and in a context the break behind it too.
    have hplain : ∀ c ∈ cs, (c ≠ ':' : Bool) = true := by
      intro c hc
      simpa using fun heq : c = ':' => hcolon (heq ▸ hc)
    have hfound : namedSetFrom all isNegated cs (ahead props cs groups names)
        = some (none, ahead props all groups names) := by
      cases hset : CharSet.named? (String.ofList (cs.takeWhile (· ≠ ':'))) with
      | none => exact namedSetFrom_of_unknown hset
      | some set =>
        rw [namedSetFrom_of_known hset, List.takeWhile_eq_self_iff.mpr hplain, List.drop_length]
        rfl
    rw [hfound] at h
    apply (Local.pure none).found h List.suffix_rfl
    intro groups' names'
    apply namedSetFrom_of_unknown
    obtain ⟨c, rest, rfl, hc⟩ := hbehind
    apply named?_eq_none hc
    rw [String.toList_ofList]
    show c ∈ (cs ++ c :: rest).takeWhile (· ≠ ':')
    rw [List.takeWhile_append_of_pos hplain, List.mem_append, List.takeWhile_cons]
    right
    have hname : (c ≠ ':' : Bool) = true := by
      rw [decide_eq_true_eq]
      rintro rfl
      exact absurd hc (by decide)
    rw [if_pos hname]
    exact List.mem_cons_self

theorem local_namedSet? (hbehind : AtBreak behind) : Local behind namedSet? namedSet? := by
  rw [namedSet?_eq]
  apply local_of_returning
  intro all
  apply Returning.bind (local_skip? hbehind (by decide))
  intro isOpen
  cases isOpen with
  | false => exact (Local.pure none).returning
  | true =>
    apply Returning.bind (local_skip? hbehind (by decide))
    intro isNegated
    exact returning_namedSetFrom hbehind all isNegated

/-! ### Whole sets -/

theorem local_leadingItems (hbehind : AtBreak behind) : Local behind leadingItems leadingItems := by
  apply (local_spacedWhile hbehind (by decide)).bind
  intro dashes
  split
  . exact .pure _
  . apply (local_spaced? hbehind (by decide)).bind
    intro found
    cases found with
    | none => exact .pure _
    | some c => exact .pure _

theorem local_value (b : Brackets) : Local behind b.value b.value := by
  apply (local_inCase b.items).bind
  intro items
  dsimp only
  split
  . exact .pure _
  . exact .pure _

theorem local_operator (b : Brackets) (op : SetOp) : Local behind (b.operator op) (b.operator op) := by
  exact (local_value b).bind fun set => .pure _

def operators : List (Char × SetOp) :=
  [('&', .inter), ('-', .diff), ('~', .symmDiff)]

structure AtItem (cs : List Char) : Prop where
  head : ∃ c, cs.head? = some c ∧ c ≠ '[' ∧ c ≠ ']'
  sign : ∀ o ∈ operators, ¬[o.1, o.1] <+: cs

theorem AtItem.append (h : AtItem cs) (hbehind : AtBreak behind) : AtItem (cs ++ behind) := by
  obtain ⟨⟨c, hc, hopen, hclose⟩, hsign⟩ := h
  refine ⟨⟨c, ?_, hopen, hclose⟩, ?_⟩
  . rw [List.head?_append, hc]
    rfl
  . intro o ho
    have hstops : ∀ o ∈ operators, Stops [o.1, o.1].contains := by
      decide
    obtain ⟨c, rest, rfl, hc⟩ := hbehind
    exact Text.not_prefix_append_cons (hsign o ho) (by simpa using hstops o ho c hc) rest

theorem brackets_cases (cs : List Char)
    : cs = [] ∨ (∃ ds, cs = '[' :: ds) ∨ (∃ ds, cs = ']' :: ds)
        ∨ (∃ o ∈ operators, ∃ ds, cs = o.1 :: o.1 :: ds) ∨ AtItem cs := by
  cases cs with
  | nil => exact .inl rfl
  | cons c cs =>
    right
    by_cases hopen : c = '['
    . exact .inl ⟨cs, by rw [hopen]⟩
    . by_cases hclose : c = ']'
      . exact .inr (.inl ⟨cs, by rw [hclose]⟩)
      . right; right
        by_cases hsign : ∃ o ∈ operators, [o.1, o.1] <+: c :: cs
        . obtain ⟨o, ho, ds, hds⟩ := hsign
          exact .inl ⟨o, ho, ds, hds.symm⟩
        . right
          exact ⟨⟨c, rfl, hopen, hclose⟩, fun o ho hbegin => hsign ⟨o, ho, hbegin⟩⟩

section BracketItems

variable {nested nested' : Reader (Nested CharSet)} (b : Brackets) (groups : Nat) (names : List (String × Nat))

theorem bracketItems_bracket (cs : List Char)
    : bracketItems nested (fuel + 1) b (ahead props ('[' :: cs) groups names)
        =
      (namedSet? >>= fun found =>
        found.elim (nested >>= fun set => bracketItems nested fuel (b.add set))
          fun set => bracketItems nested fuel (b.addSet set)) (ahead props ('[' :: cs) groups names) := by
  conv => lhs; unfold bracketItems
  rw [skipSpace_bind, rest_bind]
  refine congrFun (congrArg (namedSet? >>= ·) (funext fun found => ?_)) _
  cases found with
  | none => rfl
  | some set => rfl

theorem bracketItems_operator {o : Char × SetOp} (ho : o ∈ operators) (cs : List Char)
    : bracketItems nested (fuel + 1) b (ahead props (o.1 :: o.1 :: cs) groups names)
        =
      (b.operator o.2 >>= bracketItems nested fuel) (ahead props cs groups names) := by
  simp only [operators, List.mem_cons, List.not_mem_nil, or_false] at ho
  obtain rfl | rfl | rfl := ho
  . rfl
  . rfl
  . rfl

theorem bracketItems_of_atItem (h : AtItem cs)
    : bracketItems nested (fuel + 1) b (ahead props cs groups names)
        =
      (setRange >>= fun set => bracketItems nested fuel (b.addSet set)) (ahead props cs groups names) := by
  obtain ⟨⟨c, hc, hopen, hclose⟩, hsign⟩ := h
  have hdouble : ∀ o ∈ operators, ∀ ds, cs ≠ o.1 :: o.1 :: ds :=
    fun o ho ds heq => hsign o ho ⟨ds, heq.symm⟩
  conv => lhs; unfold bracketItems
  rw [skipSpace_bind, rest_bind]
  generalize hall : (ahead props cs groups names).rest = all
  replace hall : cs = all := hall
  split
  . subst hall
    cases hc
  . subst hall
    cases hc
    contradiction
  . subst hall
    cases hc
    contradiction
  . exact absurd hall (hdouble ('&', .inter) (by simp [operators]) _)
  . exact absurd hall (hdouble ('-', .diff) (by simp [operators]) _)
  . exact absurd hall (hdouble ('~', .symmDiff) (by simp [operators]) _)
  . rfl

end BracketItems

theorem local_bracketItems (hbehind : AtBreak behind) {nested nested' : Reader (Nested CharSet)}
    (hnested : Local behind nested nested') (hfuel : fuel ≤ fuel') (b : Brackets)
    : Local behind (bracketItems nested fuel b) (bracketItems nested' fuel' b) := by
  induction fuel generalizing fuel' b with
  | zero => exact .failure
  | succ fuel ih =>
    cases fuel' with
    | zero => cases hfuel
    | succ fuel' =>
      replace ih := fun b => ih (Nat.le_of_succ_le_succ hfuel) b
      intro props cs groups names set s h
      obtain rfl | ⟨ds, rfl⟩ | ⟨ds, rfl⟩ | ⟨o, ho, ds, rfl⟩ | hitem := brackets_cases cs
      . cases h
      . rw [bracketItems_bracket] at h
        have hfound : ∀ found : Option CharSet, Local behind
            (found.elim (nested >>= fun set => bracketItems nested fuel (b.add set))
              fun set => bracketItems nested fuel (b.addSet set))
            (found.elim (nested' >>= fun set => bracketItems nested' fuel' (b.add set))
              fun set => bracketItems nested' fuel' (b.addSet set)) := by
          intro found
          cases found with
          | none => exact hnested.bind fun set => ih (b.add set)
          | some set => exact ih (b.addSet set)
        exact ((local_namedSet? hbehind).bind hfound).found h List.suffix_rfl fun _ _ =>
          bracketItems_bracket b _ _ _
      . exact (local_value b).found h (List.suffix_cons ']' ds) fun _ _ => rfl
      . rw [bracketItems_operator b groups names ho] at h
        exact ((local_operator b o.2).bind ih).found h ⟨[o.1, o.1], rfl⟩ fun _ _ =>
          bracketItems_operator b _ _ ho _
      . rw [bracketItems_of_atItem b groups names hitem] at h
        exact ((local_setRange hbehind).bind fun set => ih (b.addSet set)).found h List.suffix_rfl fun _ _ =>
          bracketItems_of_atItem b _ _ (hitem.append hbehind)

theorem local_brackets (hbehind : AtBreak behind) (hfuel : fuel ≤ fuel') (depth : Nat)
    : Local behind (brackets fuel depth) (brackets fuel' depth) := by
  induction depth with
  | zero => exact .failure
  | succ depth ih =>
    apply (local_expect '[').bind
    intro _
    apply local_skipSpace.bind
    intro _
    apply (local_spaced? hbehind (by decide)).bind
    intro found
    apply (local_leadingItems hbehind).bind
    intro b
    apply (local_bracketItems hbehind ih hfuel b).bind
    intro set
    apply (local_inCase set.value).bind
    intro folded
    split
    . exact (local_negated folded).bind fun set => .pure _
    . exact .pure _

end Triword.Regex.Reader
