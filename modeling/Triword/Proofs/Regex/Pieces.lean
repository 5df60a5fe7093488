import Triword.Proofs.Regex.Slots

/-!
Expressions cut up at the places of groups. The places may stand in other groups, in alternatives and before
repetitions; each of the groups that are put in has a number of its own, and its body is what is read of its own text.
-/

namespace Triword.Regex

/-- How a group of a text begins, behind its parenthesis. -/
inductive Opening where
  | numbered
  | unnumbered
  | named (mark name : List Char)

namespace Opening

def chars : Opening → List Char
  | numbered => []
  | unnumbered => ['?', ':']
  | named mark name => mark ++ (name ++ ['>'])

def Holds : Opening → Prop
  | numbered | unnumbered => True
  | named mark name => mark ∈ Reader.nameMarks ∧ '>' ∉ name

instance : (o : Opening) → Decidable o.Holds
  | numbered | unnumbered => isTrue trivial
  | named _ _ => inferInstanceAs (Decidable (_ ∧ _))

end Opening

/-- A text, up to the end of a group, that is cut up where there are places, groups with places in them, and bars. -/
inductive Pieces (α : Type) where
  | done
  | place (o : α) (after : List Char) (next : Pieces α)
  | group (opening : Opening) (first : List Char) (inner : Pieces α) (after : List Char) (next : Pieces α)
  | bar (first : List Char) (next : Pieces α)

namespace Pieces

variable {α β : Type}

def chars (put : α → List Char) : Pieces α → List Char
  | done => []
  | place o after next => put o ++ (after ++ next.chars put)
  | group opening first inner after next =>
    '(' :: (opening.chars ++ (first ++ (inner.chars put ++ ')' :: (after ++ next.chars put))))
  | bar first next => '|' :: (first ++ next.chars put)

def places : Pieces α → List α
  | done => []
  | place o _ next => o :: next.places
  | group _ _ inner _ next => inner.places ++ next.places
  | bar _ next => next.places

/-- The texts between the places can be read alone. -/
def Holds (props : Properties) : Pieces α → Prop
  | done => True
  | place _ after next => Follows props after ∧ next.Holds props
  | group opening first inner after next =>
    (opening.Holds ∧ Begins props first ∧ inner.Holds props) ∧ Follows props after ∧ next.Holds props
  | bar first next => Begins props first ∧ next.Holds props

def decidableHolds (props : Properties) : (p : Pieces α) → Decidable (p.Holds props)
  | done => isTrue trivial
  | place _ _ next =>
    have := next.decidableHolds props
    inferInstanceAs (Decidable (_ ∧ _))
  | group _ _ inner _ next =>
    have := inner.decidableHolds props
    have := next.decidableHolds props
    inferInstanceAs (Decidable ((_ ∧ _ ∧ _) ∧ _ ∧ _))
  | bar _ next =>
    have := next.decidableHolds props
    inferInstanceAs (Decidable (_ ∧ _))

instance (props : Properties) (p : Pieces α) : Decidable (p.Holds props) :=
  p.decidableHolds props

def map (f : α → β) : Pieces α → Pieces β
  | done => done
  | place o after next => place (f o) after (next.map f)
  | group opening first inner after next => group opening first (inner.map f) after (next.map f)
  | bar first next => bar first (next.map f)

@[simp]
theorem chars_map (f : α → β) (put : β → List Char) (p : Pieces α) : (p.map f).chars put = p.chars (put ∘ f) := by
  induction p with
  | done => rfl
  | place o after next ih => simp [map, chars, ih]
  | group opening first inner after next ihInner ih => simp [map, chars, ihInner, ih]
  | bar first next ih => simp [map, chars, ih]

@[simp]
theorem places_map (f : α → β) (p : Pieces α) : (p.map f).places = p.places.map f := by
  induction p with
  | done => rfl
  | place o after next ih => simp [map, places, ih]
  | group opening first inner after next ihInner ih => simp [map, places, ihInner, ih]
  | bar first next ih => exact ih

@[simp]
theorem holds_map {props : Properties} (f : α → β) (p : Pieces α) : (p.map f).Holds props ↔ p.Holds props := by
  induction p with
  | done => exact Iff.rfl
  | place o after next ih => simp only [map, Holds, ih]
  | group opening first inner after next ihInner ih => simp only [map, Holds, ihInner, ih]
  | bar first next ih => simp only [map, Holds, ih]

theorem chars_congr {put put' : α → List Char} {p : Pieces α} (h : ∀ o ∈ p.places, put o = put' o)
    : p.chars put = p.chars put' := by
  induction p with
  | done => rfl
  | place o after next ih =>
    obtain ⟨ho, hnext⟩ := List.forall_mem_cons.mp h
    rw [chars, chars, ho, ih hnext]
  | group opening first inner after next ihInner ih =>
    obtain ⟨hinner, hnext⟩ := List.forall_mem_append.mp h
    rw [chars, chars, ihInner hinner, ih hnext]
  | bar first next ih => rw [chars, chars, ih h]

/-- Where just one of the places is filled in another way, the text before it and the text behind it are the same. -/
theorem exists_around {put put' : α → List Char} {p : Pieces α} {o : α} (ho : o ∈ p.places) (hnodup : p.places.Nodup)
    (hsame : ∀ q ∈ p.places, q ≠ o → put q = put' q)
    : ∃ before after, p.chars put = before ++ (put o ++ after) ∧ p.chars put' = before ++ (put' o ++ after) := by
  induction p with
  | done => cases ho
  | place q after next ih =>
    obtain ⟨hq, hnext⟩ := List.forall_mem_cons.mp hsame
    obtain ⟨hnot, hnodup⟩ := List.nodup_cons.mp hnodup
    obtain rfl | ho := List.mem_cons.mp ho
    . have hrest : next.chars put = next.chars put' := chars_congr fun r hr => hnext r hr (ne_of_mem_of_not_mem hr hnot)
      exact ⟨[], after ++ next.chars put, rfl, by rw [chars, hrest, List.nil_append]⟩
    . obtain ⟨before, behind, hput, hput'⟩ := ih ho hnodup hnext
      refine ⟨put q ++ (after ++ before), behind, ?_, ?_⟩
      . simp [chars, hput]
      . simp [chars, hput', hq (ne_of_mem_of_not_mem ho hnot).symm]
  | group opening first inner after next ihInner ih =>
    obtain ⟨hinner, hnext⟩ := List.forall_mem_append.mp hsame
    obtain ⟨hnodupInner, hnodup, hdisjoint⟩ := List.nodup_append.mp hnodup
    obtain ho | ho := List.mem_append.mp ho
    . have hrest : next.chars put = next.chars put' := chars_congr fun r hr => hnext r hr (hdisjoint o ho r hr).symm
      obtain ⟨before, behind, hput, hput'⟩ := ihInner ho hnodupInner hinner
      refine ⟨'(' :: (opening.chars ++ (first ++ before)), behind ++ ')' :: (after ++ next.chars put), ?_, ?_⟩
      . simp [chars, hput]
      . simp [chars, hput', hrest]
    . have hbody : inner.chars put = inner.chars put' := chars_congr fun r hr => hinner r hr (hdisjoint r hr o ho)
      obtain ⟨before, behind, hput, hput'⟩ := ih ho hnodup hnext
      refine ⟨'(' :: (opening.chars ++ (first ++ (inner.chars put ++ ')' :: (after ++ before)))), behind, ?_, ?_⟩
      . simp [chars, hput]
      . simp [chars, hput', hbody]
  | bar first next ih =>
    obtain ⟨before, behind, hput, hput'⟩ := ih ho hnodup hsame
    refine ⟨'|' :: (first ++ before), behind, ?_, ?_⟩
    . simp [chars, hput]
    . simp [chars, hput']

end Pieces

namespace Reader

variable {props : Properties} {fuel depth n k low groups groups' groups₁ groups₂ : Nat}
variable {names names' names₀ names₁ names₂ : List (String × Nat)} {earlier numbered : List (Slot × Nat)}
variable {bodies : Nat → List Node} {cs behind rest : List Char} {before items : List Item} {i j : Item}
variable {as : List (Nested Node)} {a : Nested Node} {s : State} {x : Nested Node × State}

/-! ### Groups around places -/

theorem bounds?_question (cs : List Char) (groups : Nat) (names : List (String × Nat)) {s : State}
    : bounds? (ahead props ('?' :: cs) groups names) ≠ some (none, s) := by
  intro h
  replace h : (marked 0 (some 1) >>= fun b => pure (some b)) (ahead props cs groups names) = some (none, s) := h
  obtain ⟨b, s₁, -, hb⟩ := exists_of_bind h
  cases hb

/-- What begins an alternative has no sign of a repetition in front, which would say how a group begins. -/
theorem head?_of_begins (hcs : Begins props cs) (hbehind : AtBreak behind) : (cs ++ behind).head? ≠ some '?' := by
  cases cs with
  | nil =>
    obtain ⟨c, rest, rfl, hc⟩ := hbehind
    rintro ⟨⟩
    exact absurd hc (by decide)
  | cons c cs =>
    rintro ⟨⟩
    obtain ⟨a, hrow⟩ := Option.isSome_iff_exists.mp hcs.reads
    obtain ⟨b, s, hread, -⟩ := exists_of_readRow? hrow
    obtain ⟨b, s, last, older, -, hbefore, -⟩ | ⟨hbounds, -⟩ := sequence_cases hread
    . cases hbefore
    . exact bounds?_question _ _ _ hbounds

theorem Found.group {a : Node} (h : Found props numbered a.bodies (groups + 1) names₁ groups' names')
    (hsuffix : names <:+ names₁) (hdistinct : Distinct names → Distinct names₁)
    : Found props numbered (Node.group (groups + 1) a).bodies groups names groups' names' := by
  have hle := h.le
  have hother {n : Nat} (hn : n ≠ groups + 1) : (Node.group (groups + 1) a).bodies n = a.bodies n := by
    rw [Node.bodies, if_neg (Ne.symm hn)]
  refine ⟨by omega, hsuffix.trans h.suffix, h.distinct ∘ hdistinct, ?_, ?_, h.increasing⟩
  . intro n hn
    rw [hother (by omega)]
    exact h.outside n (by omega)
  . intro s hs
    obtain ⟨hlow, hhigh, hnumbered⟩ := h.own s hs
    rw [hother (by omega)]
    exact ⟨by omega, hhigh, hnumbered⟩

/-- What is found in the body of a group is found in the group, too. -/
theorem exists_of_opening {opening : Opening} {e : Reader (Nested Node)} (hopening : opening.Holds)
    (hhead : cs.head? ≠ some '?')
    (h : item fuel e (ahead props ('(' :: (opening.chars ++ cs)) groups names) = some (i, s))
    : ∃ groups₁ names₁ body s₂ ds, e (ahead props cs groups₁ names₁) = some (body, s₂) ∧ s₂.rest = ')' :: ds
        ∧ s = { s₂ with rest := ds, flags := caseless }
        ∧ ∀ ⦃numbered groups' names'⦄, Found props numbered body.value.bodies groups₁ names₁ groups' names' →
          Found props numbered i.node.value.bodies groups names groups' names' := by
  replace h : group e (ahead props ('(' :: (opening.chars ++ cs)) groups names) = some (i, s) := h
  cases opening with
  | numbered =>
    obtain ⟨start, s₁, body, s₂, ds, hstart, hbody, hds, hs, hkind⟩ := group_cases (keepsFlags_of_head hhead) h
    rw [groupStart_of_head hhead] at hstart
    cases hstart
    obtain ⟨hnone, -⟩ | ⟨number, hnumber, rfl⟩ := hkind
    . cases hnone
    . cases hnumber
      exact ⟨_, _, body, s₂, ds, hbody, hds, hs, fun _ _ _ hfound => hfound.group List.suffix_rfl id⟩
  | unnumbered =>
    obtain ⟨start, s₁, body, s₂, ds, hstart, hbody, hds, hs, hkind⟩ := group_cases (keepsFlags_cons (.inl rfl)) h
    cases hstart
    obtain ⟨-, rfl⟩ | ⟨number, hnumber, -⟩ := hkind
    . exact ⟨_, _, body, s₂, ds, hbody, hds, hs, fun _ _ _ hfound => hfound⟩
    . cases hnumber
  | named mark name =>
    rw [Opening.chars, List.append_assoc, List.append_assoc, List.singleton_append] at h
    obtain ⟨body, s₂, ds, hbody, hds, hs, hvalue, hdistinct⟩ := exists_of_named hopening.1 hopening.2 h
    rw [hvalue]
    exact ⟨_, _, body, s₂, ds, hbody, hds, hs, fun _ _ _ hfound => hfound.group (List.suffix_cons _ names) hdistinct⟩

theorem expression_cases (h : expression fuel depth (ahead props cs groups names) = some x)
    : ∃ depth' k a s, sequence (item fuel (expression fuel depth')) fuel [] (ahead props cs groups names) = some (a, s)
        ∧ GoesOn (sequence (item fuel (expression fuel depth')) fuel []) k [a] s x := by
  cases depth with
  | zero => cases h
  | succ depth =>
    cases fuel with
    | zero => cases h
    | succ fuel =>
      obtain ⟨a, s, hbranch, hgoes⟩ := alternatives_cases h
      exact ⟨depth, fuel, a, s, hbranch, hgoes⟩

/-! ### One piece after the other -/

def bodiesOf (number : Nat) (as : List (Nested Node)) : List Node :=
  as.flatMap (·.value.bodies number)

theorem bodies_alternatives (h : (bodiesOf n as).length ≤ 1)
    : ((combine Node.alternation as.reverse).value.bodies n).Perm (bodiesOf n as) := by
  have hmap : Node.bodiesAll n (as.reverse.map Nested.value) = bodiesOf n as.reverse := by
    rw [Node.bodiesAll_eq_flatMap, List.flatMap_map]
    rfl
  have hperm : (bodiesOf n as.reverse).Perm (bodiesOf n as) := (List.reverse_perm as).flatMap_right _
  rw [bodies_combine Node.keeps_alternation, hmap]
  . exact hperm
  . rw [hmap, hperm.length_eq]
    exact h

/-- What is found in the items of an alternative and in those before it is found in the alternatives. -/
theorem Found.alternative
    (h : Found props earlier (fun n => bodiesIn n before ++ bodiesOf n as) low names₀ groups names)
    : Found props earlier (bodiesOf · (combine Node.sequence (before.reverse.map Item.node) :: as)) low names₀ groups
      names := by
  apply h.congr
  intro n _
  exact (bodies_row n before).append_right _

theorem Found.item (h : Found props earlier (fun n => bodiesIn n before ++ bodiesOf n as) low names₀ groups names)
    (hi : Found props numbered i.node.value.bodies groups names groups₁ names₁)
    (hj : ∀ n, j.node.value.bodies n = i.node.value.bodies n)
    (hitems : Found props [] (bodiesIn · items) groups₁ names₁ groups₂ names₂)
    : Found props (earlier ++ numbered) (fun n => bodiesIn n (items ++ j :: before) ++ bodiesOf n as) low names₀ groups₂
      names₂ := by
  have hall := (h.append hi).append hitems
  rw [List.append_nil] at hall
  apply hall.congr
  intro n _
  have hsplit : bodiesIn n (items ++ j :: before) ++ bodiesOf n as
      = bodiesIn n items ++ (i.node.value.bodies n ++ (bodiesIn n before ++ bodiesOf n as)) := by
    rw [← hj]
    simp [bodiesIn]
  rw [hsplit]
  exact List.perm_append_comm.trans (List.perm_append_comm.append_right _)

theorem atBreak_chars (p : Pieces Slot) (rest : List Char) : AtBreak (p.chars Slot.group ++ ')' :: rest) := by
  cases p with
  | done => exact ⟨')', rest, rfl, by decide⟩
  | place slot after next => exact ⟨'(', _, rfl, by decide⟩
  | group opening first inner after next => exact ⟨'(', _, rfl, by decide⟩
  | bar first next => exact ⟨'|', _, rfl, by decide⟩

theorem sequence_ends {next : Reader Item} (hends : Ends cs)
    (h : sequence next n before (ahead props cs groups names) = some (a, s))
    : a = combine Node.sequence (before.reverse.map Item.node) ∧ s = ahead props cs groups names := by
  cases n with
  | zero => cases h
  | succ n =>
    rw [sequence_of_ends hends] at h
    cases h
    exact ⟨rfl, rfl⟩

/--
What has been found before some pieces stays, and each of the groups in them is found, where they are read one after
the other up to the parenthesis that closes the group around them.
-/
def IsFound (props : Properties) (fuel : Nat) (p : Pieces Slot) : Prop :=
  ∀ ⦃depth n k low groups names₀ names earlier before as a s x rest⦄,
    Found props earlier (fun n => bodiesIn n before ++ bodiesOf n as) low names₀ groups names →
    sequence (item fuel (expression fuel depth)) n before
      (ahead props (p.chars Slot.group ++ ')' :: rest) groups names) = some (a, s) →
    GoesOn (sequence (item fuel (expression fuel depth)) fuel []) k (a :: as) s x →
    ∃ numbered groups' names', x.2 = ahead props (')' :: rest) groups' names' ∧ numbered.map Prod.fst = p.places
      ∧ Found props (earlier ++ numbered) x.1.value.bodies low names₀ groups' names'

theorem isFound_done : IsFound props fuel .done := by
  intro depth n k low groups names₀ names earlier before as a s x rest hearlier h hgoes
  obtain ⟨rfl, rfl⟩ := sequence_ends closes_cons.1 h
  obtain ⟨ds, hbar, -⟩ | ⟨-, rfl⟩ := hgoes
  . cases hbar
  refine ⟨[], groups, names, rfl, rfl, ?_⟩
  rw [List.append_nil]
  exact hearlier.alternative.congr fun n => bodies_alternatives

section

variable {slot : Slot} {opening : Opening} {first after : List Char} {inner next : Pieces Slot}

theorem isFound_place (hslot : slot.Holds props) (hafter : Follows props after)
    (hfuel : slot.group.length + after.length < fuel) (hnext : IsFound props fuel next)
    : IsFound props fuel (.place slot after next) := by
  intro depth n k low groups names₀ names earlier before as a s x rest hearlier h hgoes
  have hchars : (Pieces.place slot after next).chars Slot.group ++ ')' :: rest
      = slot.group ++ (after ++ (next.chars Slot.group ++ ')' :: rest)) := by
    simp [Pieces.chars]
  have hbody : slot.body.length < slot.group.length := by
    simp [Slot.group]
    omega
  rw [hchars] at h
  obtain ⟨i, groups₁, names₁, m₁, hi, h⟩ := exists_of_slot hslot (by omega) h
  obtain ⟨j, items, groups₂, names₂, m₂, hj, hitems, h⟩ :=
    exists_of_follows hafter (atBreak_chars next rest) (by omega) h
  obtain ⟨numbered, groups', names', hx, hplaces, hfound⟩ := hnext (hearlier.item hi hj hitems) h hgoes
  refine ⟨(slot, groups + 1) :: numbered, groups', names', hx, ?_, ?_⟩
  . rw [List.map_cons, hplaces, Pieces.places]
  . rw [List.append_assoc] at hfound
    exact hfound

/-- The body of a group is read from its first alternative on, up to the parenthesis that closes the group. -/
theorem exists_of_group (hopening : opening.Holds) (hfirst : Begins props first) (hfuel : first.length < fuel)
    (hinner : IsFound props fuel inner)
    (h : item fuel (expression fuel depth)
      (ahead props ('(' :: (opening.chars ++ (first ++ (inner.chars Slot.group ++ ')' :: rest)))) groups names)
        = some (i, s))
    : ∃ numbered groups' names', s = ahead props rest groups' names' ∧ numbered.map Prod.fst = inner.places
        ∧ Found props numbered i.node.value.bodies groups names groups' names' := by
  have hbehind := atBreak_chars inner rest
  obtain ⟨groups₁, names₁, body, s₁, ds, hbody, hds, rfl, hgroup⟩ :=
    exists_of_opening hopening (head?_of_begins hfirst hbehind) h
  obtain ⟨depth', k, a, s₂, hbranch, hgoes⟩ := expression_cases hbody
  obtain ⟨items, groups₂, names₂, m, hitems, hbranch⟩ := exists_of_begins hfirst hbehind hfuel hbranch
  have hstart : Found props [] (fun n => bodiesIn n (items ++ []) ++ bodiesOf n []) groups₁ names₁ groups₂ names₂ :=
    hitems.congr fun n _ => by simp [bodiesOf]
  obtain ⟨numbered, groups', names', hs, hplaces, hfound⟩ := hinner hstart hbranch hgoes
  obtain rfl : s₁ = _ := hs
  obtain rfl : rest = ds := List.tail_eq_of_cons_eq hds
  exact ⟨numbered, groups', names', rfl, hplaces, hgroup hfound⟩

theorem isFound_group (hopening : opening.Holds) (hfirst : Begins props first) (hinner : IsFound props fuel inner)
    (hafter : Follows props after) (hfuel : first.length + after.length < fuel) (hnext : IsFound props fuel next)
    : IsFound props fuel (.group opening first inner after next) := by
  intro depth n k low groups names₀ names earlier before as a s x rest hearlier h hgoes
  have hchars : (Pieces.group opening first inner after next).chars Slot.group ++ ')' :: rest
      = '(' :: (opening.chars ++ (first ++ (inner.chars Slot.group
        ++ ')' :: (after ++ (next.chars Slot.group ++ ')' :: rest))))) := by
    simp [Pieces.chars]
  rw [hchars] at h
  obtain ⟨i, s₁, m₁, hi, h⟩ := exists_item_of_sequence (by decide) h
  obtain ⟨inside, groups₁, names₁, rfl, hplacesInside, hi⟩ := exists_of_group hopening hfirst (by omega) hinner hi
  obtain ⟨j, items, groups₂, names₂, m₂, hj, hitems, h⟩ :=
    exists_of_follows hafter (atBreak_chars next rest) (by omega) h
  obtain ⟨numbered, groups', names', hx, hplaces, hfound⟩ := hnext (hearlier.item hi hj hitems) h hgoes
  refine ⟨inside ++ numbered, groups', names', hx, ?_, ?_⟩
  . rw [List.map_append, hplacesInside, hplaces, Pieces.places]
  . rw [List.append_assoc] at hfound
    exact hfound

theorem isFound_bar (hfirst : Begins props first) (hfuel : first.length < fuel) (hnext : IsFound props fuel next)
    : IsFound props fuel (.bar first next) := by
  intro depth n k low groups names₀ names earlier before as a s x rest hearlier h hgoes
  have hchars : (Pieces.bar first next).chars Slot.group ++ ')' :: rest
      = '|' :: (first ++ (next.chars Slot.group ++ ')' :: rest)) := by
    simp [Pieces.chars]
  rw [hchars] at h
  obtain ⟨rfl, rfl⟩ := sequence_ends ends_bar h
  obtain ⟨ds, hbar, halternatives⟩ | ⟨hbar, -⟩ := hgoes
  . obtain rfl : first ++ (next.chars Slot.group ++ ')' :: rest) = ds := List.tail_eq_of_cons_eq hbar
    cases k with
    | zero => cases halternatives
    | succ k =>
      obtain ⟨a', s', hbranch, hgoes⟩ := alternatives_cases halternatives
      obtain ⟨items, groups₁, names₁, m₁, hitems, hbranch⟩ :=
        exists_of_begins hfirst (atBreak_chars next rest) hfuel hbranch
      have hlater := (hearlier.alternative.append hitems).congr fun n _ => List.perm_append_comm
      rw [List.append_nil] at hlater hbranch
      exact hnext hlater hbranch hgoes
  . exact absurd rfl hbar

end

theorem isFound_of_holds {p : Pieces Slot} (hp : p.Holds props) (hslots : ∀ s ∈ p.places, s.Holds props)
    (hfuel : (p.chars Slot.group).length < fuel) : IsFound props fuel p := by
  induction p with
  | done => exact isFound_done
  | place slot after next ih =>
    obtain ⟨hslot, hslots⟩ := List.forall_mem_cons.mp hslots
    simp only [Pieces.chars, List.length_append] at hfuel
    exact isFound_place hslot hp.1 (by omega) (ih hp.2 hslots (by omega))
  | group opening first inner after next ihInner ih =>
    obtain ⟨⟨hopening, hfirst, hinner⟩, hafter, hnext⟩ := hp
    obtain ⟨hslotsInner, hslots⟩ := List.forall_mem_append.mp hslots
    simp only [Pieces.chars, List.length_append, List.length_cons] at hfuel
    exact isFound_group hopening hfirst (ihInner hinner hslotsInner (by omega)) hafter (by omega)
      (ih hnext hslots (by omega))
  | bar first next ih =>
    simp only [Pieces.chars, List.length_append, List.length_cons] at hfuel
    exact isFound_bar hp.1 (by omega) (ih hp.2 hslots (by omega))

/-! ### Whole expressions -/

theorem plain_of_mark {c : Char} {e : Reader (Nested Node)} (hc : c ∈ ['^', '$'])
    (h : item fuel e (ahead props (c :: cs) groups names) = some (i, s))
    : (∀ n, i.node.value.bodies n = []) ∧ s = ahead props cs groups names := by
  obtain ⟨⟩ | ⟨_, ⟨⟩ | ⟨_, ⟨⟩⟩⟩ := hc
  all_goals
    cases h
    exact ⟨fun n => rfl, rfl⟩

end Reader

/-- In a whole expression that has been read, the groups that are put in have their numbers under their names. -/
theorem exists_found_of_read? {props : Properties} {first : List Char} {p : Pieces Slot} {node : Node}
    {names : List (String × Nat)} (hfirst : Begins props first) (hp : p.Holds props)
    (hslots : ∀ s ∈ p.places, s.Holds props)
    (h : read? props ('^' :: '(' :: (Opening.unnumbered.chars ++ (first ++ (p.chars Slot.group ++ [')', '$'])))) true
      = some (node, names))
    : ∃ numbered groups, numbered.map Prod.fst = p.places
        ∧ Reader.Found props numbered node.bodies 0 [] groups names := by
  obtain ⟨a, s, hread, hempty, rfl, rfl⟩ := Reader.exists_of_read? h
  obtain ⟨depth, k, b, s₁, hbranch, hgoes⟩ := Reader.expression_cases hread
  obtain ⟨i₁, s₂, m₁, hi₁, hx⟩ := Reader.exists_item_of_sequence (by decide) hbranch
  obtain ⟨hplain₁, rfl⟩ := Reader.plain_of_mark (by decide) hi₁
  obtain ⟨i₂, s₃, m₂, hi₂, hx⟩ := Reader.exists_item_of_sequence (by decide) hx
  have hlength : ('^' :: '(' :: (Opening.unnumbered.chars ++ (first ++ (p.chars Slot.group ++ [')', '$'])))).length
      = first.length + (p.chars Slot.group).length + 6 := by
    simp [Opening.chars]
    omega
  have hopening : Opening.unnumbered.Holds := trivial
  obtain ⟨numbered, groups, names, rfl, hplaces, hfound⟩ := Reader.exists_of_group hopening hfirst (by omega)
    (Reader.isFound_of_holds hp hslots (by omega)) hi₂
  obtain ⟨i₃, s₄, m₃, hi₃, hx⟩ := Reader.exists_item_of_sequence (by decide) hx
  obtain ⟨hplain₃, rfl⟩ := Reader.plain_of_mark (by decide) hi₃
  obtain ⟨rfl, rfl⟩ := Reader.sequence_ends Reader.closes_nil.1 hx
  obtain ⟨ds, hbar, -⟩ | ⟨-, heq⟩ := hgoes
  . cases hbar
  cases heq
  refine ⟨numbered, groups, hplaces, hfound.congr fun n _ => ?_⟩
  -- The conditions at both ends have no groups, so all of them are in the group between them.
  have hall : Reader.bodiesIn n [i₃, i₂, i₁] = i₂.node.value.bodies n := by
    simp [Reader.bodiesIn, hplain₁, hplain₃]
  rw [← hall]
  exact Reader.bodies_row n [i₃, i₂, i₁]

end Triword.Regex
