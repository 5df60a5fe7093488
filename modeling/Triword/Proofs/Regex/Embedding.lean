import Mathlib.Data.List.Infix
import Triword.Proofs.Regex.Brackets
import Triword.Proofs.Regex.GroupStart
import Triword.Proofs.Regex.Renumber

/-!
Expressions inside others. What is read of an expression that sets no flags is read of it in any place where a
parenthesis or a bar comes behind it too, with the numbers of its groups counted on from those before.
-/

namespace Triword.Regex.Reader

/-- What an expression stands in: the groups that have begun before it, and what comes behind it. -/
structure Context where
  properties : Properties
  groups : Nat
  names : List (String × Nat)
  behind : List Char
  atBreak : AtBreak behind

namespace Context

def allNames (c : Context) (names : List (String × Nat)) : List (String × Nat) :=
  names.map (fun g => (g.1, g.2 + c.groups)) ++ c.names

def inside (c : Context) (cs : List Char) (groups : Nat) (names : List (String × Nat)) : State :=
  ahead c.properties (cs ++ c.behind) (groups + c.groups) (c.allNames names)

end Context

def SetsNoFlags (cs : List Char) : Prop :=
  ∀ c, ['(', '?', c] <:+: cs → c = ':' ∨ c = 'P' ∨ c = '<'

instance (cs : List Char) : Decidable (SetsNoFlags cs) :=
  decidable_of_iff (cs.all fun c => ['(', '?', c] <:+: cs → c = ':' ∨ c = 'P' ∨ c = '<') <| by
    rw [List.all_eq_true]
    exact ⟨fun h c hc => of_decide_eq_true (h c (hc.subset (by simp))) hc, fun h c _ => decide_eq_true (h c)⟩

def NumberedIn (low high : Nat) (a : Node) : Prop :=
  ∀ n, n ≤ low ∨ high < n → a.bodies n = []

def Distinct (names : List (String × Nat)) : Prop :=
  (names.map Prod.fst).Nodup

/--
What one reader finds in a text, another one finds where the text stands in a context, but with the numbers of
groups moved, provided that the text `ends` with what comes next.
-/
def Embeds {α : Type} (c : Context) (ends : List Char → Prop) (value : α → Node) (move : α → α)
    (r r' : Reader α) : Prop :=
  ∀ ⦃cs groups names a s⦄, SetsNoFlags cs → r (ahead c.properties cs groups names) = some (a, s) →
    ∃ rest groups' names', s = ahead c.properties rest groups' names' ∧ rest <:+ cs ∧ groups ≤ groups'
      ∧ NumberedIn groups groups' (value a)
      ∧ ∀ ⦃x⦄, ends rest → r' (c.inside cs groups names) = some x →
        x = (move a, c.inside rest groups' names')
          ∧ (Distinct (c.allNames names) → Distinct (c.allNames names'))

variable {α β : Type} {props : Properties} {c : Context} {cs rest : List Char} {groups low high : Nat}
variable {names : List (String × Nat)} {a : Node}

theorem SetsNoFlags.of_suffix (h : SetsNoFlags cs) (hrest : rest <:+ cs) : SetsNoFlags rest :=
  fun c hc => h c (hc.trans hrest.isInfix)

theorem NumberedIn.mono {low' high' : Nat} (h : NumberedIn low high a) (hlow : low' ≤ low) (hhigh : high ≤ high')
    : NumberedIn low' high' a := by
  intro n hn
  apply h
  omega

/-! ### Items without groups -/

def Yields (P : α → Prop) (r : Reader α) : Prop :=
  ∀ ⦃s a s'⦄, r s = some (a, s') → P a

theorem yields_pure {P : α → Prop} {a : α} (h : P a) : Yields P (pure a) := by
  intro s b s' hrun
  cases hrun
  exact h

theorem Yields.bind {P : β → Prop} {r : Reader α} {k : α → Reader β} (h : ∀ a, Yields P (k a))
    : Yields P (r >>= k) := by
  intro s b s' hrun
  obtain ⟨a, s₁, -, hrest⟩ := exists_of_bind hrun
  exact h a hrest

theorem Yields.map {Q : α → Prop} {P : β → Prop} {r : Reader α} {f : α → β} (hr : Yields Q r)
    (h : ∀ a, Q a → P (f a)) : Yields P (f <$> r) := by
  intro s b s' hrun
  obtain ⟨a, s₁, ha, hrun⟩ := exists_of_bind (show (r >>= fun a => pure (f a)) s = _ from hrun)
  cases hrun
  exact h a (hr ha)

def IsAtom (a : Node) : Prop :=
  (∃ s, a = .ofSet s) ∨ ∃ l, a = .look l

theorem IsAtom.renumber (h : IsAtom a) (k : Nat) : a.renumber k = a := by
  obtain ⟨s, rfl⟩ | ⟨l, rfl⟩ := h
  . exact Node.renumber_ofSet s
  . rfl

theorem IsAtom.bodies (h : IsAtom a) (n : Nat) : a.bodies n = [] := by
  obtain ⟨s, rfl⟩ | ⟨l, rfl⟩ := h
  . exact Node.bodies_ofSet n s
  . rfl

theorem yields_literal (d : Char) : Yields IsAtom (literal d) := by
  exact .bind fun set => yields_pure (.inl ⟨set, rfl⟩)

theorem yields_simpleItem : Yields IsAtom simpleItem := by
  apply Yields.bind
  intro f
  apply Yields.bind
  intro d
  split
  . apply Yields.bind
    intro found
    cases found with
    | literal d => exact yields_literal d
    | set s => exact yields_pure (.inl ⟨s, rfl⟩)
    | look l => exact yields_pure (.inr ⟨l, rfl⟩)
  . exact .bind fun f => .bind fun set => yields_pure (.inl ⟨set, rfl⟩)
  . exact yields_pure (.inr ⟨_, rfl⟩)
  . exact yields_pure (.inr ⟨_, rfl⟩)
  . exact yields_literal d

/-! ### Groups in a context -/

def GroupStart.renumber (k : Nat) : GroupStart → GroupStart
  | .numbered n => .numbered (n + k)
  | .unnumbered => .unnumbered
  | .settings => .settings

theorem AtBreak.head?_append (h : AtBreak c.behind) (hcs : cs.head? ≠ some '?')
    : (cs ++ c.behind).head? ≠ some '?' := by
  rw [List.head?_append]
  cases hhead : cs.head? with
  | none =>
    obtain ⟨d, rest, hbehind, hd⟩ := h
    rw [hbehind]
    rintro ⟨⟩
    exact absurd hd (by decide)
  | some d => rwa [hhead] at hcs

theorem Context.inside_start (c : Context) (cs : List Char)
    : c.inside cs 0 [] = ahead c.properties (cs ++ c.behind) c.groups c.names := by
  unfold inside
  rw [Nat.zero_add]
  rfl

theorem Context.allNames_cons (c : Context) (name : String) (n : Nat) (names : List (String × Nat))
    : c.allNames ((name, n) :: names) = (name, n + c.groups) :: c.allNames names := rfl

theorem distinct_cons {name : String} {n : Nat} (hfresh : names.any (·.1 == name) = false) (h : Distinct names)
    : Distinct ((name, n) :: names) := by
  refine List.nodup_cons.mpr ⟨fun hmem => ?_, h⟩
  obtain ⟨g, hg, heq⟩ := List.mem_map.mp hmem
  have hall : ∀ g ∈ names, ¬g.1 = name := by simpa using hfresh
  exact hall g hg heq

theorem groupStart_within {start : GroupStart} {s : State}
    (hflags : KeepsFlags cs)
    (h : groupStart (ahead c.properties cs groups names) = some (start, s))
    : ∃ ds groups' names', s = ahead c.properties ds groups' names' ∧ ds <:+ cs
        ∧ (start = .unnumbered ∧ groups' = groups ∨ start = .numbered groups' ∧ groups' = groups + 1)
        ∧ KeepsFlags (cs ++ c.behind)
        ∧ ∀ ⦃x⦄, groupStart (c.inside cs groups names) = some x →
          x = (start.renumber c.groups, c.inside ds groups' names')
            ∧ (Distinct (c.allNames names) → Distinct (c.allNames names')) := by
  obtain ⟨ds, rfl, rfl, rfl⟩ | ⟨mark, hmark, name, ds, rfl, hname, rfl, rfl⟩ | ⟨hhead, rfl, rfl⟩ :=
    groupStart_cases hflags h
  . refine ⟨ds, groups, names, rfl, ⟨['?', ':'], rfl⟩, .inl ⟨rfl, rfl⟩, ?_, ?_⟩
    . exact keepsFlags_cons (.inl rfl)
    . intro x hx
      cases hx
      exact ⟨rfl, id⟩
  . have hcontext : KeepsFlags (mark ++ (name ++ '>' :: ds) ++ c.behind) := by
      rw [List.append_assoc]
      exact keepsFlags_mark hmark
    refine ⟨ds, groups + 1, (String.ofList name, groups + 1) :: names, rfl, ?_, .inr ⟨rfl, rfl⟩, hcontext, ?_⟩
    . exact ((List.suffix_cons '>' ds).trans (List.suffix_append name _)).trans (List.suffix_append mark _)
    . rintro ⟨start', s'⟩ hx
      rw [Context.inside, List.append_assoc, List.append_assoc, List.cons_append] at hx
      obtain ⟨rfl, rfl, hfresh⟩ := groupStart_of_name hmark hname hx
      rw [Context.inside, Context.allNames_cons, Nat.add_right_comm]
      exact ⟨by rw [GroupStart.renumber, Nat.add_right_comm], distinct_cons hfresh⟩
  . have hbehind : (cs ++ c.behind).head? ≠ some '?' := c.atBreak.head?_append hhead
    refine ⟨cs, groups + 1, names, rfl, List.suffix_rfl, .inr ⟨rfl, rfl⟩, keepsFlags_of_head hbehind, ?_⟩
    intro x hx
    rw [Context.inside, groupStart_of_head hbehind] at hx
    cases hx
    rw [Context.inside, Nat.add_right_comm]
    exact ⟨by rw [GroupStart.renumber, Nat.add_right_comm], id⟩

def Context.Closes (c : Context) (rest : List Char) : Prop :=
  (rest ++ c.behind).head? = some ')'

theorem embeds_group {e e' : Reader (Nested Node)}
    (he : Embeds c c.Closes Nested.value (Nested.renumber c.groups) e e')
    : Embeds c (fun _ => True) (·.node.value) (Item.renumber c.groups) (group e) (group e') := by
  intro cs groups names i s hcalm h
  obtain ⟨cs, rfl⟩ : ∃ ds, cs = '(' :: ds := by
    obtain ⟨⟨⟩, s₀, hopen, -⟩ := exists_of_bind h
    obtain ⟨ds, hds, -⟩ := exists_of_expect hopen
    exact ⟨ds, hds⟩
  have hflags : KeepsFlags cs := by
    rintro d ds rfl
    exact hcalm d (List.prefix_append ['(', '?', d] ds).isInfix
  obtain ⟨start, s₁, body, s₂, ds, hstart, hbody, hds, rfl, hi⟩ := group_cases hflags h
  obtain ⟨cs₁, groups₁, names₁, rfl, hsuffix₁, hkind, hcontext, hwithin₁⟩ := groupStart_within (c := c) hflags hstart
  have hcalm₁ := hcalm.of_suffix (hsuffix₁.trans (List.suffix_cons '(' cs))
  obtain ⟨cs₂, groups₂, names₂, rfl, hsuffix₂, hle, hnumbers, hwithin₂⟩ := he hcalm₁ hbody
  obtain rfl : cs₂ = ')' :: ds := hds
  refine ⟨ds, groups₂, names₂, rfl, ?_, ?_, ?_, ?_⟩
  . exact (List.suffix_cons ')' ds).trans (hsuffix₂.trans (hsuffix₁.trans (List.suffix_cons '(' cs)))
  . omega
  . intro n hn
    obtain ⟨rfl, rfl⟩ | ⟨m, rfl, rfl⟩ := hi
    . obtain ⟨-, rfl⟩ | ⟨hnumbered, -⟩ := hkind
      . exact hnumbers n hn
      . cases hnumbered
    . obtain ⟨hnumbered, -⟩ | ⟨hnumbered, rfl⟩ := hkind
      . cases hnumbered
      . cases hnumbered
        rw [Node.bodies, if_neg (by omega)]
        exact hnumbers n (by omega)
  -- In the context the group begins in the same way, so it has the same body and the same end.
  . rintro ⟨i', s'⟩ - hx
    obtain ⟨start', s₁', body', s₂', ds', hstart', hbody', hds', rfl, hi'⟩ := group_cases hcontext hx
    obtain ⟨heq₁, hdistinct₁⟩ := hwithin₁ hstart'
    cases heq₁
    obtain ⟨heq₂, hdistinct₂⟩ := hwithin₂ rfl hbody'
    cases heq₂
    obtain rfl : ds ++ c.behind = ds' := List.tail_eq_of_cons_eq hds'
    refine ⟨?_, hdistinct₂ ∘ hdistinct₁⟩
    obtain ⟨rfl, rfl⟩ | ⟨m, rfl, rfl⟩ := hi
    . obtain ⟨-, rfl⟩ | ⟨m', hnumbered, -⟩ := hi'
      . rfl
      . cases hnumbered
    . obtain ⟨hnumbered, -⟩ | ⟨m', hnumbered, rfl⟩ := hi'
      . cases hnumbered
      . cases hnumbered
        rfl

theorem item_of_simple {e : Reader (Nested Node)} {fuel : Nat} {d : Char} (hopen : d ≠ '(') (hset : d ≠ '[')
    (cs : List Char) (groups : Nat) (names : List (String × Nat))
    : item fuel e (ahead props (d :: cs) groups names)
        =
      ((fun a => ⟨⟨a, 0⟩, false⟩) <$> simpleItem) (ahead props (d :: cs) groups names) := by
  unfold item
  rw [rest_bind]
  generalize hall : (ahead props (d :: cs) groups names).rest = all
  split
  . cases hall
    exact absurd rfl hopen
  . cases hall
    exact absurd rfl hset
  . rfl

theorem Local.embeds_atoms {r r' : Reader Item} (hr : Local c.behind r r') (h : Yields (IsAtom ·.node.value) r)
    : Embeds c (fun _ => True) (·.node.value) (Item.renumber c.groups) r r' := by
  intro cs groups names i s _ hrun
  obtain ⟨rest, hsuffix, rfl, hwithin⟩ := hr hrun
  have hatom := h hrun
  refine ⟨rest, groups, names, rfl, hsuffix, Nat.le_refl groups, fun n _ => hatom.bodies n, ?_⟩
  intro x _ hx
  rw [Item.renumber, Nested.renumber, hatom.renumber]
  exact ⟨hwithin hx, id⟩

theorem embeds_item {e e' : Reader (Nested Node)} {fuel fuel' : Nat} (hfuel : fuel ≤ fuel')
    (he : Embeds c c.Closes Nested.value (Nested.renumber c.groups) e e')
    : Embeds c (fun _ => True) (·.node.value) (Item.renumber c.groups) (item fuel e) (item fuel' e') := by
  intro cs groups names i s hcalm h
  cases cs with
  | nil => cases h
  | cons d cs =>
    by_cases hopen : d = '('
    . subst hopen
      exact embeds_group he hcalm h
    . by_cases hset : d = '['
      . subst hset
        let ofBrackets (s : Nested CharSet) : Item := ⟨⟨.ofSet s.value, s.depth⟩, false⟩
        have hlocal := (local_brackets c.atBreak hfuel maxDepth).map ofBrackets
        have hatoms : Yields (IsAtom ·.node.value) (ofBrackets <$> brackets fuel maxDepth) :=
          Yields.map (fun _ _ _ _ => trivial) fun s _ => .inl ⟨s.value, rfl⟩
        exact hlocal.embeds_atoms hatoms hcalm h
      . let ofAtom (a : Node) : Item := ⟨⟨a, 0⟩, false⟩
        have hlocal := (local_simpleItem c.atBreak).map ofAtom
        have hatoms : Yields (IsAtom ·.node.value) (ofAtom <$> simpleItem) :=
          yields_simpleItem.map fun a ha => ha
        rw [item_of_simple hopen hset] at h
        obtain ⟨rest, groups', names', hs, hsuffix, hle, hnumbers, hwithin⟩ := hlocal.embeds_atoms hatoms hcalm h
        refine ⟨rest, groups', names', hs, hsuffix, hle, hnumbers, ?_⟩
        intro x hends hx
        apply hwithin hends
        rw [← hx]
        exact (item_of_simple hopen hset (cs ++ c.behind) _ _).symm

/-! ### Sequences -/

theorem bounds?_none {s s' : State} (h : bounds? s = some (none, s')) : s' = s := by
  unfold bounds? at h
  rw [rest_bind] at h
  generalize s.rest = all at h
  split at h
  iterate 3
    . obtain ⟨⟨⟩, s₁, -, h⟩ := exists_of_bind h
      obtain ⟨b, s₂, -, h⟩ := exists_of_bind h
      cases h
  . obtain ⟨⟨⟩, s₁, -, h⟩ := exists_of_bind h
    obtain ⟨b, s₂, -, h⟩ := exists_of_bind h
    cases h
  . cases h
    rfl

def Item.times (i : Item) (b : Bounds) : Item :=
  ⟨⟨i.node.value.repeated b.min b.max b.lazy, i.node.depth + 1⟩, false⟩

/-- An item with repetitions behind it. -/
def Item.marked (i : Item) (marks : List Bounds) : Item :=
  marks.foldl Item.times i

/-- The repetitions are those of the last item that has been read, which is first. -/
def markLast (marks : List Bounds) : List Item → List Item
  | [] => []
  | i :: items => i.marked marks :: items

@[simp]
theorem markLast_nil (items : List Item) : markLast [] items = items := by
  cases items with
  | nil => rfl
  | cons i items => rfl

theorem sequence_cases {item : Reader Item} {n : Nat} {before : List Item} {x : Nested Node × State}
    (h : sequence item (n + 1) before (ahead props cs groups names) = some x)
    : (∃ b s last older, bounds? (ahead props cs groups names) = some (some b, s) ∧ before = last :: older
        ∧ last.isSetting = false ∧ sequence item n (last.times b :: older) s = some x)
      ∨ bounds? (ahead props cs groups names) = some (none, ahead props cs groups names)
        ∧ (Ends cs ∧ x = (combine Node.sequence (before.reverse.map Item.node), ahead props cs groups names)
          ∨ ¬Ends cs ∧ ∃ i s, item (ahead props cs groups names) = some (i, s)
            ∧ sequence item n (i :: before) s = some x) := by
  unfold sequence at h
  rw [skipSpace_bind] at h
  obtain ⟨found, s, hbounds, h⟩ := exists_of_bind h
  cases found with
  | some b =>
    left
    cases before with
    | nil => cases h
    | cons last older =>
      cases hsetting : last.isSetting with
      | false =>
        simp only [hsetting, Bool.false_eq_true, if_false] at h
        exact ⟨b, s, last, older, hbounds, rfl, hsetting, h⟩
      | true =>
        simp only [hsetting, if_true] at h
        cases h
  | none =>
    right
    obtain rfl := bounds?_none hbounds
    refine ⟨hbounds, ?_⟩
    replace h : (Reader.rest >>= _) (ahead props cs groups names) = some x := h
    rw [rest_bind] at h
    -- What comes next has to be a variable for the match on it to be split.
    generalize hall : (ahead props cs groups names).rest = all at h
    replace hall : cs = all := hall
    split at h
    . subst hall
      exact .inl ⟨trivial, (Option.some.inj h).symm⟩
    . subst hall
      exact .inl ⟨.inl rfl, (Option.some.inj h).symm⟩
    . subst hall
      exact .inl ⟨.inr rfl, (Option.some.inj h).symm⟩
    . next hnil hbar hclose =>
      right
      obtain ⟨i, s, hitem, h⟩ := exists_of_bind h
      refine ⟨?_, i, s, hitem, h⟩
      subst hall
      cases cs with
      | nil => exact absurd rfl hnil
      | cons d cs =>
        rintro (rfl | rfl)
        . exact hbar cs rfl
        . exact hclose cs rfl

/--
A row of items that follows others is read up to the end of its text; where the text stands in a context, the
sequence goes on there with the same items. Repetitions at the start are those of what comes before the row.
-/
structure Row (c : Context) (item' : Reader Item) (cs : List Char) (groups : Nat) (names : List (String × Nat))
    (items : List Item) (rest : List Char) (groups' : Nat) (names' : List (String × Nat)) (items' : List Item)
    (marks : List Bounds) : Prop where
  ends : Ends rest
  suffix : rest <:+ cs
  grows : groups ≤ groups'
  numbers : ∀ low ≤ groups, (∀ i ∈ items, NumberedIn low groups i.node.value) →
    ∀ i ∈ items', NumberedIn low groups' i.node.value
  within : ∀ (outer : List Item) (n : Nat) (x : Nested Node × State),
    sequence item' n (items.map (Item.renumber c.groups) ++ outer) (c.inside cs groups names) = some x →
    (Distinct (c.allNames names) → Distinct (c.allNames names'))
      ∧ ∃ m, sequence item' m (items'.map (Item.renumber c.groups) ++ markLast marks outer)
        (c.inside rest groups' names') = some x

theorem Item.times_renumber (i : Item) (b : Bounds) (k : Nat) : (i.times b).renumber k = (i.renumber k).times b := by
  unfold Item.times Item.renumber Nested.renumber
  dsimp only
  rw [Node.renumber_repeated]

theorem Item.times_numbered {i : Item} (b : Bounds) (h : NumberedIn low high i.node.value)
    : NumberedIn low high (i.times b).node.value :=
  fun n hn => Node.bodies_repeated_eq_nil (h n hn) b.min b.max b.lazy

theorem not_ends_append {behind : List Char} (h : ¬Ends cs) : ¬Ends (cs ++ behind) := by
  cases cs with
  | nil => exact absurd trivial h
  | cons d cs => exact h

section

variable {item' : Reader Item} {n : Nat} {items items' before below : List Item} {marks : List Bounds}
variable {rest₁ : List Char} {groups' groups₁ : Nat} {names' names₁ : List (String × Nat)} {b : Bounds} {i : Item}
variable {x : Nested Node × State}

/-- In the context a sequence begins with the same repetitions. -/
theorem exists_mark_within
    (hwithin : ∀ ⦃r⦄, bounds? (c.inside cs groups names) = some r → r = (some b, c.inside rest groups names))
    (h : sequence item' n before (c.inside cs groups names) = some x)
    : ∃ m last older, before = last :: older
        ∧ sequence item' m (last.times b :: older) (c.inside rest groups names) = some x := by
  cases n with
  | zero => cases h
  | succ n =>
    obtain ⟨b', s, last, older, hbounds, hlast, -, h⟩ | ⟨hbounds, -⟩ := sequence_cases h
    . cases hwithin hbounds
      exact ⟨n, last, older, hlast, h⟩
    . cases hwithin hbounds

/-- In the context a sequence that does not begin with repetitions and has not come to its end begins with an item. -/
theorem exists_item_within (hbounds : bounds? (ahead c.properties cs groups names)
      = some (none, ahead c.properties cs groups names)) (hends : ¬Ends cs)
    (h : sequence item' n before (c.inside cs groups names) = some x)
    : ∃ i s m, item' (c.inside cs groups names) = some (i, s) ∧ sequence item' m (i :: before) s = some x := by
  obtain ⟨rest, -, hrest, hwithin⟩ := local_bounds? c.atBreak hbounds
  cases hrest
  cases n with
  | zero => cases h
  | succ n =>
    obtain ⟨b, s, last, older, hmark, -⟩ | ⟨-, ⟨hends', -⟩ | ⟨-, i, s, hi, h⟩⟩ := sequence_cases h
    . cases hwithin hmark
    . exact absurd hends' (not_ends_append hends)
    . exact ⟨i, s, n, hi, h⟩

theorem Row.done (hends : Ends cs) : Row c item' cs groups names items cs groups names items [] := by
  refine ⟨hends, List.suffix_rfl, Nat.le_refl groups, fun _ _ hitems => hitems, fun outer n x hx => ⟨id, n, ?_⟩⟩
  rw [markLast_nil]
  exact hx

theorem Row.mark_before (h : Row c item' rest₁ groups names [] rest groups' names' items' marks)
    (hsuffix : rest₁ <:+ cs)
    (hwithin : ∀ ⦃r⦄, bounds? (c.inside cs groups names) = some r → r = (some b, c.inside rest₁ groups names))
    : Row c item' cs groups names [] rest groups' names' items' (b :: marks) := by
  refine ⟨h.ends, h.suffix.trans hsuffix, h.grows, h.numbers, fun outer n x hx => ?_⟩
  obtain ⟨m, last, older, rfl, hgoes⟩ := exists_mark_within hwithin hx
  exact h.within (last.times b :: older) m x hgoes

theorem Row.mark_last (h : Row c item' rest₁ groups names (i.times b :: items) rest groups' names' items' marks)
    (hsuffix : rest₁ <:+ cs)
    (hwithin : ∀ ⦃r⦄, bounds? (c.inside cs groups names) = some r → r = (some b, c.inside rest₁ groups names))
    : Row c item' cs groups names (i :: items) rest groups' names' items' marks := by
  refine ⟨h.ends, h.suffix.trans hsuffix, h.grows, ?_, fun outer n x hx => ?_⟩
  . intro low hlow hitems
    obtain ⟨hlast, holder⟩ := List.forall_mem_cons.mp hitems
    exact h.numbers low hlow (List.forall_mem_cons.mpr ⟨Item.times_numbered b hlast, holder⟩)
  . obtain ⟨m, last, older, hbefore, hgoes⟩ := exists_mark_within hwithin hx
    obtain ⟨rfl, rfl⟩ := List.cons_eq_cons.mp hbefore
    rw [← Item.times_renumber] at hgoes
    exact h.within outer m x hgoes

theorem Row.next (h : Row c item' rest₁ groups₁ names₁ (i :: items) rest groups' names' items' marks)
    (hsuffix : rest₁ <:+ cs) (hle : groups ≤ groups₁) (hnumbers : NumberedIn groups groups₁ i.node.value)
    (hwithin : ∀ ⦃outer n x⦄, sequence item' n outer (c.inside cs groups names) = some x →
      (Distinct (c.allNames names) → Distinct (c.allNames names₁))
        ∧ ∃ m, sequence item' m (i.renumber c.groups :: outer) (c.inside rest₁ groups₁ names₁) = some x)
    : Row c item' cs groups names items rest groups' names' items' marks := by
  refine ⟨h.ends, h.suffix.trans hsuffix, Nat.le_trans hle h.grows, ?_, fun outer n x hx => ?_⟩
  . intro low hlow hitems
    apply h.numbers low (Nat.le_trans hlow hle)
    rw [List.forall_mem_cons]
    exact ⟨hnumbers.mono hlow (Nat.le_refl _), fun j hj => (hitems j hj).mono (Nat.le_refl _) hle⟩
  . obtain ⟨hdistinct, m, hgoes⟩ := hwithin hx
    obtain ⟨hdistinct', hlast⟩ := h.within outer m x hgoes
    exact ⟨hdistinct' ∘ hdistinct, hlast⟩

theorem exists_row {item : Reader Item} {a : Nested Node} {s : State}
    (hitem : Embeds c (fun _ => True) (·.node.value) (Item.renumber c.groups) item item') (hcalm : SetsNoFlags cs)
    (h : sequence item n (items ++ below) (ahead c.properties cs groups names) = some (a, s))
    : ∃ items' marks rest groups' names', s = ahead c.properties rest groups' names'
        ∧ a = combine Node.sequence ((items' ++ markLast marks below).reverse.map Item.node)
        ∧ (below = [] → marks = [])
        ∧ Row c item' cs groups names items rest groups' names' items' marks := by
  induction n generalizing cs groups names items below with
  | zero => cases h
  | succ n ih =>
    -- A turn of the loop finds a repetition, the end or an item, and in the context it finds the same.
    obtain ⟨b, s₁, last, older, hbounds, hbefore, -, hnext⟩ | ⟨hbounds, ⟨hends, hx⟩ | ⟨hends, i, s₁, hi, hnext⟩⟩ :=
      sequence_cases h
    . obtain ⟨rest₁, hsuffix, rfl, hwithin⟩ := local_bounds? c.atBreak hbounds
      cases items with
      | nil =>
        obtain rfl : below = last :: older := hbefore
        replace hnext : sequence item n ([] ++ last.times b :: older) _ = _ := hnext
        obtain ⟨items', marks, rest, groups', names', rfl, rfl, -, hrow⟩ := ih (hcalm.of_suffix hsuffix) hnext
        exact ⟨items', b :: marks, rest, groups', names', rfl, rfl, nofun,
          hrow.mark_before hsuffix fun _ hr => hwithin hr⟩
      | cons i items =>
        obtain ⟨rfl, rfl⟩ := List.cons_eq_cons.mp hbefore
        replace hnext : sequence item n (i.times b :: items ++ below) _ = _ := hnext
        obtain ⟨items', marks, rest, groups', names', rfl, rfl, hmarks, hrow⟩ := ih (hcalm.of_suffix hsuffix) hnext
        exact ⟨items', marks, rest, groups', names', rfl, rfl, hmarks, hrow.mark_last hsuffix fun _ hr => hwithin hr⟩
    . cases hx
      refine ⟨items, [], cs, groups, names, rfl, ?_, fun _ => rfl, .done hends⟩
      rw [markLast_nil]
    . obtain ⟨rest₁, groups₁, names₁, rfl, hsuffix, hle, hnumbers, hwithin⟩ := hitem hcalm hi
      replace hnext : sequence item n (i :: items ++ below) _ = _ := hnext
      obtain ⟨items', marks, rest, groups', names', rfl, rfl, hmarks, hrow⟩ := ih (hcalm.of_suffix hsuffix) hnext
      refine ⟨items', marks, rest, groups', names', rfl, rfl, hmarks, hrow.next hsuffix hle hnumbers ?_⟩
      intro outer m x hx
      obtain ⟨i', s', m', hi', hx⟩ := exists_item_within hbounds hends hx
      obtain ⟨heq, hdistinct⟩ := hwithin trivial hi'
      cases heq
      exact ⟨hdistinct, m', hx⟩

end

/-! ### Alternatives -/

/-- Behind these alternatives, the last of which is first, there comes another one, or they are all. -/
def GoesOn (branch : Reader (Nested Node)) (n : Nat) (as : List (Nested Node)) (s : State) (x : Nested Node × State) :
    Prop :=
  (∃ ds, s.rest = '|' :: ds ∧ alternatives branch n as { s with rest := ds } = some x)
    ∨ s.rest.head? ≠ some '|' ∧ x = (combine Node.alternation as.reverse, s)

theorem alternatives_cases {branch : Reader (Nested Node)} {n : Nat} {as : List (Nested Node)}
    {x : Nested Node × State} (h : alternatives branch (n + 1) as (ahead props cs groups names) = some x)
    : ∃ a s, branch (ahead props cs groups names) = some (a, s) ∧ GoesOn branch n (a :: as) s x := by
  obtain ⟨a, s, hbranch, h⟩ := exists_of_bind h
  refine ⟨a, s, hbranch, ?_⟩
  obtain ⟨props, cs', f, g, ns⟩ := s
  cases cs' with
  | nil =>
    cases h
    exact .inr ⟨nofun, rfl⟩
  | cons d ds =>
    by_cases hbar : d = '|'
    . subst hbar
      exact .inl ⟨ds, rfl, h⟩
    . right
      refine ⟨fun hd => hbar (Option.some.inj hd), ?_⟩
      have hnone : ¬['|'] <+: d :: ds := fun hbegin => hbar (List.cons_prefix_cons.mp hbegin).1.symm
      obtain ⟨isBar, s₁, hskip, h⟩ := exists_of_bind h
      rw [skip?_of_not_begins hnone] at hskip
      cases hskip
      exact (Option.some.inj h).symm

theorem renumber_combine_items (items : List Item) (k : Nat)
    : combine Node.sequence ((items.map (Item.renumber k)).reverse.map Item.node)
        =
      (combine Node.sequence (items.reverse.map Item.node)).renumber k := by
  rw [renumber_combine Node.renumber_sequence]
  simp [Function.comp_def, Item.renumber]

theorem ends_of_closes (h : c.Closes rest) : Ends (rest ++ c.behind) := by
  unfold Context.Closes at h
  cases hall : rest ++ c.behind with
  | nil => exact trivial
  | cons d ds =>
    rw [hall] at h
    exact .inr (Option.some.inj h)

theorem numberedIn_combine {build : List Node → Node} (hbuild : Node.Keeps build) {parts : List (Nested Node)}
    (h : ∀ a ∈ parts, NumberedIn low high a.value) : NumberedIn low high (combine build parts).value := by
  intro n hn
  have hnone : Node.bodiesAll n (parts.map Nested.value) = [] :=
    Node.bodiesAll_eq_nil_iff.mpr (List.forall_mem_map.mpr fun a ha => h a ha n hn)
  rw [bodies_combine hbuild, hnone]
  rw [hnone]
  exact Nat.zero_le 1

section Row

variable {item' : Reader Item} {items : List Item} {groups' : Nat} {names' : List (String × Nat)}

theorem Row.numbered (hrow : Row c item' cs groups names [] rest groups' names' items []) (hlow : low ≤ groups)
    : NumberedIn low groups' (combine Node.sequence (items.reverse.map Item.node)).value := by
  apply numberedIn_combine Node.keeps_sequence
  intro p hp
  obtain ⟨i, hi, rfl⟩ := List.mem_map.mp hp
  exact hrow.numbers low hlow nofun i (List.mem_reverse.mp hi)

theorem Row.sequence_eq (hrow : Row c item' cs groups names [] rest groups' names' items [])
    (hends : Ends (rest ++ c.behind)) {n : Nat} {x : Nested Node × State}
    (hx : sequence item' n [] (c.inside cs groups names) = some x)
    : x = ((combine Node.sequence (items.reverse.map Item.node)).renumber c.groups, c.inside rest groups' names')
        ∧ (Distinct (c.allNames names) → Distinct (c.allNames names')) := by
  obtain ⟨hdistinct, m, hlast⟩ := hrow.within [] n x hx
  cases m with
  | zero => cases hlast
  | succ m =>
    rw [markLast_nil, List.append_nil, Context.inside, sequence_of_ends hends, renumber_combine_items] at hlast
    exact ⟨(Option.some.inj hlast).symm, hdistinct⟩

theorem Row.alternatives_cases (hrow : Row c item' cs groups names [] rest groups' names' items [])
    (hends : Ends (rest ++ c.behind)) {m n : Nat} {as : List (Nested Node)} {x : Nested Node × State}
    (hx : alternatives (sequence item' m []) n as (c.inside cs groups names) = some x)
    : ∃ a k, a = (combine Node.sequence (items.reverse.map Item.node)).renumber c.groups
        ∧ (Distinct (c.allNames names) → Distinct (c.allNames names'))
        ∧ GoesOn (sequence item' m []) k (a :: as) (c.inside rest groups' names') x := by
  cases n with
  | zero => cases hx
  | succ n =>
    obtain ⟨a, s, hbranch, h⟩ := Reader.alternatives_cases hx
    obtain ⟨heq, hdistinct⟩ := hrow.sequence_eq hends hbranch
    cases heq
    exact ⟨_, n, rfl, hdistinct, h⟩

end Row

theorem alternatives_within {item item' : Reader Item} {m n : Nat} {as : List (Nested Node)} {a : Nested Node}
    {s : State}
    (hitem : Embeds c (fun _ => True) (·.node.value) (Item.renumber c.groups) item item') (hcalm : SetsNoFlags cs)
    (h : alternatives (sequence item m []) n as (ahead c.properties cs groups names) = some (a, s))
    : ∃ rest groups' names', s = ahead c.properties rest groups' names' ∧ rest <:+ cs ∧ groups ≤ groups'
        ∧ (∀ low ≤ groups, (∀ b ∈ as, NumberedIn low groups b.value) → NumberedIn low groups' a.value)
        ∧ ∀ ⦃m' n' x⦄, c.Closes rest →
          alternatives (sequence item' m' []) n' (as.map (Nested.renumber c.groups)) (c.inside cs groups names)
            = some x →
          x = (a.renumber c.groups, c.inside rest groups' names')
            ∧ (Distinct (c.allNames names) → Distinct (c.allNames names')) := by
  induction n generalizing cs groups names as with
  | zero => cases h
  | succ n ih =>
    obtain ⟨b, s₁, hbranch, h⟩ := alternatives_cases h
    replace hbranch : sequence item m ([] ++ []) _ = _ := hbranch
    obtain ⟨items, marks, rest₁, groups₁, names₁, rfl, hb, hmarks, hrow⟩ := exists_row hitem hcalm hbranch
    obtain rfl := hmarks rfl
    rw [markLast_nil, List.append_nil] at hb
    have hall : ∀ low ≤ groups, (∀ b ∈ as, NumberedIn low groups b.value) →
        ∀ b' ∈ b :: as, NumberedIn low groups₁ b'.value := by
      intro low hlow has
      rw [List.forall_mem_cons, hb]
      exact ⟨hrow.numbered hlow, fun b' hb' => (has b' hb').mono (Nat.le_refl _) hrow.grows⟩
    -- The sign that ends this alternative, or the lack of one, is the same in the context.
    obtain ⟨ds, hbar, h⟩ | ⟨hbar, hx⟩ := h
    . obtain rfl : rest₁ = '|' :: ds := hbar
      have hsuffix : ds <:+ cs := (List.suffix_cons '|' ds).trans hrow.suffix
      obtain ⟨rest, groups', names', rfl, hrest, hle, hlast, hwithin⟩ := ih (hcalm.of_suffix hsuffix) h
      refine ⟨rest, groups', names', rfl, hrest.trans hsuffix, Nat.le_trans hrow.grows hle, ?_, ?_⟩
      . intro low hlow has
        exact hlast low (Nat.le_trans hlow hrow.grows) (hall low hlow has)
      . intro m' n' x hcloses hx
        obtain ⟨b', k, hb', hdistinct, ⟨ds', hbar', hx⟩ | ⟨hbar', -⟩⟩ := hrow.alternatives_cases (.inl rfl) hx
        . obtain rfl : ds ++ c.behind = ds' := List.tail_eq_of_cons_eq hbar'
          rw [hb', ← hb] at hx
          obtain ⟨hx, hdistinct'⟩ := hwithin hcloses hx
          exact ⟨hx, hdistinct' ∘ hdistinct⟩
        . exact absurd rfl hbar'
    . cases hx
      refine ⟨rest₁, groups₁, names₁, rfl, hrow.suffix, hrow.grows, ?_, ?_⟩
      . intro low hlow has
        exact numberedIn_combine Node.keeps_alternation fun p hp =>
          hall low hlow has p (List.mem_reverse.mp hp)
      . intro m' n' x hcloses hx
        obtain ⟨b', k, hb', hdistinct, ⟨ds', hbar', -⟩ | ⟨-, rfl⟩⟩ :=
          hrow.alternatives_cases (ends_of_closes hcloses) hx
        . replace hbar' : rest₁ ++ c.behind = '|' :: ds' := hbar'
          rw [Context.Closes, hbar'] at hcloses
          cases hcloses
        . refine ⟨?_, hdistinct⟩
          rw [renumber_combine Node.renumber_alternation, hb', ← hb]
          simp

/-- An expression that sets no flags is read in any place as it is read alone. -/
theorem embeds_expression {fuel fuel' : Nat} (hfuel : fuel ≤ fuel') (depth depth' : Nat)
    : Embeds c c.Closes Nested.value (Nested.renumber c.groups) (expression fuel depth) (expression fuel' depth') := by
  induction depth generalizing depth' with
  | zero =>
    intro cs groups names a s _ h
    cases h
  | succ depth ih =>
    intro cs groups names a s hcalm h
    obtain ⟨rest, groups', names', hs, hsuffix, hle, hnumbers, hwithin⟩ :=
      alternatives_within (embeds_item hfuel (ih (depth' - 1))) hcalm h
    refine ⟨rest, groups', names', hs, hsuffix, hle, hnumbers groups (Nat.le_refl groups) nofun, ?_⟩
    intro x hcloses hx
    cases depth' with
    | zero => cases hx
    | succ depth' => exact hwithin hcloses hx

end Triword.Regex.Reader
