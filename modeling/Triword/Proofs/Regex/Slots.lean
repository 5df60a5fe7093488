import Triword.Proofs.Regex.Embedding

/-!
Groups with names that are put into an expression. Such a group gets a number under its name, and its body is what is
read of its own text. Rows of items before and behind it, which can be read alone, leave it as it is, and so do
repetitions, unless they repeat it zero times.
-/

namespace Triword.Regex

structure Slot where
  name : String
  body : List Char

namespace Slot

def group (s : Slot) : List Char :=
  '(' :: '?' :: 'P' :: '<' :: (s.name.toList ++ '>' :: (s.body ++ [')']))

/-- The text of the group can be read alone, and sets no flags. -/
structure Holds (props : Properties) (s : Slot) : Prop where
  name : '>' ∉ s.name.toList
  reads : (read? props s.body true).isSome
  calm : Reader.SetsNoFlags s.body

/--
The group has this number under its name, and among the bodies of all groups with the number it has the only one,
which is read from its text alone.
-/
def IsNumbered (props : Properties) (s : Slot) (number : Nat) (names : List (String × Nat)) (bodies : List Node) :
    Prop :=
  (s.name, number) ∈ names
    ∧ ∃ node inner, read? props s.body true = some (node, inner) ∧ bodies = [node.renumber number]

end Slot

/-! ### Rows of items -/

/-- A group with a number that no group of a text has. -/
def hole : Reader.Item :=
  ⟨⟨.group 0 .empty, 0⟩, false⟩

def readRow? (props : Properties) (before : List Reader.Item) (cs : List Char) : Option Node := do
  let fuel := cs.length + 1
  let item := Reader.item fuel (Reader.expression fuel Reader.maxDepth)
  let (a, s) ← Reader.sequence item fuel before (Reader.ahead props cs 0 [])
  if s.rest.isEmpty then return a.value else failure

/-- The text can be read at the start of an alternative, and sets no flags. -/
structure Begins (props : Properties) (cs : List Char) : Prop where
  reads : (readRow? props [] cs).isSome
  calm : Reader.SetsNoFlags cs

/-- The text can be read behind a group, where it may begin with repetitions, which do not make away with the group. -/
structure Follows (props : Properties) (cs : List Char) : Prop where
  reads : (readRow? props [hole] cs).any fun a => !(a.bodies 0).isEmpty
  calm : Reader.SetsNoFlags cs

instance (props : Properties) (cs : List Char) : Decidable (Begins props cs) :=
  decidable_of_iff (_ ∧ _) ⟨fun h => ⟨h.1, h.2⟩, fun h => ⟨h.reads, h.calm⟩⟩

instance (props : Properties) (cs : List Char) : Decidable (Follows props cs) :=
  decidable_of_iff (_ ∧ _) ⟨fun h => ⟨h.1, h.2⟩, fun h => ⟨h.reads, h.calm⟩⟩

namespace Reader

variable {props : Properties} {fuel depth n groups groups' groups₁ low high : Nat}
variable {names names' names₁ : List (String × Nat)} {numbered numbered' : List (Slot × Nat)}
variable {bodies bodies' : Nat → List Node}
variable {cs behind : List Char} {before below items : List Item} {marks : List Bounds}
variable {x : Nested Node × State} {a node : Node}

/-! ### Groups that are found -/

/-- The groups that begin in a part of a text, with their numbers, which grow. -/
structure Found (props : Properties) (numbered : List (Slot × Nat)) (bodies : Nat → List Node) (groups : Nat)
    (names : List (String × Nat)) (groups' : Nat) (names' : List (String × Nat)) : Prop where
  le : groups ≤ groups'
  suffix : names <:+ names'
  distinct : Distinct names → Distinct names'
  outside : ∀ n, n ≤ groups ∨ groups' < n → bodies n = []
  own : ∀ s ∈ numbered, groups < s.2 ∧ s.2 ≤ groups' ∧ s.1.IsNumbered props s.2 names' (bodies s.2)
  increasing : (numbered.map Prod.snd).Pairwise (· < ·)

theorem Found.append (h : Found props numbered bodies groups names groups₁ names₁)
    (h' : Found props numbered' bodies' groups₁ names₁ groups' names')
    : Found props (numbered ++ numbered') (fun n => bodies n ++ bodies' n) groups names groups' names' := by
  have hle := h.le
  have hle' := h'.le
  refine ⟨Nat.le_trans hle hle', h.suffix.trans h'.suffix, h'.distinct ∘ h.distinct, ?_, ?_, ?_⟩
  . intro n hn
    rw [h.outside n (by omega), h'.outside n (by omega), List.append_nil]
  . rw [List.forall_mem_append]
    constructor
    . intro s hs
      obtain ⟨hlow, hhigh, hname, node, inner, hread, hbodies⟩ := h.own s hs
      refine ⟨hlow, Nat.le_trans hhigh hle', h'.suffix.subset hname, node, inner, hread, ?_⟩
      rw [h'.outside s.2 (.inl hhigh), List.append_nil, hbodies]
    . intro s hs
      obtain ⟨hlow, hhigh, hname, node, inner, hread, hbodies⟩ := h'.own s hs
      refine ⟨Nat.lt_of_le_of_lt hle hlow, hhigh, hname, node, inner, hread, ?_⟩
      rw [h.outside s.2 (.inr hlow), List.nil_append, hbodies]
  . rw [List.map_append, List.pairwise_append]
    refine ⟨h.increasing, h'.increasing, ?_⟩
    rintro m hm n hn
    obtain ⟨s, hs, rfl⟩ := List.mem_map.mp hm
    obtain ⟨t, ht, rfl⟩ := List.mem_map.mp hn
    exact Nat.lt_of_le_of_lt (h.own s hs).2.1 (h'.own t ht).1

theorem eq_of_perm {α : Type} {l l' : List α} (h : l'.Perm l) (hlength : l.length ≤ 1) : l' = l := by
  match l with
  | [] => exact h.eq_nil
  | [_] => exact List.perm_singleton.mp h

/-- Bodies that are the only ones of their groups may be put together in any order. -/
theorem Found.congr (h : Found props numbered bodies groups names groups' names')
    (hperm : ∀ n, (bodies n).length ≤ 1 → (bodies' n).Perm (bodies n))
    : Found props numbered bodies' groups names groups' names' := by
  have heq : ∀ n, (bodies n).length ≤ 1 → bodies' n = bodies n := fun n hn => eq_of_perm (hperm n hn) hn
  refine ⟨h.le, h.suffix, h.distinct, ?_, ?_, h.increasing⟩
  . intro n hn
    have hnone := h.outside n hn
    rw [heq n (by simp [hnone]), hnone]
  . intro s hs
    obtain ⟨hlow, hhigh, hname, node, inner, hread, hbodies⟩ := h.own s hs
    refine ⟨hlow, hhigh, hname, node, inner, hread, ?_⟩
    rw [heq s.2 (by simp [hbodies]), hbodies]

theorem NumberedIn.renumber (h : NumberedIn low high a) (k : Nat) : NumberedIn (low + k) (high + k) (a.renumber k) := by
  intro n hn
  apply Node.bodies_renumber
  intro m hm
  apply h
  omega

/-! ### Repetitions -/

def bodiesIn (number : Nat) (items : List Item) : List Node :=
  items.flatMap (·.node.value.bodies number)

theorem bodiesIn_eq_nil (h : ∀ i ∈ items, NumberedIn low high i.node.value) (hn : n ≤ low ∨ high < n)
    : bodiesIn n items = [] :=
  List.flatMap_eq_nil_iff.mpr fun i hi => h i hi n hn

theorem bodies_row (n : Nat) (items : List Item)
    : ((combine Node.sequence (items.reverse.map Item.node)).value.bodies n).Perm (bodiesIn n items) := by
  have hmap : bodiesIn n items.reverse = Node.bodiesAll n ((items.reverse.map Item.node).map Nested.value) := by
    rw [Node.bodiesAll_eq_flatMap, List.map_map, List.flatMap_map]
    rfl
  rw [bodies_combine_sequence, ← hmap]
  exact (List.reverse_perm items).flatMap_right _

def Bounds.repeats (b : Bounds) : Bool :=
  !(b.min == 0 && b.max == some 0)

theorem Item.bodies_times (n : Nat) (i : Item) (b : Bounds)
    : (i.times b).node.value.bodies n = if b.repeats then i.node.value.bodies n else [] := by
  have hrepeats : b.repeats ↔ ¬(b.min = 0 ∧ b.max = some 0) := by
    simp [Bounds.repeats, imp_iff_not_or]
  unfold Item.times
  rw [Node.bodies_repeated, if_congr hrepeats rfl rfl, ite_not]

theorem Item.bodies_marked (n : Nat) (i : Item) (marks : List Bounds)
    : (i.marked marks).node.value.bodies n = if marks.all Bounds.repeats then i.node.value.bodies n else [] := by
  induction marks generalizing i with
  | nil => rfl
  | cons b marks ih =>
    show ((i.times b).marked marks).node.value.bodies n = _
    rw [ih, Item.bodies_times, List.all_cons]
    cases b.repeats with
    | false => simp
    | true => rfl

/-! ### Rows in a text -/

theorem exists_of_readRow? {below : List Item} (h : readRow? props below cs = some a)
    : ∃ b s, sequence (item (cs.length + 1) (expression (cs.length + 1) maxDepth)) (cs.length + 1) below
        (ahead props cs 0 []) = some (b, s) ∧ s.rest = [] ∧ b.value = a := by
  obtain ⟨⟨b, s⟩, hread, h⟩ := Option.bind_eq_some_iff.mp h
  replace h : (if s.rest.isEmpty then some b.value else none) = some a := h
  split at h
  . next hempty => exact ⟨b, s, hread, List.isEmpty_iff.mp hempty, Option.some.inj h⟩
  . cases h

theorem exists_of_row (hrow : readRow? props below cs = some a) (hcalm : SetsNoFlags cs) (hbehind : AtBreak behind)
    (hfuel : cs.length < fuel)
    (h : sequence (item fuel (expression fuel depth)) n before (ahead props (cs ++ behind) groups names) = some x)
    : ∃ alone marks items groups' names' m, (below = [] → marks = [])
        ∧ (a.bodies 0).Perm (bodiesIn 0 (alone ++ markLast marks below)) ∧ bodiesIn 0 alone = []
        ∧ Found props [] (bodiesIn · items) groups names groups' names'
        ∧ sequence (item fuel (expression fuel depth)) m (items ++ markLast marks before)
          (ahead props behind groups' names') = some x := by
  let c : Context := ⟨props, groups, names, behind, hbehind⟩
  obtain ⟨b, s, halone, hempty, rfl⟩ := exists_of_readRow? hrow
  replace halone : sequence _ (cs.length + 1) ([] ++ below) _ = _ := halone
  have hitem := embeds_item (c := c) hfuel (embeds_expression hfuel maxDepth depth)
  obtain ⟨alone, marks, rest, groups', names', rfl, rfl, hmarks, hread⟩ := exists_row hitem hcalm halone
  obtain rfl : rest = [] := hempty
  have hinside : c.inside cs 0 [] = ahead props (cs ++ behind) groups names := c.inside_start cs
  rw [← hinside] at h
  obtain ⟨hdistinct, m, hm⟩ := hread.within before n x h
  have hnumbers := hread.numbers 0 (Nat.le_refl 0) nofun
  refine ⟨alone, marks, alone.map (Item.renumber groups), groups' + groups, c.allNames names', m, hmarks,
    bodies_row 0 _, bodiesIn_eq_nil hnumbers (.inl (Nat.le_refl 0)), ⟨?_, ?_, hdistinct, ?_, nofun, .nil⟩, hm⟩
  . exact Nat.le_add_left ..
  . exact List.suffix_append _ names
  . intro k hk
    apply bodiesIn_eq_nil _ hk
    intro i hi
    obtain ⟨j, hj, rfl⟩ := List.mem_map.mp hi
    have hnumbered := (hnumbers j hj).renumber groups
    rw [Nat.zero_add] at hnumbered
    exact hnumbered

theorem exists_of_begins (hcs : Begins props cs) (hbehind : AtBreak behind) (hfuel : cs.length < fuel)
    (h : sequence (item fuel (expression fuel depth)) n before (ahead props (cs ++ behind) groups names) = some x)
    : ∃ items groups' names' m, Found props [] (bodiesIn · items) groups names groups' names'
        ∧ sequence (item fuel (expression fuel depth)) m (items ++ before) (ahead props behind groups' names')
          = some x := by
  obtain ⟨a, hrow⟩ := Option.isSome_iff_exists.mp hcs.reads
  obtain ⟨alone, marks, items, groups', names', m, hmarks, -, -, hfound, hm⟩ :=
    exists_of_row hrow hcs.calm hbehind hfuel h
  rw [hmarks rfl, markLast_nil] at hm
  exact ⟨items, groups', names', m, hfound, hm⟩

/-- Repetitions that leave one group where it is leave all groups where they are. -/
theorem exists_of_follows {i : Item} (hcs : Follows props cs) (hbehind : AtBreak behind) (hfuel : cs.length < fuel)
    (h : sequence (item fuel (expression fuel depth)) n (i :: before) (ahead props (cs ++ behind) groups names)
      = some x)
    : ∃ j items groups' names' m, (∀ n, j.node.value.bodies n = i.node.value.bodies n)
        ∧ Found props [] (bodiesIn · items) groups names groups' names'
        ∧ sequence (item fuel (expression fuel depth)) m (items ++ j :: before) (ahead props behind groups' names')
          = some x := by
  obtain ⟨a, hrow, hkept⟩ := (Option.any_eq_true _ _).mp hcs.reads
  obtain ⟨alone, marks, items, groups', names', m, -, hperm, hnone, hfound, hm⟩ :=
    exists_of_row hrow hcs.calm hbehind hfuel h
  refine ⟨i.marked marks, items, groups', names', m, fun n => ?_, hfound, hm⟩
  rw [Item.bodies_marked]
  split
  . rfl
  . next hmarks =>
    have hall : bodiesIn 0 (alone ++ markLast marks [hole]) = [] := by
      rw [bodiesIn, List.flatMap_append]
      show bodiesIn 0 alone ++ ((hole.marked marks).node.value.bodies 0 ++ []) = []
      rw [hnone, Item.bodies_marked, if_neg hmarks]
      rfl
    rw [hall] at hperm
    rw [hperm.eq_nil] at hkept
    cases hkept

/-! ### Groups with names -/

theorem exists_item_of_sequence {item : Reader Item} {c : Char} (hc : c ∉ notFirst)
    (h : sequence item n before (ahead props (c :: cs) groups names) = some x)
    : ∃ i s m, item (ahead props (c :: cs) groups names) = some (i, s) ∧ sequence item m (i :: before) s = some x := by
  cases n with
  | zero => cases h
  | succ n =>
    obtain ⟨b, s, last, older, hbounds, -⟩ | ⟨-, ⟨hends, -⟩ | ⟨-, i, s, hi, h⟩⟩ := sequence_cases h
    . rw [bounds?_of_not_mem hc] at hbounds
      cases hbounds
    . obtain rfl | rfl := hends
      . exact absurd (by decide) hc
      . exact absurd (by decide) hc
    . exact ⟨i, s, n, hi, h⟩

theorem exists_of_read? (h : read? props cs true = some (node, names))
    : ∃ a s, expression (cs.length + 1) (maxDepth + 1) (ahead props cs 0 []) = some (a, s) ∧ s.rest = []
        ∧ a.value = node ∧ s.names = names := by
  obtain ⟨⟨a, s⟩, hread, h⟩ := Option.bind_eq_some_iff.mp h
  replace h : (if s.rest.isEmpty ∧ a.depth ≤ maxDepth then some (a.value, s.names) else none) = _ := h
  split at h
  . next hgood =>
    cases h
    exact ⟨a, s, hread, List.isEmpty_iff.mp hgood.1, rfl, rfl⟩
  . cases h

/-- A group with a name gets the next number, and its body is read behind the name. -/
theorem exists_of_named {e : Reader (Nested Node)} {mark name : List Char} {i : Item} {s : State}
    (hmark : mark ∈ nameMarks) (hname : '>' ∉ name)
    (h : group e (ahead props ('(' :: (mark ++ (name ++ '>' :: cs))) groups names) = some (i, s))
    : ∃ body s₂ ds, e (ahead props cs (groups + 1) ((String.ofList name, groups + 1) :: names)) = some (body, s₂)
        ∧ s₂.rest = ')' :: ds ∧ s = { s₂ with rest := ds, flags := caseless }
        ∧ i.node.value = .group (groups + 1) body.value
        ∧ (Distinct names → Distinct ((String.ofList name, groups + 1) :: names)) := by
  obtain ⟨start, s₁, body, s₂, ds, hstart, hbody, hds, hs, hkind⟩ := group_cases (keepsFlags_mark hmark) h
  obtain ⟨rfl, rfl, hfresh⟩ := groupStart_of_name hmark hname hstart
  obtain ⟨hnone, -⟩ | ⟨number, hnumber, rfl⟩ := hkind
  . cases hnone
  . cases hnumber
    exact ⟨body, s₂, ds, hbody, hds, hs, rfl, distinct_cons hfresh⟩

/-- A group with a name gets the next number, and what is read of its body is read of the text alone. -/
theorem exists_of_slot {slot : Slot} (hslot : slot.Holds props) (hfuel : slot.body.length < fuel)
    (h : sequence (item fuel (expression fuel depth)) n before (ahead props (slot.group ++ behind) groups names)
      = some x)
    : ∃ i groups' names' m, Found props [(slot, groups + 1)] i.node.value.bodies groups names groups' names'
        ∧ sequence (item fuel (expression fuel depth)) m (i :: before) (ahead props behind groups' names')
          = some x := by
  obtain ⟨i, s, m, hi, hx⟩ := exists_item_of_sequence (by decide) h
  have hmark : ['?', 'P', '<'] ∈ nameMarks := by simp [nameMarks]
  have hchars : slot.group ++ behind
      = '(' :: (['?', 'P', '<'] ++ (slot.name.toList ++ '>' :: (slot.body ++ ')' :: behind))) := by
    simp [Slot.group]
  replace hi : group (expression fuel depth) (ahead props (slot.group ++ behind) groups names) = some (i, s) := hi
  rw [hchars] at hi
  obtain ⟨body, s₂, ds, hbody, hds, rfl, hvalue, hfresh⟩ := exists_of_named hmark hslot.name hi
  rw [String.ofList_toList] at hbody hfresh
  obtain ⟨⟨node, inner⟩, hread⟩ := Option.isSome_iff_exists.mp hslot.reads
  obtain ⟨a, s₀, halone, hempty, rfl, -⟩ := exists_of_read? hread
  -- Behind the name the body is read as if alone, up to the closing parenthesis of the group.
  let c : Context := ⟨props, groups + 1, (slot.name, groups + 1) :: names, ')' :: behind, ')', behind, rfl, by decide⟩
  obtain ⟨rest, groups', names', rfl, -, -, hnumbers, hwithin⟩ :=
    embeds_expression (c := c) hfuel (maxDepth + 1) depth hslot.calm halone
  obtain rfl : rest = [] := hempty
  have hinside : c.inside slot.body 0 []
      = ahead props (slot.body ++ ')' :: behind) (groups + 1) ((slot.name, groups + 1) :: names) :=
    c.inside_start slot.body
  rw [← hinside] at hbody
  obtain ⟨heq, hdistinct⟩ := hwithin rfl hbody
  cases heq
  obtain rfl : behind = ds := List.tail_eq_of_cons_eq hds
  have hinner := NumberedIn.renumber hnumbers (groups + 1)
  refine ⟨_, groups' + (groups + 1), c.allNames names', m, ⟨?_, ?_, ?_, ?_, ?_, List.pairwise_singleton ..⟩, hx⟩
  . omega
  . exact (List.suffix_cons _ names).trans (List.suffix_append _ c.names)
  . exact hdistinct ∘ hfresh
  . intro k hk
    rw [hvalue, Node.bodies, if_neg (by omega)]
    exact hinner k (by omega)
  . rw [List.forall_mem_singleton]
    refine ⟨Nat.lt_succ_self groups, Nat.le_add_left .., List.mem_append_right _ List.mem_cons_self, a.value, inner,
      hread, ?_⟩
    rw [hvalue, Node.bodies, if_pos rfl]
    exact congrArg (_ :: ·) (hinner (groups + 1) (by omega))

end Reader

end Triword.Regex
