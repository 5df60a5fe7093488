import Triword.Regex.Reader

/-!
How the reader goes through an expression in which letters stand for both cases: past one item of a
sequence after the other, with the repetitions behind them, and past groups with all that is in them.
-/

namespace Triword

namespace Regex

namespace Node

theorem ofSet_eq_set {s : CharSet} (h : s.only? = none) : ofSet s = set s := by
  unfold ofSet
  rw [h]

theorem ofSet_eq_literal {s : CharSet} {c : Char} (h : s.only? = some c) : ofSet s = literal [c] := by
  unfold ofSet
  rw [h]

theorem maxLength?_set (s : CharSet) : (set s).maxLength? = if s.edges.isEmpty then none else some 1 := rfl

theorem repeated_set (s : CharSet) (min : Nat) : (set s).repeated min none false = rep (set s) min none false := by
  have hlength : (set s).maxLength? ≠ some 0 := by
    rw [maxLength?_set]
    split
    . nofun
    . nofun
  unfold repeated
  dsimp only
  rw [if_neg hlength, if_neg hlength]
  split
  . contradiction
  . contradiction
  . rfl

end Node

namespace Reader

def caseless : Flags :=
  ⟨true, false, false, false, false, false, false⟩

/-- The state in which some characters come next. -/
abbrev ahead (props : Properties) (cs : List Char) (groups : Nat) (names : List (String × Nat)) : State :=
  ⟨props, cs, caseless, groups, names⟩

variable {props : Properties} {fuel n groups groups' : Nat} {names names' : List (String × Nat)}
variable {c : Char} {cs rest : List Char}
variable {e : Reader (Nested Node)} {before : List Item}

/-! ### Repetitions -/

theorem rest_bind {α : Type} (k : List Char → Reader α) (s : State) : (Reader.rest >>= k) s = k s.rest s := rfl

theorem flags_bind {α : Type} (k : Flags → Reader α) (s : State) : (flags >>= k) s = k s.flags s := rfl

theorem next_bind {α : Type} (k : Char → Reader α)
    : (next >>= k) (ahead props (c :: cs) groups names) = k c (ahead props cs groups names) := rfl

theorem skip?_of_not_begins {needle : List Char} {s : State} (h : ¬needle <+: s.rest)
    : skip? needle s = some (false, s) := by
  show (if needle.isPrefixOf s.rest then _ else _ : Reader Bool) s = _
  rw [if_neg fun hp => h (List.isPrefixOf_iff_prefix.mp hp)]
  rfl

theorem skip?_of_ne {d : Char} (h : d ≠ c)
    : skip? [d] (ahead props (c :: cs) groups names) = some (false, ahead props (c :: cs) groups names) := by
  exact skip?_of_not_begins fun hbegin => h (List.cons_prefix_cons.mp hbegin).1

def Unmarked (rest : List Char) : Prop :=
  rest.head? ≠ some '?'

theorem unmarked_cons (h : c ≠ '?') : Unmarked (c :: cs) :=
  fun hc => h (Option.some.inj hc)

theorem marked_of_unmarked {min : Nat} {max : Option Nat} (h : Unmarked rest)
    : marked min max (ahead props rest groups names) = some (⟨min, max, false⟩, ahead props rest groups names) := by
  cases rest with
  | nil => rfl
  | cons c cs =>
    have hskip : skip? ['?'] (ahead props (c :: cs) groups names) = some (false, ahead props (c :: cs) groups names) :=
      skip?_of_ne fun hc => h (congrArg some hc.symm)
    show (skip? ['?'] _).bind _ = _
    rw [hskip]
    rfl

def signs : List (Char × Nat × Option Nat) :=
  [('*', 0, none), ('+', 1, none), ('?', 0, some 1)]

theorem star_mem_signs : ('*', 0, none) ∈ signs := by
  decide

theorem plus_mem_signs : ('+', 1, none) ∈ signs := by
  decide

theorem question_mem_signs : ('?', 0, some 1) ∈ signs := by
  decide

theorem bounds?_of_sign {min : Nat} {max : Option Nat} (hc : (c, min, max) ∈ signs) (h : Unmarked rest)
    : bounds? (ahead props (c :: rest) groups names)
        =
      some (some ⟨min, max, false⟩, ahead props rest groups names) := by
  have hmarked : marked min max (ahead props rest groups names)
      = some (⟨min, max, false⟩, ahead props rest groups names) :=
    marked_of_unmarked h
  obtain ⟨⟩ | ⟨_, ⟨⟩ | ⟨_, ⟨⟩ | ⟨_, ⟨⟩⟩⟩⟩ := hc
  all_goals
    show (marked _ _ _).bind _ = _
    rw [hmarked]
    rfl

theorem bounds?_of_head (h : ∀ c ∈ cs.head?, c ∉ ['*', '+', '?', '\x7b'])
    : bounds? (ahead props cs groups names) = some (none, ahead props cs groups names) := by
  unfold bounds?
  rw [rest_bind]
  generalize hall : (ahead props cs groups names).rest = all
  replace hall : cs = all := hall
  split
  iterate 4
    . subst hall
      exact absurd (by decide) (h _ rfl)
  . rfl

def notFirst : List Char :=
  ['*', '+', '?', '\x7b', '|', ')']

theorem bounds?_of_not_mem (hc : c ∉ notFirst)
    : bounds? (ahead props (c :: cs) groups names) = some (none, ahead props (c :: cs) groups names) := by
  apply bounds?_of_head
  intro d hd hsign
  cases hd
  exact hc (List.mem_append_left ['|', ')'] hsign)

/-! ### Sequences -/

theorem sequence_of_sign {min : Nat} {max : Option Nat} (hc : (c, min, max) ∈ signs) (h : Unmarked rest)
    (node : Node) (depth : Nat)
    : sequence (item fuel e) (n + 1) (⟨⟨node, depth⟩, false⟩ :: before) (ahead props (c :: rest) groups names)
        =
      sequence (item fuel e) n (⟨⟨node.repeated min max false, depth + 1⟩, false⟩ :: before)
        (ahead props rest groups names) := by
  conv => lhs; unfold sequence
  show (bounds? _).bind _ = _
  rw [bounds?_of_sign hc h]
  rfl

theorem sequence_of_item {i : Item} {s : State} (hc : c ∉ notFirst)
    (h : item fuel e (ahead props (c :: cs) groups names) = some (i, s))
    : sequence (item fuel e) (n + 1) before (ahead props (c :: cs) groups names)
        =
      sequence (item fuel e) n (i :: before) s := by
  conv => lhs; unfold sequence
  show (bounds? _).bind _ = _
  rw [bounds?_of_not_mem hc, Option.bind_some]
  dsimp only
  rw [rest_bind]
  generalize hall : (ahead props (c :: cs) groups names).rest = all
  split
  . cases hall
  iterate 2
    . cases hall
      exact absurd (by decide) hc
  . show (item fuel e _).bind _ = _
    rw [h]
    rfl

def Ends : List Char → Prop
  | [] => True
  | c :: _ => c = '|' ∨ c = ')'

theorem ends_bar : Ends ('|' :: cs) :=
  .inl rfl

theorem sequence_of_ends {next : Reader Item} (h : Ends rest)
    : sequence next (n + 1) before (ahead props rest groups names)
        =
      some (combine Node.sequence (before.reverse.map Item.node), ahead props rest groups names) := by
  cases rest with
  | nil => rfl
  | cons c cs =>
    obtain rfl | rfl := h
    . rfl
    . rfl

theorem Ends.unmarked (h : Ends rest) : Unmarked rest := by
  cases rest with
  | nil => nofun
  | cons c cs =>
    apply unmarked_cons
    obtain rfl | rfl := h
    . decide
    . decide

def Closes (rest : List Char) : Prop :=
  Ends rest ∧ rest.head? ≠ some '|'

theorem closes_nil : Closes [] :=
  ⟨trivial, nofun⟩

theorem closes_cons : Closes (')' :: cs) :=
  ⟨.inr rfl, nofun⟩

/-! ### Items -/

def notPlain : List Char :=
  ['(', '[', '\\', '.', '^', '$']

theorem item_of_plain (hc : c ∉ notPlain)
    : item fuel e (ahead props (c :: cs) groups names)
        =
      some (⟨⟨.ofSet (CharSet.single c).foldCase, 0⟩, false⟩, ahead props cs groups names) := by
  have hsimple : simpleItem (ahead props (c :: cs) groups names)
      = some (.ofSet (CharSet.single c).foldCase, ahead props cs groups names) := by
    unfold simpleItem
    rw [flags_bind, next_bind]
    split
    iterate 4
      . exact absurd (by decide) hc
    . rfl
  unfold item
  rw [rest_bind]
  generalize hall : (ahead props (c :: cs) groups names).rest = all
  split
  iterate 2
    . cases hall
      exact absurd (by decide) hc
  . show (simpleItem _).bind _ = _
    rw [hsimple]
    rfl

theorem item_unnumbered {a : Nested Node}
    (h : e (ahead props cs groups names) = some (a, ahead props (')' :: rest) groups' names'))
    : item fuel e (ahead props ('(' :: '?' :: ':' :: cs) groups names)
        =
      some (⟨⟨a.value, a.depth + 1⟩, false⟩, ahead props rest groups' names') := by
  show (e _).bind _ = _
  rw [h]
  rfl

theorem takeWhile_ne_append_cons {d : Char} {before : List Char} (h : d ∉ before) (cs : List Char)
    : (before ++ d :: cs).takeWhile (· ≠ d) = before := by
  rw [List.takeWhile_append_of_pos]
  . simp
  . intro c hc
    simpa using fun heq : c = d => h (heq ▸ hc)

def canName (name : List Char) : Bool :=
  name.head?.any isNameStart && name.all isNamePart && !name.contains '>'

theorem groupName_of_canName {name : String} (hname : canName name.toList)
    (hfresh : names.any (·.1 == name) = false)
    : groupName (groups + 1) (ahead props (name.toList ++ '>' :: cs) (groups + 1) names)
        =
      some ((), ahead props cs (groups + 1) ((name, groups + 1) :: names)) := by
  obtain ⟨⟨hstart, hparts⟩, hclosed⟩ : (name.toList.head?.any isNameStart ∧ name.toList.all isNamePart)
      ∧ '>' ∉ name.toList := by simpa [canName] using hname
  have htake := takeWhile_ne_append_cons hclosed cs
  have hdrop : (name.toList ++ '>' :: cs).drop name.toList.length = '>' :: cs := List.drop_left
  have hgood : (!(name.toList.head?.any isNameStart) || !name.toList.all isNamePart
      || names.any (·.1 == name)) = false := by
    rw [hstart, hparts, hfresh]
    rfl
  show (do
    let all := name.toList ++ '>' :: cs
    let chars := all.takeWhile (· ≠ '>')
    setRest (all.drop chars.length)
    expect '>'
    let name := String.ofList chars
    let names := (← get).names
    if !(chars.head?.any isNameStart) || !chars.all isNamePart || names.any (·.1 == name) then failure
    modify fun s => { s with names := (name, groups + 1) :: names } : Reader Unit) _ = _
  dsimp only
  rw [htake, hdrop, String.ofList_toList]
  show (if !(name.toList.head?.any isNameStart) || !name.toList.all isNamePart || names.any (·.1 == name) then _
    else _ : Reader Unit) _ = _
  rw [hgood]
  rfl

theorem item_named {name : String} {a : Nested Node} (hname : canName name.toList)
    (hfresh : names.any (·.1 == name) = false)
    (h : e (ahead props cs (groups + 1) ((name, groups + 1) :: names))
      = some (a, ahead props (')' :: rest) groups' names'))
    : item fuel e (ahead props ('(' :: '?' :: 'P' :: '<' :: (name.toList ++ '>' :: cs)) groups names)
        =
      some (⟨⟨.group (groups + 1) a.value, a.depth + 1⟩, false⟩, ahead props rest groups' names') := by
  have hgroup : groupStart (ahead props ('?' :: 'P' :: '<' :: (name.toList ++ '>' :: cs)) groups names)
      = some (.numbered (groups + 1), ahead props cs (groups + 1) ((name, groups + 1) :: names)) := by
    show (groupName (groups + 1) (ahead props (name.toList ++ '>' :: cs) (groups + 1) names)).bind _ = _
    rw [groupName_of_canName hname hfresh]
    rfl
  show (groupStart _).bind _ = _
  rw [hgroup]
  show (e _).bind _ = _
  rw [h]
  rfl

/-! ### Expressions -/

theorem value_combine {build : List Node → Node} {parts : List (Nested Node)} (h : parts.length ≠ 1)
    : (combine build parts).value = build (parts.map Nested.value) := by
  unfold combine
  split
  . exact absurd rfl h
  . rfl

theorem foldl_depth_le {parts : List (Nested Node)} {start d : Nat} (hstart : start ≤ d)
    (h : ∀ a ∈ parts, a.depth ≤ d) : parts.foldl (fun d a => Nat.max d a.depth) start ≤ d := by
  induction parts generalizing start with
  | nil => exact hstart
  | cons a parts ih =>
    obtain ⟨ha, hparts⟩ := List.forall_mem_cons.mp h
    exact ih (Nat.max_le.mpr ⟨hstart, ha⟩) hparts

theorem depth_combine_le {build : List Node → Node} {parts : List (Nested Node)} {d : Nat}
    (h : ∀ a ∈ parts, a.depth ≤ d) : (combine build parts).depth ≤ d + 1 := by
  unfold combine
  split
  . exact Nat.le_succ_of_le (h _ List.mem_cons_self)
  . show (if parts.isEmpty then 0 else _) ≤ d + 1
    split
    . exact Nat.zero_le _
    . exact Nat.succ_le_succ (foldl_depth_le (Nat.zero_le _) h)

theorem alternatives_of_bar {branch : Reader (Nested Node)} {a : Nested Node} {as : List (Nested Node)}
    (h : branch (ahead props cs groups names) = some (a, ahead props ('|' :: rest) groups' names'))
    : alternatives branch (n + 1) as (ahead props cs groups names)
        =
      alternatives branch n (a :: as) (ahead props rest groups' names') := by
  conv => lhs; unfold alternatives
  show (branch _).bind _ = _
  rw [h]
  rfl

theorem alternatives_of_closes {branch : Reader (Nested Node)} {a : Nested Node} {as : List (Nested Node)}
    (hrest : Closes rest) (h : branch (ahead props cs groups names) = some (a, ahead props rest groups' names'))
    : alternatives branch (n + 1) as (ahead props cs groups names)
        =
      some (combine Node.alternation (a :: as).reverse, ahead props rest groups' names') := by
  show (branch _).bind _ = _
  rw [h]
  cases rest with
  | nil => rfl
  | cons c cs =>
    show (skip? ['|'] (ahead props (c :: cs) groups' names')).bind _ = _
    rw [skip?_of_ne fun hc => hrest.2 (congrArg some hc.symm)]
    rfl

theorem expression_of_sequence {depth : Nat} {a : Nested Node} (hrest : Closes rest)
    (h : sequence (item (fuel + 1) (expression (fuel + 1) depth)) (fuel + 1) [] (ahead props cs groups names)
      = some (a, ahead props rest groups' names'))
    : expression (fuel + 1) (depth + 1) (ahead props cs groups names) = some (a, ahead props rest groups' names') := by
  exact alternatives_of_closes hrest h

end Reader

end Regex

end Triword
