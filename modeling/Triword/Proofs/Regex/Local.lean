import Mathlib.Data.List.TakeWhile
import Triword.Proofs.Regex.Reader
import Triword.Proofs.Text.Occurrence

/-!
Reading a text behind which a parenthesis or a bar comes. What is read of it is what is read of the text alone: no
part of an expression but a set in brackets, which has its own end, takes in such characters if they are not escaped.
-/

namespace Triword.Regex.Reader

def breaks : List Char :=
  ['(', ')', '|']

def AtBreak (cs : List Char) : Prop :=
  ∃ c rest, cs = c :: rest ∧ c ∈ breaks

/-- Characters of this kind do not reach over breaks. -/
def Stops (p : Char → Bool) : Prop :=
  ∀ c ∈ breaks, p c = false

instance (p : Char → Bool) : Decidable (Stops p) :=
  decidable_of_iff (breaks.all fun c => !p c) (by simp [Stops])

/--
What one reader finds in a text, another one finds where `behind` comes after the text, if it finds anything. No
groups begin on the way.
-/
def Local {α : Type} (behind : List Char) (r r' : Reader α) : Prop :=
  ∀ ⦃props cs groups names a s⦄, r (ahead props cs groups names) = some (a, s) →
    ∃ rest, rest <:+ cs ∧ s = ahead props rest groups names
      ∧ ∀ ⦃groups' names' x⦄, r' (ahead props (cs ++ behind) groups' names') = some x →
        x = (a, ahead props (rest ++ behind) groups' names')

/-- Nor do groups begin on the way of readers which may, unlike local ones, go back as far as to `all`. -/
def Returning {α : Type} (behind all : List Char) (r r' : Reader α) : Prop :=
  ∀ ⦃props cs groups names a s⦄, cs <:+ all → r (ahead props cs groups names) = some (a, s) →
    ∃ rest, rest <:+ all ∧ s = ahead props rest groups names
      ∧ ∀ ⦃groups' names' x⦄, r' (ahead props (cs ++ behind) groups' names') = some x →
        x = (a, ahead props (rest ++ behind) groups' names')

variable {α β : Type} {props : Properties} {behind all cs : List Char} {r r' : Reader α} {p : Char → Bool}

theorem AtBreak.not_of_stops (hbehind : AtBreak behind) (hp : Stops p) : ∀ c ∈ behind.head?, p c = false := by
  obtain ⟨c, rest, rfl, hc⟩ := hbehind
  simpa using hp c hc

theorem AtBreak.takeWhile_append (hbehind : AtBreak behind) (hp : Stops p) (cs : List Char)
    : (cs ++ behind).takeWhile p = cs.takeWhile p := by
  induction cs with
  | nil =>
    obtain ⟨c, rest, rfl, hc⟩ := hbehind
    have hstop := AtBreak.not_of_stops ⟨c, rest, rfl, hc⟩ hp c rfl
    simp [hstop]
  | cons c cs ih => simp only [List.cons_append, List.takeWhile_cons, ih]

theorem AtBreak.dropWhile_append (hbehind : AtBreak behind) (hp : Stops p) (cs : List Char)
    : (cs ++ behind).dropWhile p = cs.dropWhile p ++ behind := by
  induction cs with
  | nil =>
    obtain ⟨c, rest, rfl, hc⟩ := hbehind
    have hstop := AtBreak.not_of_stops ⟨c, rest, rfl, hc⟩ hp c rfl
    simp [hstop]
  | cons c cs ih =>
    simp only [List.cons_append, List.dropWhile_cons, ih]
    split
    . rfl
    . rfl

/-! ### Putting readers together -/

theorem Local.pure (a : α) : Local behind (pure a) (pure a) := by
  intro props cs groups names b s h
  cases h
  refine ⟨cs, List.suffix_rfl, rfl, ?_⟩
  intro groups' names' x hx
  exact (Option.some.inj hx).symm

theorem Local.failure : Local behind (failure : Reader α) r' := by
  intro props cs groups names a s h
  cases h

theorem Local.bind {k k' : α → Reader β} (hr : Local behind r r') (hk : ∀ a, Local behind (k a) (k' a))
    : Local behind (r >>= k) (r' >>= k') := by
  intro props cs groups names b s h
  obtain ⟨⟨a, s₁⟩, hfirst, hrest⟩ := Option.bind_eq_some_iff.mp h
  obtain ⟨cs₁, hsuffix₁, rfl, hwithin₁⟩ := hr hfirst
  obtain ⟨cs₂, hsuffix₂, rfl, hwithin₂⟩ := hk a hrest
  refine ⟨cs₂, hsuffix₂.trans hsuffix₁, rfl, ?_⟩
  intro groups' names' x hx
  obtain ⟨⟨a', s₁'⟩, hfirst', hrest'⟩ := Option.bind_eq_some_iff.mp hx
  cases hwithin₁ hfirst'
  exact hwithin₂ hrest'

theorem Local.map (f : α → β) (hr : Local behind r r') : Local behind (f <$> r) (f <$> r') := by
  have hmap : ∀ r : Reader α, f <$> r = r >>= fun a => Pure.pure (f a) := fun _ => rfl
  rw [hmap, hmap]
  exact hr.bind fun a => .pure (f a)

theorem exists_of_bind {k : α → Reader β} {s : State} {x : β × State} (h : (r >>= k) s = some x)
    : ∃ a s₁, r s = some (a, s₁) ∧ k a s₁ = some x := by
  obtain ⟨⟨a, s₁⟩, hfirst, hrest⟩ := Option.bind_eq_some_iff.mp h
  exact ⟨a, s₁, hfirst, hrest⟩

theorem Local.returning (hr : Local behind r r') : Returning behind all r r' := by
  intro props cs groups names a s hall h
  obtain ⟨rest, hsuffix, hs, hwithin⟩ := hr h
  exact ⟨rest, hsuffix.trans hall, hs, hwithin⟩

section Found

variable {ds : List Char} {q : Reader α} {groups : Nat} {names : List (String × Nat)} {a : α} {s : State}

theorem Returning.found (hr : Returning behind all r r') (h : r (ahead props ds groups names) = some (a, s))
    (hsuffix : ds <:+ all)
    (hq : ∀ groups' names', q (ahead props (cs ++ behind) groups' names')
      = r' (ahead props (ds ++ behind) groups' names'))
    : ∃ rest, rest <:+ all ∧ s = ahead props rest groups names
        ∧ ∀ ⦃groups' names' x⦄, q (ahead props (cs ++ behind) groups' names') = some x →
          x = (a, ahead props (rest ++ behind) groups' names') := by
  obtain ⟨rest, hrest, hs, hwithin⟩ := hr hsuffix h
  refine ⟨rest, hrest, hs, ?_⟩
  intro groups' names' x hx
  rw [hq] at hx
  exact hwithin hx

theorem Local.found (hr : Local behind r r') (h : r (ahead props ds groups names) = some (a, s)) (hsuffix : ds <:+ all)
    (hq : ∀ groups' names', q (ahead props (cs ++ behind) groups' names')
      = r' (ahead props (ds ++ behind) groups' names'))
    : ∃ rest, rest <:+ all ∧ s = ahead props rest groups names
        ∧ ∀ ⦃groups' names' x⦄, q (ahead props (cs ++ behind) groups' names') = some x →
          x = (a, ahead props (rest ++ behind) groups' names') :=
  hr.returning.found h hsuffix hq

end Found

theorem local_of_rest {k k' : List Char → Reader α}
    (h : ∀ ⦃props cs groups names a s⦄, k cs (ahead props cs groups names) = some (a, s) →
      ∃ rest, rest <:+ cs ∧ s = ahead props rest groups names
        ∧ ∀ ⦃groups' names' x⦄, k' (cs ++ behind) (ahead props (cs ++ behind) groups' names') = some x →
          x = (a, ahead props (rest ++ behind) groups' names'))
    : Local behind (rest >>= k) (rest >>= k') := by
  intro props cs groups names a s hrun
  exact h hrun

theorem local_of_returning {k k' : List Char → Reader α} (h : ∀ all, Returning behind all (k all) (k' (all ++ behind)))
    : Local behind (rest >>= k) (rest >>= k') := by
  apply local_of_rest
  intro props cs groups names a s hrun
  exact h cs List.suffix_rfl hrun

theorem Returning.bind {k k' : α → Reader β} (hr : Local behind r r') (hk : ∀ a, Returning behind all (k a) (k' a))
    : Returning behind all (r >>= k) (r' >>= k') := by
  intro props cs groups names b s hall h
  obtain ⟨a, s₁, hfirst, hrest⟩ := exists_of_bind h
  obtain ⟨cs₁, hsuffix₁, rfl, hwithin₁⟩ := hr hfirst
  obtain ⟨cs₂, hsuffix₂, rfl, hwithin₂⟩ := hk a (hsuffix₁.trans hall) hrest
  refine ⟨cs₂, hsuffix₂, rfl, ?_⟩
  intro groups' names' x hx
  obtain ⟨a', s₁', hfirst', hrest'⟩ := exists_of_bind hx
  cases hwithin₁ hfirst'
  exact hwithin₂ hrest'

theorem returning_setRest (a : α)
    : Returning behind all (setRest all >>= fun _ => pure a) (setRest (all ++ behind) >>= fun _ => pure a) := by
  intro props cs groups names b s _ h
  exact (Local.pure a).found h List.suffix_rfl fun _ _ => rfl

theorem local_flags : Local behind flags flags := by
  intro props cs groups names f s h
  exact (Local.pure caseless).found h List.suffix_rfl fun _ _ => rfl

/-! ### Characters -/

theorem local_next : Local behind next next := by
  apply local_of_rest
  intro props cs groups names c s h
  cases cs with
  | nil => cases h
  | cons d cs =>
    exact (Local.pure d).found h (List.suffix_cons d cs) fun _ _ => rfl

theorem local_expect (c : Char) : Local behind (expect c) (expect c) := by
  apply local_next.bind
  intro d
  split
  . exact .failure
  . exact .pure ()

theorem skipSpace_bind (k : Unit → Reader α) (cs : List Char) (groups : Nat) (names : List (String × Nat))
    : (skipSpace >>= k) (ahead props cs groups names) = k () (ahead props cs groups names) := rfl

theorem local_skipSpace : Local behind skipSpace skipSpace := by
  intro props cs groups names a s h
  exact (Local.pure ()).found h List.suffix_rfl fun _ _ => rfl

theorem exists_skip? (needle cs : List Char) (groups : Nat) (names : List (String × Nat))
    : ∃ found rest, skip? needle (ahead props cs groups names) = some (found, ahead props rest groups names) := by
  show ∃ found rest, (if needle.isPrefixOf cs then _ else _ : Reader Bool) _ = _
  split
  . exact ⟨true, cs.drop needle.length, rfl⟩
  . exact ⟨false, cs, rfl⟩

theorem local_skip? (hbehind : AtBreak behind) {needle : List Char} (hneedle : Stops needle.contains)
    : Local behind (skip? needle) (skip? needle) := by
  apply local_of_rest
  intro props cs groups names b s h
  by_cases hbegins : needle <+: cs
  . have hlonger : needle <+: cs ++ behind := hbegins.trans (List.prefix_append cs behind)
    rw [if_pos (List.isPrefixOf_iff_prefix.mpr hbegins)] at h
    rw [if_pos (List.isPrefixOf_iff_prefix.mpr hlonger), List.drop_append_of_le_length hbegins.length_le]
    exact (Local.pure true).found h (List.drop_suffix _ cs) fun _ _ => rfl
  . have hlonger : ¬needle <+: cs ++ behind := by
      obtain ⟨c, rest, rfl, hc⟩ := hbehind
      exact Text.not_prefix_append_cons hbegins (by simpa using hneedle c hc) rest
    rw [if_neg fun hp => hbegins (List.isPrefixOf_iff_prefix.mp hp)] at h
    rw [if_neg fun hp => hlonger (List.isPrefixOf_iff_prefix.mp hp)]
    exact (Local.pure false).found h List.suffix_rfl fun _ _ => rfl

theorem local_spaced? (hbehind : AtBreak behind) (hp : Stops p) : Local behind (spaced? p) (spaced? p) := by
  apply local_of_rest
  intro props cs groups names found s h
  cases cs with
  | nil =>
    obtain ⟨c, rest, rfl, hc⟩ := hbehind
    have hstop : p c = false := AtBreak.not_of_stops ⟨c, rest, rfl, hc⟩ hp c rfl
    dsimp only [List.nil_append]
    rw [hstop]
    exact (Local.pure none).found h List.suffix_rfl fun _ _ => rfl
  | cons c cs =>
    dsimp only [List.cons_append] at h ⊢
    by_cases hc : p c
    . rw [if_pos hc] at h ⊢
      exact (Local.pure (some c)).found h (List.suffix_cons c cs) fun _ _ => rfl
    . rw [if_neg hc] at h ⊢
      exact (Local.pure none).found h List.suffix_rfl fun _ _ => rfl

theorem local_spacedUpTo (hbehind : AtBreak behind) (hp : Stops p) (n : Nat)
    : Local behind (spacedUpTo p n) (spacedUpTo p n) := by
  induction n with
  | zero => exact .pure []
  | succ n ih =>
    apply (local_spaced? hbehind hp).bind
    intro found
    cases found with
    | none => exact .pure []
    | some c => exact ih.bind fun cs => .pure (c :: cs)

theorem spanSpaced_eq (p : Char → Bool) (cs : List Char)
    : spanSpaced p false false cs = (cs.takeWhile p, cs.dropWhile p) := by
  induction cs with
  | nil => rfl
  | cons c cs ih =>
    rw [spanSpaced, List.takeWhile_cons, List.dropWhile_cons, ih]
    split
    . rfl
    . simp

theorem spacedWhile_eq (p : Char → Bool) (cs : List Char) (groups : Nat) (names : List (String × Nat))
    : spacedWhile p (ahead props cs groups names)
        =
      some (cs.takeWhile p, ahead props (cs.dropWhile p) groups names) := by
  have hspan : spacedWhile p (ahead props cs groups names)
      = some ((spanSpaced p false false cs).1, ahead props (spanSpaced p false false cs).2 groups names) := rfl
  rw [hspan, spanSpaced_eq]

theorem local_spacedWhile (hbehind : AtBreak behind) (hp : Stops p)
    : Local behind (spacedWhile p) (spacedWhile p) := by
  intro props cs groups names found s h
  rw [spacedWhile_eq] at h
  apply (Local.pure (cs.takeWhile p)).found h (List.dropWhile_suffix p)
  intro groups' names'
  rw [spacedWhile_eq, hbehind.takeWhile_append hp, hbehind.dropWhile_append hp]
  rfl

theorem stops_isBlank : Stops Text.isBlank := by
  decide

theorem local_skipBlanks (hbehind : AtBreak behind) : Local behind skipBlanks skipBlanks := by
  apply local_of_rest
  intro props cs groups names a s h
  rw [hbehind.dropWhile_append stops_isBlank]
  exact (Local.pure ()).found h (List.dropWhile_suffix _) fun _ _ => rfl

/-! ### Numbers -/

theorem local_decimal (hbehind : AtBreak behind) : Local behind decimal decimal := by
  apply (local_skipBlanks hbehind).bind
  intro _
  apply (local_spacedWhile hbehind (by decide)).bind
  intro digits
  apply (local_skipBlanks hbehind).bind
  intro _
  dsimp only
  split
  . exact .failure
  . exact .pure _

theorem local_charOfHex (digits : List Char) : Local behind (charOfHex digits) (charOfHex digits) := by
  unfold charOfHex
  dsimp only
  split
  . exact .failure
  . split
    . exact .pure _
    . exact .failure

theorem local_hexEscape (hbehind : AtBreak behind) (width : Nat) (bare : Char → Bool)
    : Local behind (hexEscape width bare) (hexEscape width bare) := by
  apply local_skipSpace.bind
  intro _
  apply (local_spaced? hbehind (by decide)).bind
  intro found
  cases found with
  | some _ =>
    apply (local_spacedWhile hbehind (by decide)).bind
    intro digits
    apply (local_expect _).bind
    intro _
    exact local_skipSpace.bind fun _ => local_charOfHex digits
  | none =>
    apply (local_spacedUpTo hbehind (by decide) width).bind
    intro digits
    apply (local_charOfHex digits).bind
    intro c
    split
    . exact .pure c
    . exact .failure

/-! ### Sets and escapes -/

theorem local_inCase (set : CharSet) : Local behind (inCase set) (inCase set) := by
  exact local_flags.bind fun f => .pure _

theorem local_negated (set : CharSet) : Local behind (negated set) (negated set) := by
  apply local_flags.bind
  intro f
  split
  . exact .failure
  . exact .pure _

theorem local_known (set : CharSet) : Local behind (known set) (known set) := by
  exact local_flags.bind fun f => .pure _

theorem local_word (edge : WordEdge) : Local behind (word edge) (word edge) := by
  exact local_flags.bind fun f => .pure _

def namedEdge (name : List Char) : Reader WordEdge := do
  expect '\x7d'
  match boundary.names.lookup (String.ofList name) with
  | some edge => return edge
  | none => Alternative.failure

/-- Where no name comes in braces, the reader goes back to where it has begun. -/
theorem local_boundary (hbehind : AtBreak behind) : Local behind boundary boundary := by
  have hend : ∀ name, Local behind (namedEdge name) (namedEdge name) := by
    intro name
    apply (local_expect _).bind
    intro _
    cases boundary.names.lookup (String.ofList name) with
    | some edge => exact .pure edge
    | none => exact .failure
  apply local_of_returning
  intro all
  apply Returning.bind (local_spaced? hbehind (by decide))
  intro brace
  cases brace with
  | none => exact (Local.pure _).returning
  | some d =>
    apply Returning.bind (local_spacedWhile hbehind (by decide))
    intro name
    split
    . exact returning_setRest _
    . exact (hend name).returning

def bracedName : Reader Property := do
  let f ← flags
  let isSpace (c : Char) : Bool := f.verbose && (Text.isBlank c || c == '#')
  let name ← spacedWhile fun c => c != '\x7d' && !isSpace c
  expect '\x7d'
  return .ofText name

theorem dropWhile_ne_append_cons {d : Char} {before : List Char} (h : d ∉ before) (cs : List Char)
    : (before ++ d :: cs).dropWhile (· ≠ d) = d :: cs := by
  rw [List.dropWhile_append_of_pos]
  . simp
  . intro c hc
    simpa using fun heq : c = d => h (heq ▸ hc)

theorem spacedWhile_bind (p : Char → Bool) (k : List Char → Reader α) (cs : List Char) (groups : Nat)
    (names : List (String × Nat))
    : (spacedWhile p >>= k) (ahead props cs groups names)
        =
      k (cs.takeWhile p) (ahead props (cs.dropWhile p) groups names) :=
  congrArg (·.bind fun found => k found.1 found.2) (spacedWhile_eq p cs groups names)

theorem bracedName_eq (cs : List Char) (groups : Nat) (names : List (String × Nat))
    : bracedName (ahead props cs groups names)
        =
      (expect '\x7d' >>= fun _ => pure (.ofText (cs.takeWhile (· ≠ '\x7d'))) : Reader Property)
        (ahead props (cs.dropWhile (· ≠ '\x7d')) groups names) := by
  have hplain : (fun c : Char => c != '\x7d' && !(caseless.verbose && (Text.isBlank c || c == '#')))
      = fun c => decide (c ≠ '\x7d') := by
    funext c
    rw [decide_not]
    exact Bool.and_true _
  unfold bracedName
  rw [flags_bind]
  dsimp only
  rw [hplain, spacedWhile_bind]

/-- A name that has an end is the same in a context, though breaks do not end it. -/
theorem local_bracedName : Local behind bracedName bracedName := by
  intro props cs groups names name s h
  rw [bracedName_eq] at h
  by_cases hclose : '\x7d' ∈ cs
  . obtain ⟨before, ds, rfl, hbefore⟩ := List.eq_append_cons_of_mem hclose
    rw [takeWhile_ne_append_cons hbefore, dropWhile_ne_append_cons hbefore] at h
    apply ((local_expect '\x7d').bind fun _ => .pure (Property.ofText before)).found h (List.suffix_append before _)
    intro groups' names'
    rw [List.append_assoc, bracedName_eq, List.cons_append, takeWhile_ne_append_cons hbefore,
      dropWhile_ne_append_cons hbefore]
  . have hall : cs.dropWhile (· ≠ '\x7d') = [] := by
      rw [List.dropWhile_eq_nil_iff]
      intro c hc
      simpa using fun heq : c = '\x7d' => hclose (heq ▸ hc)
    rw [hall] at h
    cases h

theorem local_propertyName : Local behind propertyName propertyName := by
  apply local_skipSpace.bind
  intro _
  apply local_next.bind
  intro c
  split
  . exact local_bracedName
  . exact .failure
  . exact .pure _

theorem local_properties : Local behind properties properties := by
  intro props cs groups names found s h
  exact (Local.pure props).found h List.suffix_rfl fun _ _ => rfl

theorem local_property : Local behind property property := by
  apply local_propertyName.bind
  intro name
  apply local_flags.bind
  intro f
  dsimp only
  split
  . exact .failure
  . apply local_properties.bind
    intro props
    cases props name with
    | some set => exact local_inCase set
    | none => exact .failure

theorem local_escape (hbehind : AtBreak behind) : Local behind escape escape := by
  have hset : ∀ {r : Reader CharSet}, Local behind r r →
      Local behind (r >>= fun s => Pure.pure (Escape.set s)) (r >>= fun s => Pure.pure (Escape.set s)) :=
    fun hr => hr.bind fun s => .pure _
  have hliteral : ∀ {r : Reader Char}, Local behind r r →
      Local behind (r >>= fun c => Pure.pure (Escape.literal c)) (r >>= fun c => Pure.pure (Escape.literal c)) :=
    fun hr => hr.bind fun c => .pure _
  apply local_next.bind
  intro c
  split
  . exact hset (local_known _)
  . exact hset (local_negated _)
  . exact hset (local_known _)
  . exact hset (local_negated _)
  . exact hset (local_known _)
  . exact hset (local_negated _)
  . exact hset local_property
  . exact local_property.bind fun set => hset (local_negated set)
  . exact local_flags.bind fun f => hliteral (local_hexEscape hbehind ..)
  . exact hliteral (local_hexEscape hbehind ..)
  . exact hliteral (local_hexEscape hbehind ..)
  iterate 8
    . exact .pure _
  . exact (local_boundary hbehind).bind fun edge => local_word edge
  iterate 3
    . exact local_word _
  . split
    . exact .pure _
    . exact .failure

/-! ### Repetitions -/

theorem local_marked (hbehind : AtBreak behind) (min : Nat) (max : Option Nat)
    : Local behind (marked min max) (marked min max) := by
  apply (local_skip? hbehind (by decide)).bind
  intro isMarked
  exact local_flags.bind fun f => .pure _

def boundsEnd (min : Nat) (max : Option Nat) : Reader Bounds := do
  expect '\x7d'
  skipSpace
  if max.any (· < min) then failure
  marked min max

theorem local_boundsEnd (hbehind : AtBreak behind) (min : Nat) (max : Option Nat)
    : Local behind (boundsEnd min max) (boundsEnd min max) := by
  apply (local_expect _).bind
  intro _
  apply local_skipSpace.bind
  intro _
  dsimp only
  split
  . exact Local.failure.bind fun _ => local_marked hbehind min max
  . exact local_marked hbehind min max

theorem local_countedBounds (hbehind : AtBreak behind) : Local behind countedBounds countedBounds := by
  apply local_skipSpace.bind
  intro _
  apply (local_decimal hbehind).bind
  intro min
  apply (local_spaced? hbehind (by decide)).bind
  intro comma
  cases comma with
  | none => exact (Local.pure (some min)).bind (local_boundsEnd hbehind min)
  | some c =>
    have hnumber := (local_decimal hbehind).bind fun max =>
      (Local.pure (some max)).bind (local_boundsEnd hbehind min)
    apply local_of_rest
    intro props cs groups names bounds s h
    by_cases hend : cs.head? = some '\x7d'
    . have hlonger : (cs ++ behind).head? = some '\x7d' := by
        rw [List.head?_append, hend]
        rfl
      rw [if_pos hend] at h
      rw [if_pos hlonger]
      exact (Local.pure none).bind (local_boundsEnd hbehind min) h
    . have hlonger : (cs ++ behind).head? ≠ some '\x7d' := by
        rw [List.head?_append]
        cases hcs : cs.head? with
        | none =>
          obtain ⟨c, rest, rfl, hc⟩ := hbehind
          rintro ⟨⟩
          exact absurd hc (by decide)
        | some d => rwa [hcs] at hend
      rw [if_neg hend] at h
      rw [if_neg hlonger]
      exact hnumber h

theorem local_bounds? (hbehind : AtBreak behind) : Local behind bounds? bounds? := by
  have hsome : ∀ {min : Nat} {max : Option Nat}, Local behind
      (marked min max >>= fun b => Pure.pure (some b)) (marked min max >>= fun b => Pure.pure (some b)) :=
    fun {min max} => (local_marked hbehind min max).bind fun b => .pure _
  have hcounted : Local behind
      (countedBounds >>= fun b => Pure.pure (some b)) (countedBounds >>= fun b => Pure.pure (some b)) :=
    (local_countedBounds hbehind).bind fun b => .pure _
  apply local_of_rest
  intro props cs groups names found s h
  split at h
  iterate 3
    . exact hsome.found h (List.suffix_cons _ _) fun _ _ => rfl
  . exact hcounted.found h (List.suffix_cons _ _) fun _ _ => rfl
  . next hstar hplus hquestion hbrace =>
    -- The break behind the text is no sign of a repetition either.
    have hhead : ∀ c ∈ (cs ++ behind).head?, c ∉ ['*', '+', '?', '\x7b'] := by
      intro c hc hsign
      simp only [List.mem_cons, List.not_mem_nil, or_false] at hsign
      cases cs with
      | nil =>
        obtain ⟨d, rest, rfl, hd⟩ := hbehind
        cases hc
        obtain rfl | rfl | rfl | rfl := hsign
        all_goals exact absurd hd (by decide)
      | cons d cs =>
        cases hc
        obtain rfl | rfl | rfl | rfl := hsign
        . exact hstar cs rfl
        . exact hplus cs rfl
        . exact hquestion cs rfl
        . exact hbrace cs rfl
    exact (Local.pure none).found h List.suffix_rfl fun _ _ => bounds?_of_head hhead

/-! ### Items -/

theorem local_literal (c : Char) : Local behind (literal c) (literal c) := by
  exact (local_inCase _).bind fun set => .pure _

theorem local_dot : Local behind dot dot := by
  exact local_flags.bind fun f => (local_negated _).bind fun set => .pure _

theorem local_simpleItem (hbehind : AtBreak behind) : Local behind simpleItem simpleItem := by
  apply local_flags.bind
  intro f
  apply local_next.bind
  intro c
  split
  . apply (local_escape hbehind).bind
    intro found
    cases found with
    | literal d => exact local_literal d
    | set s => exact .pure _
    | look l => exact .pure _
  . exact local_dot
  . exact .pure _
  . exact .pure _
  . exact local_literal c

end Triword.Regex.Reader
