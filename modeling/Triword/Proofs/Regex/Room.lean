import Mathlib.Algebra.Ring.Nat
import Triword.Regex.Size

/-!
A bound on the room that an expression takes as an automaton. It adds up what the parts can take at the
most, without regard to states that are shared, so an expression within the bound fits.
-/

namespace Triword.Regex

namespace Builder

variable {α β : Type} {j k : Nat}

/-- As long as the limit leaves room for `k` bytes, the room is found, and no more than that is taken. -/
def Spends (x : Builder α) (k : Nat) : Prop :=
  ∀ r : Room, r.bytes + k ≤ Room.limit → ∃ a r', x.run r = some (a, r') ∧ r'.bytes ≤ r.bytes + k

namespace Spends

theorem mono {x : Builder α} (h : x.Spends j) (hjk : j ≤ k) : x.Spends k := by
  intro r hr
  obtain ⟨a, r', hrun, hbytes⟩ := h r (by omega)
  exact ⟨a, r', hrun, by omega⟩

theorem pure (a : α) : Spends (Pure.pure a : Builder α) 0 := by
  intro r _
  exact ⟨a, r, rfl, Nat.le_refl _⟩

theorem bind {x : Builder α} {f : α → Builder β} (hx : x.Spends j) (hf : ∀ a, (f a).Spends k)
    : (x >>= f).Spends (j + k) := by
  intro r hr
  obtain ⟨a, r', hrun, hbytes⟩ := hx r (by omega)
  obtain ⟨b, r'', hrun', hbytes'⟩ := hf a r' (by omega)
  refine ⟨b, r'', ?_, by omega⟩
  rw [StateT.run_bind, hrun]
  exact hrun'

theorem map {x : Builder α} (f : α → β) (hx : x.Spends k) : (f <$> x).Spends k := by
  rw [map_eq_pure_bind]
  exact hx.bind fun a => pure (f a)

end Spends

theorem spends_spend (states extra : Nat) : (spend states extra).Spends (32 * states + extra) := by
  intro r hr
  have hbytes : Room.bytes ⟨r.states + states, r.extra + extra⟩ = r.bytes + (32 * states + extra) := by
    unfold Room.bytes
    dsimp only
    omega
  refine ⟨(), ⟨r.states + states, r.extra + extra⟩, ?_, Nat.le_of_eq hbytes⟩
  have hfits : ¬Room.limit < Room.bytes ⟨r.states + states, r.extra + extra⟩ := by omega
  unfold spend
  show (if Room.limit < Room.bytes ⟨r.states + states, r.extra + extra⟩ then
    failure else Pure.pure () : Builder Unit).run _ = _
  rw [if_neg hfits]
  rfl

theorem spends_link (branches : Bool) : (link branches).Spends 4 := by
  unfold link
  split
  . exact spends_spend 0 4
  . exact (Spends.pure ()).mono (Nat.zero_le 4)

theorem Spends.linked {x : Builder Bool} {next : Builder α} (hx : x.Spends j) (hnext : next.Spends k)
    : (do link (← x); next).Spends (j + (4 + k)) :=
  hx.bind fun branches => (spends_link branches).bind fun _ => hnext

/-! ### States that are shared -/

def SpendsShared (x : Sharing α) (k : Nat) : Prop :=
  ∀ t : Table, Spends (x.run t) k

namespace SpendsShared

theorem mono {x : Sharing α} (h : SpendsShared x j) (hjk : j ≤ k) : SpendsShared x k := by
  intro t
  exact (h t).mono hjk

theorem pure (a : α) : SpendsShared (Pure.pure a : Sharing α) 0 := by
  intro t
  exact Spends.pure (a, t)

theorem bind {x : Sharing α} {f : α → Sharing β} (hx : SpendsShared x j) (hf : ∀ a, SpendsShared (f a) k)
    : SpendsShared (x >>= f) (j + k) := by
  intro t
  exact (hx t).bind fun found => hf found.1 found.2

theorem get : SpendsShared (MonadState.get : Sharing Table) 0 := by
  intro t
  exact Spends.pure (t, t)

theorem update (f : Table → Table) : SpendsShared (modify f : Sharing PUnit) 0 := by
  intro t
  exact Spends.pure (PUnit.unit, f t)

theorem getRoom : SpendsShared (getThe Room : Sharing Room) 0 := by
  intro t r _
  exact ⟨(r, t), r, rfl, Nat.le_refl _⟩

theorem lift {x : Builder α} (hx : x.Spends k) : SpendsShared (liftM x : Sharing α) k := by
  intro t
  exact hx.bind fun a => Spends.pure (a, t)

theorem forM {f : α → Sharing PUnit} {g : α → Nat} (h : ∀ a, SpendsShared (f a) (g a)) (l : List α)
    : SpendsShared (l.forM f) (l.map g).sum := by
  induction l with
  | nil => exact pure _
  | cons a l ih => exact (h a).bind fun _ => ih

theorem foldlM {f : β → α → Sharing β} (h : ∀ b a, SpendsShared (f b a) k) (l : List α) (b : β)
    : SpendsShared (l.foldlM f b) (k * l.length) := by
  induction l generalizing b with
  | nil => exact pure b
  | cons a l ih =>
    rw [List.foldlM_cons, List.length_cons, Nat.mul_succ, Nat.add_comm]
    exact (h b a).bind ih

theorem mapM_bind {γ : Type} {f : α → Sharing β} {g : α → Nat} {l : List α} {next : List β → Sharing γ}
    (h : ∀ a, SpendsShared (f a) (g a)) (hnext : ∀ bs, bs.length = l.length → SpendsShared (next bs) k)
    : SpendsShared (l.mapM f >>= next) ((l.map g).sum + k) := by
  induction l generalizing next with
  | nil =>
    rw [List.mapM_nil, pure_bind]
    exact (hnext [] rfl).mono (Nat.le_add_left _ _)
  | cons a l ih =>
    rw [List.mapM_cons, bind_assoc, List.map_cons, List.sum_cons, Nat.add_assoc]
    apply (h a).bind
    intro b
    rw [bind_assoc]
    apply ih
    intro bs hbs
    rw [pure_bind]
    apply hnext
    rw [List.length_cons, List.length_cons, hbs]

end SpendsShared

theorem spendsShared_share (key : List Nat) (extra : Nat) : SpendsShared (share key extra) (32 + extra) := by
  have hnew : ∀ slot, SpendsShared (do
      let number := (← getThe Room).states
      spend 1 extra
      modify fun table => { table with states := table.states.insert slot ⟨key, number⟩ }
      return number) (32 + extra) := by
    intro slot
    apply SpendsShared.mono
    . exact SpendsShared.getRoom.bind fun r => (SpendsShared.lift (spends_spend 1 extra)).bind fun _ =>
        (SpendsShared.update _).bind fun _ => SpendsShared.pure r.states
    . omega
  unfold share
  apply SpendsShared.mono
  . apply SpendsShared.get.bind
    intro t
    apply SpendsShared.get.bind
    intro t'
    cases t'.states[(hash key).toNat % t.slots]? with
    | none => exact hnew _
    | some known =>
      dsimp only
      split
      . exact (SpendsShared.pure known.number).mono (Nat.zero_le _)
      . exact hnew _
  . omega

/-! ### Sets -/

theorem length_byFirst (parts : List Text.ByteRanges)
    : (byFirst parts).length ≤ parts.length
        ∧ ((byFirst parts).map fun way => way.2.length).sum ≤ parts.length := by
  induction parts with
  | nil => exact ⟨Nat.le_refl 0, Nat.le_refl 0⟩
  | cons part parts ih =>
    cases part with
    | nil =>
      show (byFirst parts).length ≤ _ ∧ ((byFirst parts).map fun way => way.2.length).sum ≤ _
      grind
    | cons r rest =>
      unfold byFirst
      split
      . next s rests others h =>
        rw [h] at ih
        split <;> grind
      . grind

theorem sum_map_linear (c d : Nat) (f : α → Nat) (l : List α)
    : (l.map fun a => c + d * f a).sum = c * l.length + d * (l.map f).sum := by
  induction l with
  | nil => simp
  | cons a l ih =>
    simp only [List.map_cons, List.sum_cons, List.length_cons, ih, Nat.mul_succ, Nat.mul_add]
    omega

theorem spendsShared_forwardState (target n : Nat) (parts : List Text.ByteRanges)
    : SpendsShared (forwardState target n parts) (32 + 40 * n * parts.length) := by
  induction n generalizing parts with
  | zero => exact (SpendsShared.pure target).mono (Nat.zero_le _)
  | succ n ih =>
    obtain ⟨hways, hrests⟩ := length_byFirst parts
    have hrest : ∀ way : (Nat × Nat) × List Text.ByteRanges,
        SpendsShared (do return [way.1.1, way.1.2, ← forwardState target n way.2])
          (32 + 40 * n * way.2.length) := by
      intro way
      exact (ih way.2).bind fun _ => SpendsShared.pure _
    have hshare : ∀ ways : List (List Nat), ways.length = (byFirst parts).length →
        SpendsShared (share ways.flatten (8 * ways.length)) (32 + 8 * (byFirst parts).length) := by
      intro ways hlength
      rw [← hlength]
      exact spendsShared_share _ _
    have hsum := sum_map_linear 32 (40 * n) (fun way => way.2.length) (byFirst parts)
    have hmul : 40 * n * ((byFirst parts).map fun way => way.2.length).sum ≤ 40 * n * parts.length :=
      Nat.mul_le_mul_left _ hrests
    have hsucc : 40 * (n + 1) * parts.length = 40 * n * parts.length + 40 * parts.length := by
      rw [Nat.mul_succ, Nat.add_mul]
    unfold forwardState
    split
    . exact (SpendsShared.pure target).mono (Nat.zero_le _)
    . apply (SpendsShared.mapM_bind hrest hshare).mono
      omega

theorem spendsShared_backwardStates (target : Nat) (part : Text.ByteRanges)
    : SpendsShared (backwardStates target part) (4 + 32 * part.length) := by
  unfold backwardStates
  have hstep : ∀ (after : Nat) (r : Nat × Nat), SpendsShared (share [after, r.1, r.2] 0) 32 :=
    fun after r => spendsShared_share _ 0
  have hfold := SpendsShared.foldlM hstep part target
  apply SpendsShared.mono
  . exact (hfold.bind fun _ => SpendsShared.pure _).bind fun _ => SpendsShared.lift (spends_spend 0 4)
  . omega

end Builder

def CharSet.cost (s : CharSet) : Nat :=
  let ranges := s.toRanges
  if s.isAscii then 64 + 8 * ranges.length
  else
    let parts := ranges.flatMap fun range => Text.utf8Ranges range.1 range.2
    64 + (parts.map fun part => 164 + 32 * part.length).sum

namespace Builder

theorem spends_set (backward : Bool) (s : CharSet) : (set backward s).Spends s.cost := by
  unfold set CharSet.cost
  dsimp only
  split
  . exact spends_spend 2 _
  . generalize s.toRanges.flatMap _ = parts
    have hsum := sum_map_linear 164 32 (fun part : Text.ByteRanges => part.length) parts
    have hback := sum_map_linear 4 32 (fun part : Text.ByteRanges => part.length) parts
    have hget : Spends (get : Builder Room) 0 := fun r _ => ⟨r, r, rfl, Nat.le_refl _⟩
    split
    . apply Spends.mono
      . exact hget.bind fun r => (spends_spend 2 0).bind fun _ =>
          (SpendsShared.forM (spendsShared_backwardStates (r.states + 1)) parts _).map _
      . omega
    . apply Spends.mono
      . exact hget.bind fun r => (spends_spend 1 0).bind fun _ =>
          (spendsShared_forwardState r.states 4 parts _).map _
      . omega

/-! ### Repetitions -/

variable {body : Builder Bool}

theorem spends_more (hbody : body.Spends k) (states extra n : Nat) (branches : Bool)
    : (more body states extra n branches).Spends (n * (32 * states + extra + 4 + k)) := by
  induction n generalizing branches with
  | zero => exact (Spends.pure branches).mono (Nat.zero_le _)
  | succ n ih =>
    unfold more
    rw [Nat.succ_mul]
    apply Spends.mono
    . exact (spends_spend states extra).bind fun _ => (spends_link branches).bind fun _ => hbody.bind ih
    . omega

theorem spends_exactly (hbody : body.Spends k) (n : Nat) : (exactly body n).Spends (32 + n * (4 + k)) := by
  unfold exactly
  cases n with
  | zero =>
    apply Spends.mono
    . exact (spends_spend 1 0).bind fun _ => Spends.pure false
    . omega
  | succ n =>
    have hmore : ∀ branches, (more body 0 0 n branches).Spends (n * (4 + k)) := by
      intro branches
      have h := spends_more hbody 0 0 n branches
      rw [Nat.mul_zero, Nat.zero_add] at h
      exact h
    apply Spends.mono
    . exact hbody.bind hmore
    . have hsucc : (n + 1) * (4 + k) = n * (4 + k) + (4 + k) := Nat.succ_mul n (4 + k)
      omega

/-- What a repetition takes at the most if each time takes `k` bytes. -/
def repeatedCost (min : Nat) (max : Option Nat) (k : Nat) : Nat :=
  128 + (Nat.max min (max.getD 0) + 1) * (k + 44)

theorem spends_repeated (hbody : body.Spends k) (min : Nat) (max : Option Nat) (takesUp : Bool)
    : (repeated min max takesUp body).Spends (repeatedCost min max k) := by
  have hexactly := spends_exactly hbody
  have hsmall : ∀ n, n * (4 + k) ≤ n * (k + 44) := fun n => Nat.mul_le_mul_left n (by omega)
  -- The forms are those in which it is built: with a limit, without one, and after a first time.
  unfold repeated repeatedCost
  split
  . next max =>
    have hmax : (Nat.max min max + 1) * (k + 44)
        = min * (k + 44) + (max - min) * (k + 44) + (k + 44) := by
      rw [Nat.succ_mul, ← Nat.add_mul]
      congr 2
      show Max.max min max = _
      omega
    have hmin := hsmall min
    rw [Option.getD_some, hmax]
    split
    . apply Spends.mono
      . exact (spends_spend 1 8).bind fun _ => hbody.linked <|
          (spends_spend 1 0).bind fun _ => Spends.pure false
      . omega
    . split
      . apply (hexactly min).mono
        omega
      . have hmore := spends_more hbody 1 8 (max - min)
        have hmul : (max - min) * (32 * 1 + 8 + 4 + k) = (max - min) * (k + 44) := by
          congr 1
          omega
        rw [hmul] at hmore
        apply Spends.mono
        . exact (hexactly min).bind fun branches => (spends_spend 1 0).bind fun _ =>
            (hmore branches).linked (Spends.pure false)
        . omega
  . have hmax : (Nat.max 0 0 + 1) * (k + 44) = k + 44 := Nat.one_mul _
    rw [Option.getD_none, hmax]
    split
    . apply Spends.mono
      . exact (spends_spend 1 4).bind fun _ => hbody.linked (Spends.pure true)
      . omega
    . apply Spends.mono
      . exact hbody.linked ((spends_spend 3 16).bind fun _ => Spends.pure false)
      . omega
  . next n =>
    have hn := hsmall n
    have hmax : (Nat.max (n + 1) 0 + 1) * (k + 44) = n * (k + 44) + 2 * (k + 44) := by
      rw [← Nat.add_mul]
      congr 1
    rw [Option.getD_none, hmax]
    have hlast : ∀ branches, (do
        link branches
        link (← body)
        spend 1 4
        return true).Spends (k + 44) := by
      intro branches
      apply Spends.mono
      . exact (spends_link branches).bind fun _ => hbody.linked <|
          (spends_spend 1 4).bind fun _ => Spends.pure true
      . omega
    dsimp only
    split
    . apply ((Spends.pure false).bind hlast).mono
      omega
    . apply ((hexactly n).bind hlast).mono
      omega

end Builder

/-! ### Expressions -/

namespace Node

open Builder

mutual

/-- What an expression takes at the most. Alternatives that are all words are not looked into. -/
def cost : Node → Nat
  | empty | look _ => 32
  | literal cs => 32 * (String.ofList cs).utf8ByteSize
  | set s => s.cost
  | rep a min max _ => repeatedCost min max a.cost
  | group _ a => 68 + a.cost
  | cat as => costAll as
  | alt as => if (as.mapM word?).isSome then Room.limit + 1 else costAll as

def costAll : List Node → Nat
  | [] => 0
  | a :: as => a.cost + 72 + costAll as

end

theorem spends_refused {α : Type} (x : Builder α) : x.Spends (Room.limit + 1) := by
  intro r hr
  omega

mutual

theorem spends_build (backward : Bool) (a : Node) : (a.build backward).Spends a.cost := by
  cases a with
  | empty => exact (spends_spend 1 0).bind fun _ => Spends.pure false
  | look l => exact (spends_spend 1 0).bind fun _ => Spends.pure false
  | literal cs => exact (spends_spend _ 0).bind fun _ => Spends.pure false
  | set s => exact (spends_set backward s).bind fun _ => Spends.pure false
  | rep a min max lazy => exact spends_repeated (spends_build backward a) min max a.takesUp
  | group number a =>
    have hbody := spends_build backward a
    cases backward with
    | true => exact hbody.mono (Nat.le_add_left _ _)
    | false =>
      unfold build cost
      apply Spends.mono
      . exact (spends_spend 1 0).bind fun _ => hbody.linked <|
          (spends_spend 1 0).bind fun _ => Spends.pure false
      . omega
  | cat as => exact spends_buildAll backward as
  | alt as =>
    unfold build cost
    cases as.mapM word? with
    | some ws => exact spends_refused _
    | none => exact (spends_buildEach backward 0 as).bind fun _ => Spends.pure false

theorem spends_buildAll (backward : Bool) (as : List Node) : (buildAll backward as).Spends (costAll as) := by
  cases as with
  | nil => exact Spends.pure false
  | cons a as =>
    have ha := spends_build backward a
    cases as with
    | nil => exact ha.mono (by unfold costAll; omega)
    | cons b as =>
      have has := spends_buildAll backward (b :: as)
      unfold buildAll
      rw [costAll]
      split
      . apply Spends.mono
        . exact has.linked ha
        . omega
      . apply Spends.mono
        . exact ha.linked has
        . omega

theorem spends_buildEach (backward : Bool) (before : Nat) (as : List Node)
    : (buildEach backward before as).Spends (costAll as) := by
  cases as with
  | nil => exact Spends.pure ()
  | cons a as =>
    have has := spends_buildEach backward (before + 1) as
    have hstates : (spend (if before = 1 then 2 else 0) 4).Spends 68 := by
      apply (spends_spend _ 4).mono
      split <;> omega
    unfold buildEach costAll
    apply Spends.mono
    . exact (spends_build backward a).linked (hstates.bind fun _ => has)
    . omega

end

theorem spends_buildWhole (backward : Bool) (a : Node) : (a.buildWhole backward).Spends (a.cost + 216) := by
  have hbuild : ∀ (isHeld : Bool) (a' : Node), a'.cost ≤ a.cost + 68 → (do
      if isHeld then spend 1 0 else spend 3 16
      link (← a'.build backward)
      spend 1 0 : Builder Unit).Spends (a.cost + 216) := by
    intro isHeld a' ha'
    have hrest := (spends_build backward a').linked (spends_spend 1 0)
    cases isHeld with
    | true =>
      apply ((spends_spend 1 0).bind fun _ => hrest).mono
      omega
    | false =>
      apply ((spends_spend 3 16).bind fun _ => hrest).mono
      omega
  have hgroup : (group 0 a).cost = 68 + a.cost := rfl
  cases backward with
  | true => exact hbuild a.endsText a (Nat.le_add_right _ _)
  | false => exact hbuild a.startsText (group 0 a) (by omega)

theorem fits_of_cost_le {a : Node} (h : a.cost + 216 ≤ Room.limit) : a.fits := by
  have hempty : Room.bytes ⟨0, 0⟩ + (a.cost + 216) ≤ Room.limit := by
    unfold Room.bytes
    dsimp only
    omega
  have hwhole : ∀ backward, ((a.buildWhole backward).run ⟨0, 0⟩).isSome := by
    intro backward
    obtain ⟨b, r, hrun, -⟩ := spends_buildWhole backward a ⟨0, 0⟩ hempty
    rw [hrun]
    rfl
  unfold fits
  rw [hwhole, hwhole]
  rfl

end Node

end Triword.Regex
