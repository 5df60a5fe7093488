import Mathlib.Data.List.Forall2
import Triword.Proofs.Action

/-!
Two computations side by side. They are alike if both fail with the same error or both give results that
belong together, and so are the computations that go on from them in like ways. For an action on a state the
same is said of what can be seen of the state: an action respects a view of it if states that look alike are
taken to states that look alike.
-/

namespace Triword

namespace Outcome

variable {ε α β : Type}

theorem forall₂_of_mapM_eq_ok {f : α → Except ε β} {l : List α} {results : List β} (h : l.mapM f = .ok results)
    : List.Forall₂ (fun a b => f a = .ok b) l results := by
  induction l generalizing results with
  | nil =>
    cases h
    exact .nil
  | cons a l ih =>
    rw [List.mapM_cons] at h
    obtain ⟨b, hb, h⟩ := bind_eq_ok_iff.mp h
    obtain ⟨tail, htail, h⟩ := bind_eq_ok_iff.mp h
    cases h
    exact .cons hb (ih htail)

/-- Two computations that fail with the same error, or give results that belong together. -/
inductive Alike (R : α → β → Prop) : Except ε α → Except ε β → Prop where
  | error (e : ε) : Alike R (.error e) (.error e)
  | ok {a : α} {b : β} (h : R a b) : Alike R (.ok a) (.ok b)

namespace Alike

variable {γ δ ε' : Type} {R : α → β → Prop} {S : γ → δ → Prop} {x : Except ε α} {y : Except ε β}

theorem bind {f : α → Except ε γ} {g : β → Except ε δ} (h : Alike R x y)
    (hfg : ∀ a b, R a b → Alike S (f a) (g b)) : Alike S (x >>= f) (y >>= g) := by
  cases h with
  | error e => exact .error e
  | ok h => exact hfg _ _ h

theorem mapError (f : ε → ε') (h : Alike R x y) : Alike R (x.mapError f) (y.mapError f) := by
  cases h with
  | error e => exact .error (f e)
  | ok h => exact .ok h

theorem mapM {f : γ → Except ε α} {g : γ → Except ε β} {l : List γ} (h : ∀ c ∈ l, Alike R (f c) (g c))
    : Alike (List.Forall₂ R) (l.mapM f) (l.mapM g) := by
  induction l with
  | nil => exact .ok .nil
  | cons c l ih =>
    obtain ⟨hc, hl⟩ := List.forall_mem_cons.mp h
    rw [List.mapM_cons, List.mapM_cons]
    apply hc.bind
    intro a b hab
    apply (ih hl).bind
    intro as bs hrest
    exact .ok (.cons hab hrest)

end Alike

end Outcome

namespace Action

variable {ε σ τ α β : Type} {f : σ → τ}

def seen (f : σ → τ) (r : EStateM.Result ε σ α) : Except ε α × τ :=
  (outcome r, f (final r))

theorem exists_of_seen_error {e : ε} {s : σ} {r : EStateM.Result ε σ α} (h : seen f (.error e s) = seen f r)
    : ∃ s', r = .error e s' ∧ f s = f s' := by
  cases r with
  | error e' s' =>
    obtain ⟨houtcome, hview⟩ := Prod.ext_iff.mp h
    cases houtcome
    exact ⟨s', rfl, hview⟩
  | ok a s' => cases congrArg Prod.fst h

theorem exists_of_seen_ok {a : α} {s : σ} {r : EStateM.Result ε σ α} (h : seen f (.ok a s) = seen f r)
    : ∃ s', r = .ok a s' ∧ f s = f s' := by
  cases r with
  | error e s' => cases congrArg Prod.fst h
  | ok a' s' =>
    obtain ⟨houtcome, hview⟩ := Prod.ext_iff.mp h
    cases houtcome
    exact ⟨s', rfl, hview⟩

/-- Whatever a view does not show makes no difference to what an action does, as far as the view shows it. -/
def Respects (f : σ → τ) (x : EStateM ε σ α) : Prop :=
  ∀ s s', f s = f s' → seen f (x s) = seen f (x s')

namespace Respects

theorem pure (a : α) : Respects f (pure a : EStateM ε σ α) := by
  intro s s' h
  exact Prod.ext rfl h

theorem modify {g : σ → σ} (hg : ∀ s s', f s = f s' → f (g s) = f (g s'))
    : Respects f (modify g : EStateM ε σ PUnit) := by
  intro s s' h
  exact Prod.ext rfl (hg s s' h)

theorem bind {x : EStateM ε σ α} {k : α → EStateM ε σ β} (hx : Respects f x) (hk : ∀ a, Respects f (k a))
    : Respects f (x >>= k) := by
  intro s s' h
  have hseen := hx s s' h
  cases hs : x s with
  | error e t =>
    rw [hs] at hseen
    obtain ⟨t', hs', hview⟩ := exists_of_seen_error hseen
    rw [bind_of_error hs, bind_of_error hs']
    exact Prod.ext rfl hview
  | ok a t =>
    rw [hs] at hseen
    obtain ⟨t', hs', hview⟩ := exists_of_seen_ok hseen
    rw [bind_of_ok hs, bind_of_ok hs']
    exact hk a t t' hview

theorem get_bind {k : σ → EStateM ε σ β} (hk : ∀ s, Respects f (k s)) (hf : ∀ s s', f s = f s' → k s = k s')
    : Respects f (get >>= k) := by
  intro s s' h
  rw [get_bind_apply, get_bind_apply, ← hf s s' h]
  exact hk s s s' h

theorem forM {k : α → EStateM ε σ PUnit} (l : List α) (hk : ∀ a, Respects f (k a)) : Respects f (l.forM k) := by
  induction l with
  | nil => exact Respects.pure PUnit.unit
  | cons a l ih =>
    rw [forM_cons]
    exact (hk a).bind fun _ => ih

end Respects

end Action

end Triword
