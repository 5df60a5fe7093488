/-!
Computations that can fail, one step at a time: what a sequence does when its first part succeeds and
when it fails, for those that give a result only and for those that keep what they have changed, and
loops that never fail.
-/

namespace Triword

namespace Outcome

variable {ε α β : Type}

instance decidableEq [DecidableEq ε] [DecidableEq α] : DecidableEq (Except ε α)
  | .ok a, .ok b => decidable_of_iff (a = b) (by simp)
  | .error e, .error f => decidable_of_iff (e = f) (by simp)
  | .ok _, .error _ | .error _, .ok _ => isFalse (by simp)

theorem bind_eq_ok_iff {x : Except ε α} {f : α → Except ε β} {b : β}
    : (x >>= f) = .ok b ↔ ∃ a, x = .ok a ∧ f a = .ok b := by
  cases x <;> simp [bind, Except.bind]

theorem bind_eq_error_iff {x : Except ε α} {f : α → Except ε β} {e : ε}
    : (x >>= f) = .error e ↔ x = .error e ∨ ∃ a, x = .ok a ∧ f a = .error e := by
  cases x <;> simp [bind, Except.bind]

theorem exists_of_mapM_eq_error {f : α → Except ε β} {l : List α} {e : ε} (h : l.mapM f = .error e)
    : ∃ a ∈ l, f a = .error e := by
  induction l with
  | nil => cases h
  | cons a l ih =>
    rw [List.mapM_cons] at h
    obtain ha | ⟨b, -, h⟩ := bind_eq_error_iff.mp h
    . exact ⟨a, List.mem_cons_self, ha⟩
    . obtain hrest | ⟨bs, -, h⟩ := bind_eq_error_iff.mp h
      . obtain ⟨c, hc, hf⟩ := ih hrest
        exact ⟨c, List.mem_cons_of_mem a hc, hf⟩
      . cases h

theorem exists_of_mapM_eq_ok {f : α → Except ε β} {l : List α} {results : List β}
    (h : l.mapM f = .ok results) : ∀ b ∈ results, ∃ a ∈ l, f a = .ok b := by
  induction l generalizing results with
  | nil => cases h; simp
  | cons a l ih =>
    rw [List.mapM_cons] at h
    obtain ⟨b, hb, h⟩ := bind_eq_ok_iff.mp h
    obtain ⟨tail, htail, h⟩ := bind_eq_ok_iff.mp h
    cases h
    intro c hc
    cases hc with
    | head => exact ⟨a, List.mem_cons_self, hb⟩
    | tail _ hc =>
      obtain ⟨x, hx, hf⟩ := ih htail c hc
      exact ⟨x, List.mem_cons_of_mem a hx, hf⟩

theorem getElem?_of_mapM_eq_ok {f : α → Except ε β} {l : List α} {results : List β}
    (h : l.mapM f = .ok results) {j : Nat} {a : α} (ha : l[j]? = some a)
    : ∃ b, f a = .ok b ∧ results[j]? = some b := by
  induction l generalizing results j with
  | nil => cases ha
  | cons x l ih =>
    rw [List.mapM_cons] at h
    obtain ⟨b, hb, h⟩ := bind_eq_ok_iff.mp h
    obtain ⟨tail, htail, h⟩ := bind_eq_ok_iff.mp h
    cases h
    cases j with
    | zero =>
      cases ha
      exact ⟨b, hb, rfl⟩
    | succ j => exact ih htail ha

theorem mapM_congr {f g : α → Except ε β} {l : List α} (h : ∀ a ∈ l, f a = g a)
    : l.mapM f = l.mapM g := by
  induction l with
  | nil => rfl
  | cons a l ih =>
    rw [List.mapM_cons, List.mapM_cons]
    rw [h a List.mem_cons_self]
    rw [ih fun b hb => h b (List.mem_cons_of_mem a hb)]

theorem mapM_eq_ok_map {f : α → Except ε β} {g : α → β} {l : List α} (h : ∀ a ∈ l, f a = .ok (g a))
    : l.mapM f = .ok (l.map g) := by
  induction l with
  | nil => rfl
  | cons a l ih =>
    rw [List.mapM_cons, h a List.mem_cons_self, ih fun b hb => h b (List.mem_cons_of_mem a hb)]
    rfl

theorem map_eq_of_mapM_eq_ok {γ : Type} {f : α → Except ε β} {g : β → γ} {k : α → γ} {l : List α}
    {results : List β} (h : l.mapM f = .ok results) (hg : ∀ a ∈ l, ∀ b, f a = .ok b → g b = k a)
    : results.map g = l.map k := by
  induction l generalizing results with
  | nil =>
    cases h
    rfl
  | cons a l ih =>
    rw [List.mapM_cons] at h
    obtain ⟨b, hb, h⟩ := bind_eq_ok_iff.mp h
    obtain ⟨tail, htail, h⟩ := bind_eq_ok_iff.mp h
    cases h
    rw [List.map_cons, List.map_cons, hg a List.mem_cons_self b hb]
    rw [ih htail fun c hc => hg c (List.mem_cons_of_mem a hc)]

theorem mapM_map (f : α → Except ε β) (g : β → β) (l : List α)
    : l.mapM (fun a => (f a).map g) = (l.mapM f).map (List.map g) := by
  induction l with
  | nil => rfl
  | cons a l ih =>
    rw [List.mapM_cons, List.mapM_cons, ih]
    cases f a with
    | error e => rfl
    | ok b => cases l.mapM f <;> rfl

theorem mapError_mapError {δ ζ : Type} (x : Except ε α) (f : ε → δ) (g : δ → ζ)
    : (x.mapError f).mapError g = x.mapError fun e => g (f e) := by
  cases x with
  | error e => rfl
  | ok a => rfl

theorem mapError_bind (x : Except ε α) (f : α → Except ε β) (g : ε → ε)
    : (x >>= f).mapError g = x.mapError g >>= fun a => (f a).mapError g := by
  cases x with
  | error e => rfl
  | ok a => rfl

theorem mapM_mapError (f : α → Except ε β) (g : ε → ε) (l : List α)
    : l.mapM (fun a => (f a).mapError g) = (l.mapM f).mapError g := by
  induction l with
  | nil => rfl
  | cons a l ih =>
    simp only [List.mapM_cons, ih, mapError_bind]
    rfl

end Outcome

namespace Action

variable {ε σ α β : Type}

def final : EStateM.Result ε σ α → σ
  | .ok _ s => s
  | .error _ s => s

def outcome : EStateM.Result ε σ α → Except ε α
  | .ok a _ => .ok a
  | .error e _ => .error e

theorem eq_ok_of_outcome {r : EStateM.Result ε σ α} {a : α} (h : outcome r = .ok a)
    : r = .ok a (final r) := by
  cases r with
  | ok a' s => cases h; rfl
  | error e s => cases h

theorem eq_error_of_outcome {r : EStateM.Result ε σ α} {e : ε} (h : outcome r = .error e)
    : r = .error e (final r) := by
  cases r with
  | ok a s => cases h
  | error e' s => cases h; rfl

theorem bind_of_ok {x : EStateM ε σ α} {f : α → EStateM ε σ β} {s s' : σ} {a : α} (h : x s = .ok a s')
    : (x >>= f) s = f a s' := by
  show EStateM.bind x f s = f a s'
  unfold EStateM.bind
  rw [h]

theorem bind_of_error {x : EStateM ε σ α} {f : α → EStateM ε σ β} {s s' : σ} {e : ε}
    (h : x s = .error e s') : (x >>= f) s = .error e s' := by
  show EStateM.bind x f s = .error e s'
  unfold EStateM.bind
  rw [h]

theorem bind_eq_ok_iff {x : EStateM ε σ α} {f : α → EStateM ε σ β} {s s' : σ} {b : β}
    : (x >>= f) s = .ok b s' ↔ ∃ a s₁, x s = .ok a s₁ ∧ f a s₁ = .ok b s' := by
  cases hx : x s with
  | ok a s₁ => simp [bind_of_ok hx, and_assoc]
  | error e s₁ => simp [bind_of_error hx]

theorem bind_eq_error_iff {x : EStateM ε σ α} {f : α → EStateM ε σ β} {s s' : σ} {e : ε}
    : (x >>= f) s = .error e s'
        ↔
      x s = .error e s' ∨ ∃ a s₁, x s = .ok a s₁ ∧ f a s₁ = .error e s' := by
  cases hx : x s with
  | ok a s₁ => simp [bind_of_ok hx, and_assoc]
  | error e' s₁ => simp [bind_of_error hx]

theorem bind_congr_apply {x y : EStateM ε σ α} {f : α → EStateM ε σ β} {s : σ} (h : x s = y s)
    : (x >>= f) s = (y >>= f) s := by
  cases hy : y s with
  | ok a s' => rw [bind_of_ok hy, bind_of_ok (h.trans hy)]
  | error e s' => rw [bind_of_error hy, bind_of_error (h.trans hy)]

/-- A sequence keeps what both of its parts keep. -/
theorem view_final_bind {τ : Type} (view : σ → τ) {x : EStateM ε σ α} {f : α → EStateM ε σ β} {s : σ}
    (hx : view (final (x s)) = view s) (hf : ∀ a s', view (final (f a s')) = view s')
    : view (final ((x >>= f) s)) = view s := by
  cases h : x s with
  | ok a s' =>
    rw [h] at hx
    rw [bind_of_ok h]
    exact (hf a s').trans hx
  | error e s' =>
    rw [h] at hx
    rw [bind_of_error h]
    exact hx

theorem get_bind_apply (f : σ → EStateM ε σ α) (s : σ) : (get >>= f) s = f s s := rfl

@[simp]
theorem pure_apply (a : α) (s : σ) : (pure a : EStateM ε σ α) s = .ok a s := rfl

@[simp]
theorem throw_apply (e : ε) (s : σ) : (throw e : EStateM ε σ α) s = .error e s := rfl

@[simp]
theorem ofExcept_ok_apply (a : α) (s : σ) : (ofExcept (.ok a) : EStateM ε σ α) s = .ok a s := rfl

@[simp]
theorem ofExcept_error_apply (e : ε) (s : σ)
    : (ofExcept (.error e) : EStateM ε σ α) s = .error e s := rfl

theorem forM_nil (f : α → EStateM ε σ PUnit) : [].forM f = pure ⟨⟩ := rfl

theorem forM_cons (f : α → EStateM ε σ PUnit) (a : α) (l : List α)
    : (a :: l).forM f = f a >>= fun _ => l.forM f := rfl

/-- An invariant under which no step fails makes a loop a fold. -/
theorem forM_eq_foldl {f : α → EStateM ε σ PUnit} {g : σ → α → σ} (P : σ → Prop) (l : List α)
    (hstep : ∀ a ∈ l, ∀ s, P s → f a s = .ok ⟨⟩ (g s a) ∧ P (g s a))
    : ∀ (s : σ), P s → l.forM f s = .ok ⟨⟩ (l.foldl g s) := by
  induction l with
  | nil => intro s _; rfl
  | cons a l ih =>
    intro s hs
    have ⟨hf, hg⟩ := hstep a List.mem_cons_self s hs
    rw [forM_cons, bind_of_ok hf, List.foldl_cons]
    apply ih
    . intro b hb
      exact hstep b (List.mem_cons_of_mem a hb)
    . exact hg

end Action

end Triword
