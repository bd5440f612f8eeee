import Mathlib.Logic.Basic

/-!
# Operations that leave no trace when they throw

An operation is atomic if an exception leaves the state as it was.  That follows from
the order of its steps: what may throw comes before the first change, and what comes
after a change does not throw.  `exc` tells exceptions from errors that end a run.
-/

namespace Atomicity

variable {ε σ α β : Type}

theorem run_bind_error {m : EStateM ε σ α} {f : α → EStateM ε σ β} {s s' : σ} {e : ε}
    (h : (m >>= f).run s = .error e s') :
    m.run s = .error e s' ∨ ∃ a s₁, m.run s = .ok a s₁ ∧ (f a).run s₁ = .error e s' := by
  rw [EStateM.run_bind] at h
  cases hm : m.run s with
  | ok a s₁ =>
      rw [hm] at h
      exact Or.inr ⟨a, s₁, rfl, h⟩
  | error e₁ s₁ =>
      rw [hm] at h
      cases h
      exact Or.inl rfl

theorem run_bind_ok {m : EStateM ε σ α} {f : α → EStateM ε σ β} {s s' : σ} {b : β}
    (h : (m >>= f).run s = .ok b s') : ∃ a s₁, m.run s = .ok a s₁ ∧ (f a).run s₁ = .ok b s' := by
  rw [EStateM.run_bind] at h
  cases hm : m.run s with
  | ok a s₁ =>
      rw [hm] at h
      exact ⟨a, s₁, rfl, h⟩
  | error e₁ s₁ =>
      rw [hm] at h
      cases h

theorem run_ofExcept_bind_ok {x : Except ε α} {f : α → EStateM ε σ β} {s s' : σ} {b : β}
    (h : (ofExcept x >>= f).run s = .ok b s') : ∃ a, x = .ok a ∧ (f a).run s = .ok b s' := by
  cases x with
  | ok a => exact ⟨a, rfl, h⟩
  | error e => cases h

theorem run_get_bind (f : σ → EStateM ε σ β) (s : σ) : (get >>= f).run s = (f s).run s := rfl

theorem run_modify_bind (g : σ → σ) (f : PUnit → EStateM ε σ β) (s : σ) :
    (modify g >>= f).run s = (f ⟨⟩).run (g s) := rfl

/-- The value and the state of a run that returns. -/
def returned? : EStateM.Result ε σ α → Option (α × σ)
  | .ok a s => some (a, s)
  | .error _ _ => none

theorem eq_ok_of_returned? {r : EStateM.Result ε σ α} {p : α × σ} (h : returned? r = some p) :
    r = .ok p.1 p.2 := by
  cases r with
  | ok a s =>
      cases h
      rfl
  | error e s => cases h

/-- A step that returns leaves the state as it was. -/
def ReadOnly (m : EStateM ε σ α) : Prop := ∀ s a s', m.run s = .ok a s' → s' = s

/-- An error of the operation is not an exception. -/
def NoThrow (exc : ε → Prop) (m : EStateM ε σ α) : Prop :=
  ∀ s e s', m.run s = .error e s' → ¬exc e

/-- An exception leaves the state as it was. -/
def Atomic (exc : ε → Prop) (m : EStateM ε σ α) : Prop :=
  ∀ s e s', m.run s = .error e s' → exc e → s' = s

variable {exc : ε → Prop}

/-! ## Computations -/

/-- A computation that ends in no exception. -/
def ThrowsNot (exc : ε → Prop) (x : Except ε α) : Prop := ∀ e, x = .error e → ¬exc e

theorem throwsNot_ok (a : α) : ThrowsNot exc (.ok a) := fun _ h => nomatch h

theorem ThrowsNot.bind {x : Except ε α} {f : α → Except ε β} (hx : ThrowsNot exc x)
    (hf : ∀ a, ThrowsNot exc (f a)) : ThrowsNot exc (x >>= f) := by
  intro e h
  cases x with
  | ok a => exact hf a e h
  | error e₁ =>
      cases h
      exact hx e rfl

/-! ## Steps -/

theorem readOnly_ofExcept (x : Except ε α) : ReadOnly (ofExcept x : EStateM ε σ α) := by
  intro s a s' h
  cases x with
  | ok b =>
      cases h
      rfl
  | error e => cases h

theorem readOnly_get : ReadOnly (get : EStateM ε σ σ) := by
  intro s a s' h
  cases h
  rfl

theorem atomic_ofExcept (x : Except ε α) : Atomic exc (ofExcept x : EStateM ε σ α) := by
  intro s e s' h _
  cases x with
  | ok b => cases h
  | error e => cases h; rfl

theorem atomic_throw (e : ε) : Atomic exc (throw e : EStateM ε σ α) := by
  intro s e' s' h _
  cases h
  rfl

theorem noThrow_ofExcept {x : Except ε α} (hx : ThrowsNot exc x) :
    NoThrow exc (ofExcept x : EStateM ε σ α) := by
  intro s e s' h
  cases x with
  | ok b => cases h
  | error e =>
      cases h
      exact hx e rfl

theorem noThrow_pure (a : α) : NoThrow exc (pure a : EStateM ε σ α) :=
  fun _ _ _ h => nomatch h

theorem noThrow_get : NoThrow exc (get : EStateM ε σ σ) :=
  fun _ _ _ h => nomatch h

theorem noThrow_modify (f : σ → σ) : NoThrow exc (modify f : EStateM ε σ PUnit) :=
  fun _ _ _ h => nomatch h

/-! ## Sequences -/

theorem NoThrow.atomic {m : EStateM ε σ α} (h : NoThrow exc m) : Atomic exc m :=
  fun s e s' hrun he => absurd he (h s e s' hrun)

theorem NoThrow.bind {m : EStateM ε σ α} {f : α → EStateM ε σ β} (hm : NoThrow exc m)
    (hf : ∀ a, NoThrow exc (f a)) : NoThrow exc (m >>= f) := by
  intro s e s' h
  rcases run_bind_error h with h | ⟨a, s₁, -, h⟩
  · exact hm s e s' h
  · exact hf a s₁ e s' h

/-- Before the first change. -/
theorem Atomic.bind {m : EStateM ε σ α} {f : α → EStateM ε σ β} (hm : Atomic exc m)
    (hread : ReadOnly m) (hf : ∀ a, Atomic exc (f a)) : Atomic exc (m >>= f) := by
  intro s e s' h he
  rcases run_bind_error h with h | ⟨a, s₁, hok, h⟩
  · exact hm s e s' h he
  · rw [hread s a s₁ hok] at h
    exact hf a s e s' h he

/-- After a change. -/
theorem Atomic.bind_noThrow {m : EStateM ε σ α} {f : α → EStateM ε σ β} (hm : Atomic exc m)
    (hf : ∀ a, NoThrow exc (f a)) : Atomic exc (m >>= f) := by
  intro s e s' h he
  rcases run_bind_error h with h | ⟨a, s₁, -, h⟩
  · exact hm s e s' h he
  · exact absurd he (hf a s₁ e s' h)

end Atomicity
