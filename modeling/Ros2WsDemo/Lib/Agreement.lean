import Ros2WsDemo.Lib.Atomicity

/-!
# Two computations that agree

A computation that may stop for reasons of its own, such as a machine that runs out of
numbers, follows another one: what it returns the other returns, and an error for which
`fault` names one of the other computation is that error there.  With any other error it
just stops.
-/

namespace Agreement

variable {ε ε' σ α β : Type} {fault : ε → Option ε'}

def Agrees (fault : ε → Option ε') (m : Except ε α) (a : Except ε' α) : Prop :=
  (∀ x, m = .ok x → a = .ok x) ∧ ∀ e e', m = .error e → fault e = some e' → a = .error e'

/-- The same for operations, from one state on.  The state at an error does not matter. -/
def AgreesFrom (fault : ε → Option ε') (m : EStateM ε σ α) (a : EStateM ε' σ α) (s : σ) : Prop :=
  (∀ x s', m.run s = .ok x s' → a.run s = .ok x s') ∧
    ∀ e e' s', m.run s = .error e s' → fault e = some e' → ∃ s₁, a.run s = .error e' s₁

theorem agrees_ok (x : α) : Agrees fault (.ok x) (.ok x : Except ε' α) :=
  ⟨fun _ h => congrArg _ (Except.ok.inj h), fun _ _ h => nomatch h⟩

theorem agrees_stop {e : ε} (he : fault e = none) (a : Except ε' α) :
    Agrees fault (.error e) a := by
  refine ⟨fun _ h => (nomatch h), fun e₁ e' h he' => ?_⟩
  cases h
  rw [he] at he'
  cases he'

theorem Agrees.bind {m : Except ε α} {a : Except ε' α} {f : α → Except ε β} {g : α → Except ε' β}
    (h : Agrees fault m a) (hfg : ∀ x, m = .ok x → Agrees fault (f x) (g x)) :
    Agrees fault (m >>= f) (a >>= g) := by
  cases m with
  | ok x =>
      rw [h.1 x rfl]
      exact hfg x rfl
  | error e =>
      refine ⟨fun _ h => (nomatch h), fun e₁ e' he he' => ?_⟩
      cases he
      rw [h.2 e e' rfl he']
      rfl

/-- A step whose value is known need not be taken by the other computation. -/
theorem Agrees.bind_ok {m : Except ε α} {x : α} {f : α → Except ε β} {a : Except ε' β}
    (h : Agrees fault m (.ok x)) (hf : m = .ok x → Agrees fault (f x) a) :
    Agrees fault (m >>= f) a := by
  cases m with
  | ok y =>
      cases h.1 y rfl
      exact hf rfl
  | error e =>
      refine agrees_stop ?_ a
      cases he : fault e with
      | none => rfl
      | some e' => cases h.2 e e' rfl he

theorem Agrees.ofExcept {m : Except ε α} {a : Except ε' α} (h : Agrees fault m a) (s : σ) :
    AgreesFrom fault (ofExcept m) (ofExcept a) s := by
  cases m with
  | ok x =>
      rw [h.1 x rfl]
      exact ⟨fun _ _ hrun => by cases hrun; rfl, fun _ _ _ hrun => nomatch hrun⟩
  | error e =>
      refine ⟨fun _ _ hrun => (nomatch hrun), fun e₁ e' s' hrun he' => ?_⟩
      cases hrun
      rw [h.2 e e' rfl he']
      exact ⟨s, rfl⟩

theorem agreesFrom_of_eq {m : EStateM ε σ α} {a : EStateM ε' σ α} {s s' : σ} {x : α}
    (hm : m.run s = .ok x s') (ha : a.run s = .ok x s') : AgreesFrom fault m a s := by
  refine ⟨fun y s₁ h => ?_, fun _ _ _ h => ?_⟩
  · rw [hm] at h
    cases h
    exact ha
  · rw [hm] at h
    cases h

theorem AgreesFrom.get {f : σ → EStateM ε σ β} {g : σ → EStateM ε' σ β} {s : σ}
    (h : AgreesFrom fault (f s) (g s) s) : AgreesFrom fault (get >>= f) (get >>= g) s := h

theorem AgreesFrom.bind {m : EStateM ε σ α} {a : EStateM ε' σ α} {f : α → EStateM ε σ β}
    {g : α → EStateM ε' σ β} {s : σ} (h : AgreesFrom fault m a s)
    (hfg : ∀ x s', m.run s = .ok x s' → AgreesFrom fault (f x) (g x) s') :
    AgreesFrom fault (m >>= f) (a >>= g) s := by
  refine ⟨fun y s₂ hrun => ?_, fun e e' s₂ hrun he' => ?_⟩
  · obtain ⟨x, s₁, hm, hrun⟩ := Atomicity.run_bind_ok hrun
    rw [EStateM.run_bind, h.1 x s₁ hm]
    exact (hfg x s₁ hm).1 y s₂ hrun
  · rcases Atomicity.run_bind_error hrun with hm | ⟨x, s₁, hm, hrun⟩
    · obtain ⟨s₃, ha⟩ := h.2 e e' s₂ hm he'
      exact ⟨s₃, by rw [EStateM.run_bind, ha]⟩
    · obtain ⟨s₃, hg⟩ := (hfg x s₁ hm).2 e e' s₂ hrun he'
      exact ⟨s₃, by rw [EStateM.run_bind, h.1 x s₁ hm]; exact hg⟩

theorem AgreesFrom.bind_ok {m : Except ε α} {x : α} {f : α → EStateM ε σ β}
    {a : EStateM ε' σ β} {s : σ} (h : Agrees fault m (.ok x))
    (hf : m = .ok x → AgreesFrom fault (f x) a s) :
    AgreesFrom fault (ofExcept m >>= f) a s := by
  have hstep : AgreesFrom fault (ofExcept m >>= f) (ofExcept (.ok x) >>= fun _ => a) s := by
    refine (h.ofExcept s).bind fun y s' hrun => ?_
    cases m with
    | ok z =>
        cases hrun
        cases h.1 y rfl
        exact hf rfl
    | error e => cases hrun
  exact hstep

end Agreement
