import Mathlib.Logic.Basic

/-!
# Exceptions over a state

How programs in `ExceptT ε (StateM σ)` run: an exception keeps the state it was
raised in.
-/

namespace ExceptState

variable {ε σ α β : Type}

/-! ## Any base monad -/

section Base

variable {m : Type → Type} [Monad m]

theorem runT_bind [LawfulMonad m] (x : ExceptT ε (StateT σ m) α)
    (f : α → ExceptT ε (StateT σ m) β) (s : σ) :
    (x >>= f).run.run s = x.run.run s >>= fun
      | (.ok a, s') => (f a).run.run s'
      | (.error e, s') => pure (.error e, s') := by
  rw [ExceptT.run_bind, StateT.run_bind]
  refine bind_congr fun r => ?_
  rcases r with ⟨e | a, s'⟩ <;> rfl

@[simp] theorem runT_pure (a : α) (s : σ) :
    (pure a : ExceptT ε (StateT σ m) α).run.run s = pure (.ok a, s) := rfl

theorem runT_modify [LawfulMonad m] (f : σ → σ) (s : σ) :
    (modify f : ExceptT ε (StateT σ m) Unit).run.run s = pure (.ok (), f s) :=
  pure_bind _ _

theorem runT_get [LawfulMonad m] (s : σ) :
    (get : ExceptT ε (StateT σ m) σ).run.run s = pure (.ok s, s) :=
  pure_bind _ _

@[simp] theorem runT_ofExcept_ok (a : α) (s : σ) :
    (ofExcept (.ok a : Except ε α) : ExceptT ε (StateT σ m) α).run.run s = pure (.ok a, s) := rfl

@[simp] theorem runT_ofExcept_error (e : ε) (s : σ) :
    (ofExcept (.error e : Except ε α) : ExceptT ε (StateT σ m) α).run.run s =
      pure (.error e, s) := rfl

end Base

/-! ## Without a base monad -/

theorem run_bind (m : ExceptT ε (StateM σ) α) (f : α → ExceptT ε (StateM σ) β) (s : σ) :
    (m >>= f).run.run s =
      match m.run.run s with
      | (.ok a, s') => (f a).run.run s'
      | (.error e, s') => (.error e, s') :=
  runT_bind m f s

theorem run_tryCatch (m : ExceptT ε (StateM σ) α) (h : ε → ExceptT ε (StateM σ) α) (s : σ) :
    (tryCatch m h : ExceptT ε (StateM σ) α).run.run s =
      match m.run.run s with
      | (.ok a, s') => (.ok a, s')
      | (.error e, s') => (h e).run.run s' := by
  change (m.run >>= fun r : Except ε α => match r with
    | .ok a => pure (Except.ok a)
    | .error e => (h e).run).run s = _
  rw [StateT.run_bind]
  rcases m.run.run s with ⟨e | a, s'⟩ <;> rfl

@[simp] theorem run_pure (a : α) (s : σ) :
    (pure a : ExceptT ε (StateM σ) α).run.run s = (.ok a, s) := runT_pure a s

@[simp] theorem run_ofExcept_ok (a : α) (s : σ) :
    (ofExcept (.ok a : Except ε α) : ExceptT ε (StateM σ) α).run.run s = (.ok a, s) :=
  runT_ofExcept_ok a s

@[simp] theorem run_ofExcept_error (e : ε) (s : σ) :
    (ofExcept (.error e : Except ε α) : ExceptT ε (StateM σ) α).run.run s = (.error e, s) :=
  runT_ofExcept_error e s

theorem run_modify_bind (f : σ → σ) (m : ExceptT ε (StateM σ) α) (s : σ) :
    (modify f >>= fun _ => m : ExceptT ε (StateM σ) α).run.run s = m.run.run (f s) := rfl

theorem run_modifyGet (f : σ → α × σ) (s : σ) :
    (modifyGet f : ExceptT ε (StateM σ) α).run.run s = (.ok (f s).1, (f s).2) := rfl

theorem run_get_bind (f : σ → ExceptT ε (StateM σ) α) (s : σ) :
    (get >>= f : ExceptT ε (StateM σ) α).run.run s = (f s).run.run s := rfl

/-- A part of the state that is read. -/
theorem run_read_bind {γ : Type} (p : σ → γ) (f : γ → ExceptT ε (StateM σ) α) (s : σ) :
    ((do return p (← get) : ExceptT ε (StateM σ) γ) >>= f).run.run s = (f (p s)).run.run s := rfl

/-! ## Programs that have returned -/

theorem ok_bind {x : Except ε α} {f : α → Except ε β} {b : β} (h : x >>= f = .ok b) :
    ∃ a, x = .ok a ∧ f a = .ok b := by
  cases x with
  | error e => cases h
  | ok a => exact ⟨a, rfl, h⟩

theorem ok_map {x : Except ε α} {f : α → β} {b : β} (h : x.map f = .ok b) :
    ∃ a, x = .ok a ∧ f a = b := by
  cases x with
  | error e => cases h
  | ok a => exact ⟨a, rfl, Except.ok.inj h⟩

/-- What holds of the value, if there is one. -/
def Ensures (x : Except ε α) (P : α → Prop) : Prop := ∀ a, x = .ok a → P a

theorem ensures_ok {a : α} {P : α → Prop} (h : P a) : Ensures (.ok a : Except ε α) P := by
  intro b hb
  cases hb
  exact h

theorem Ensures.bind {x : Except ε α} {f : α → Except ε β} {Q : α → Prop} {P : β → Prop}
    (hx : Ensures x Q) (hf : ∀ a, Q a → Ensures (f a) P) : Ensures (x >>= f) P := by
  intro b hb
  obtain ⟨a, ha, hfa⟩ := ok_bind hb
  exact hf a (hx a ha) b hfa

/-- The value of the step does not matter. -/
theorem ensures_then {x : Except ε α} {f : α → Except ε β} {P : β → Prop}
    (hf : ∀ a, Ensures (f a) P) : Ensures (x >>= f) P :=
  Ensures.bind (Q := fun _ => True) (fun _ _ => trivial) fun a _ => hf a

theorem exists_ok_then {x : Except ε Unit} {y : Except ε β} {P : β → Prop} :
    (∃ b, (x >>= fun _ => y) = .ok b ∧ P b) ↔ x = .ok () ∧ ∃ b, y = .ok b ∧ P b := by
  cases x with
  | error e => simp [bind, Except.bind]
  | ok a => simp [bind, Except.bind]

section Returned

variable {s s' : σ} {a : α} {b : β} {u : Unit}

/-- A sequence returns only if its first part does. -/
theorem returned_bind {m : ExceptT ε (StateM σ) α} {f : α → ExceptT ε (StateM σ) β}
    (h : (m >>= f).run.run s = (.ok b, s')) :
    ∃ a s₁, m.run.run s = (.ok a, s₁) ∧ (f a).run.run s₁ = (.ok b, s') := by
  rw [run_bind] at h
  rcases hm : m.run.run s with ⟨e | a, s₁⟩
  · rw [hm] at h
    cases h
  · rw [hm] at h
    exact ⟨a, s₁, rfl, h⟩

theorem returned_pure {a' : α}
    (h : (pure a : ExceptT ε (StateM σ) α).run.run s = (.ok a', s')) : a = a' ∧ s' = s := by
  cases h
  exact ⟨rfl, rfl⟩

theorem returned_modify {f : σ → σ}
    (h : (modify f : ExceptT ε (StateM σ) Unit).run.run s = (.ok u, s')) : s' = f s := by
  cases h
  rfl

theorem returned_ofExcept {x : Except ε α}
    (h : (ofExcept x : ExceptT ε (StateM σ) α).run.run s = (.ok a, s')) : x = .ok a ∧ s' = s := by
  cases x with
  | error e => cases h
  | ok b =>
      cases h
      exact ⟨rfl, rfl⟩

end Returned

/-! ## What does not change -/

/-- Whoever returns has left `f` of the state as it was. -/
def Keeps {γ : Type} (f : σ → γ) (m : ExceptT ε (StateM σ) α) : Prop :=
  ∀ s a s', m.run.run s = (.ok a, s') → f s' = f s

section Keeps

variable {γ : Type} {f : σ → γ}

theorem Keeps.bind {m : ExceptT ε (StateM σ) α} {k : α → ExceptT ε (StateM σ) β}
    (hm : Keeps f m) (hk : ∀ a, Keeps f (k a)) : Keeps f (m >>= k) := by
  intro s b s' h
  obtain ⟨a, s₁, hrun, hrest⟩ := returned_bind h
  exact (hk a s₁ b s' hrest).trans (hm s a s₁ hrun)

theorem Keeps.map {δ : Type} {m : ExceptT ε (StateM σ) α} (g : γ → δ) (h : Keeps f m) :
    Keeps (fun s => g (f s)) m :=
  fun s a s' hrun => congrArg g (h s a s' hrun)

theorem keeps_pure (a : α) : Keeps f (pure a : ExceptT ε (StateM σ) α) := by
  intro s a' s' h
  rw [(returned_pure h).2]

theorem keeps_throw (e : ε) : Keeps f (throw e : ExceptT ε (StateM σ) α) := by
  intro s a s' h
  cases h

theorem keeps_ofExcept (x : Except ε α) : Keeps f (ofExcept x : ExceptT ε (StateM σ) α) := by
  intro s a s' h
  rw [(returned_ofExcept h).2]

theorem keeps_modify {g : σ → σ} (h : ∀ s, f (g s) = f s) :
    Keeps f (modify g : ExceptT ε (StateM σ) Unit) := by
  intro s a s' hrun
  rw [returned_modify hrun, h]

theorem keeps_get : Keeps f (get : ExceptT ε (StateM σ) σ) := by
  intro s a s' h
  cases h
  rfl

end Keeps

/-! ## Pre- and postconditions -/

/-- From a state with `P` the program returns with `Q`, or it raises with `E`. -/
def Triple (P : σ → Prop) (m : ExceptT ε (StateM σ) α) (Q : α → σ → Prop) (E : σ → Prop) : Prop :=
  ∀ s, P s → (∀ a s', m.run.run s = (.ok a, s') → Q a s') ∧
    ∀ e s', m.run.run s = (.error e, s') → E s'

namespace Triple

variable {P : σ → Prop} {Q : α → σ → Prop} {R : β → σ → Prop} {E : σ → Prop}

theorem bind {m : ExceptT ε (StateM σ) α} {f : α → ExceptT ε (StateM σ) β}
    (hm : Triple P m Q E) (hf : ∀ a, Triple (Q a) (f a) R E) : Triple P (m >>= f) R E := by
  intro s hs
  obtain ⟨hok, herror⟩ := hm s hs
  rw [run_bind]
  rcases hrun : m.run.run s with ⟨e | a, s'⟩
  · refine ⟨fun b s'' h => (by cases h), fun e' s'' h => ?_⟩
    cases h
    exact herror e s' hrun
  · exact hf a s' (hok a s' hrun)

theorem pure {a : α} (h : ∀ s, P s → Q a s) :
    Triple P (Pure.pure a : ExceptT ε (StateM σ) α) Q E := by
  refine fun s hs => ⟨fun b s' hrun => ?_, fun e s' hrun => (by cases hrun)⟩
  cases hrun
  exact h s hs

theorem ofExcept {x : Except ε α} (hQ : ∀ a s, x = .ok a → P s → Q a s) (hE : ∀ s, P s → E s) :
    Triple P (ofExcept x : ExceptT ε (StateM σ) α) Q E := by
  intro s hs
  cases x with
  | ok a =>
      refine ⟨fun b s' hrun => ?_, fun e s' hrun => (by cases hrun)⟩
      cases hrun
      exact hQ a s rfl hs
  | error e =>
      refine ⟨fun b s' hrun => (by cases hrun), fun e' s' hrun => ?_⟩
      cases hrun
      exact hE s hs

theorem modify {f : σ → σ} {Q : Unit → σ → Prop} (h : ∀ s, P s → Q () (f s)) :
    Triple P (modify f : ExceptT ε (StateM σ) Unit) Q E := by
  refine fun s hs => ⟨fun b s' hrun => ?_, fun e s' hrun => (by cases hrun)⟩
  cases hrun
  exact h s hs

theorem get : Triple P (get : ExceptT ε (StateM σ) σ) (fun a s => a = s ∧ P s) E := by
  refine fun s hs => ⟨fun b s' hrun => ?_, fun e s' hrun => (by cases hrun)⟩
  cases hrun
  exact ⟨rfl, hs⟩

theorem mono {P' : σ → Prop} {Q' : α → σ → Prop} {m : ExceptT ε (StateM σ) α}
    (h : Triple P m Q E) (hP : ∀ s, P' s → P s) (hQ : ∀ a s, Q a s → Q' a s) :
    Triple P' m Q' E :=
  fun s hs => ⟨fun a s' hrun => hQ a s' ((h s (hP s hs)).1 a s' hrun), (h s (hP s hs)).2⟩

end Triple

end ExceptState
