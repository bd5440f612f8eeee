import Mathlib.Data.Nat.Notation
import Mathlib.Logic.Basic

/-!
# Programs with effects

A program either returns, throws, or performs an operation of its interface and
goes on with the answer.  Nothing is said here about what an operation does; a
handler gives one deterministic meaning, the transition systems built on top
give many.
-/

namespace Effect

variable {Op : Type} {Ret : Op → Type} {ε α β : Type}

/-- A program over the operations `Op`, where `Ret o` are the answers to `o`. -/
inductive Prog {Op : Type} (Ret : Op → Type) (ε α : Type) : Type
  | ret (a : α)
  | throw (e : ε)
  | call (o : Op) (k : Ret o → Prog Ret ε α)

namespace Prog

def bind : Prog Ret ε α → (α → Prog Ret ε β) → Prog Ret ε β
  | ret a, f => f a
  | throw e, _ => throw e
  | call o k, f => call o fun r => (k r).bind f

def tryCatch : Prog Ret ε α → (ε → Prog Ret ε α) → Prog Ret ε α
  | ret a, _ => ret a
  | throw e, h => h e
  | call o k, h => call o fun r => (k r).tryCatch h

instance : Monad (Prog Ret ε) where
  pure := ret
  bind := bind

instance : MonadExceptOf ε (Prog Ret ε) where
  throw := throw
  tryCatch := tryCatch

/-- Perform one operation and return its answer. -/
def perform (o : Op) : Prog Ret ε (Ret o) := call o ret

/-- The program has come to its end. -/
def Done : Prog Ret ε α → Prop
  | call _ _ => False
  | _ => True

/-- The value of a program that has returned. -/
def result : Prog Ret ε α → Option α
  | ret a => some a
  | _ => none

theorem eq_ret_of_result {p : Prog Ret ε α} {a : α} (h : p.result = some a) : p = ret a := by
  cases p with
  | ret b => exact congrArg ret (Option.some.inj h)
  | throw e => cases h
  | call o k => cases h

/-- The operation a program performs next. -/
def next : Prog Ret ε α → Option Op
  | call o _ => some o
  | _ => none

theorem eq_call_of_next {p : Prog Ret ε α} {o : Op} (h : p.next = some o) :
    ∃ k, p = call o k := by
  cases p with
  | ret a => cases h
  | throw e => cases h
  | call o' k =>
      cases h
      exact ⟨k, rfl⟩

@[simp] theorem ret_bind (a : α) (f : α → Prog Ret ε β) :
    ((ret a : Prog Ret ε α) >>= f) = f a := rfl

@[simp] theorem pure_bind (a : α) (f : α → Prog Ret ε β) :
    ((pure a : Prog Ret ε α) >>= f) = f a := rfl

@[simp] theorem throw_bind (e : ε) (f : α → Prog Ret ε β) :
    ((throw e : Prog Ret ε α) >>= f) = throw e := rfl

@[simp] theorem call_bind (o : Op) (k : Ret o → Prog Ret ε α) (f : α → Prog Ret ε β) :
    (call o k >>= f) = call o fun r => k r >>= f := rfl

theorem bind_assoc {γ : Type} (p : Prog Ret ε α) (f : α → Prog Ret ε β) (g : β → Prog Ret ε γ) :
    (p >>= f) >>= g = p >>= fun a => f a >>= g := by
  induction p with
  | ret a => rfl
  | throw e => rfl
  | call o k ih =>
      simp only [call_bind]
      exact congrArg (call o) (funext ih)

theorem bind_pure (p : Prog Ret ε α) : (p >>= pure) = p := by
  induction p with
  | ret a => rfl
  | throw e => rfl
  | call o k ih => exact congrArg (call o) (funext ih)

@[simp] theorem ofExcept_ok (a : α) : (ofExcept (.ok a : Except ε α) : Prog Ret ε α) = ret a := rfl

@[simp] theorem ofExcept_error (e : ε) :
    (ofExcept (.error e : Except ε α) : Prog Ret ε α) = throw e := rfl

/-! ## Deterministic handlers -/

section Eval

variable {σ : Type}

/-- Run a program, every operation being answered by the handler. -/
def eval (handler : (o : Op) → σ → Ret o × σ) : Prog Ret ε α → σ → Except ε α × σ
  | ret a, s => (.ok a, s)
  | throw e, s => (.error e, s)
  | call o k, s => eval handler (k (handler o s).1) (handler o s).2

variable (handler : (o : Op) → σ → Ret o × σ)

@[simp] theorem eval_ret (a : α) (s : σ) :
    eval handler (ret a : Prog Ret ε α) s = (.ok a, s) := rfl

@[simp] theorem eval_pure (a : α) (s : σ) :
    eval handler (pure a : Prog Ret ε α) s = (.ok a, s) := rfl

@[simp] theorem eval_throw (e : ε) (s : σ) :
    eval handler (throw e : Prog Ret ε α) s = (.error e, s) := rfl

@[simp] theorem eval_throwThe (e : ε) (s : σ) :
    eval handler (MonadExcept.throw e : Prog Ret ε α) s = (.error e, s) := rfl

@[simp] theorem eval_perform (o : Op) (s : σ) :
    eval handler (perform o : Prog Ret ε (Ret o)) s = (.ok (handler o s).1, (handler o s).2) := rfl

@[simp] theorem eval_bind (p : Prog Ret ε α) (f : α → Prog Ret ε β) (s : σ) :
    eval handler (p >>= f) s =
      match eval handler p s with
      | (.ok a, s') => eval handler (f a) s'
      | (.error e, s') => (.error e, s') := by
  induction p generalizing s with
  | ret a => rfl
  | throw e => rfl
  | call o k ih => exact ih _ _

@[simp] theorem eval_tryCatch (p : Prog Ret ε α) (h : ε → Prog Ret ε α) (s : σ) :
    eval handler (tryCatch p h) s =
      match eval handler p s with
      | (.ok a, s') => (.ok a, s')
      | (.error e, s') => eval handler (h e) s' := by
  induction p generalizing s with
  | ret a => rfl
  | throw e => rfl
  | call o k ih => exact ih _ _

/-- The handler that also records every operation with its answer. -/
@[simp] def logging (o : Op) (s : σ × List ((o : Op) × Ret o)) :
    Ret o × (σ × List ((o : Op) × Ret o)) :=
  ((handler o s.1).1, ((handler o s.1).2, s.2 ++ [⟨o, (handler o s.1).1⟩]))

end Eval

/-! ## Footprints -/

/-- Every operation the program can perform belongs to `S`. -/
def Uses (S : Op → Prop) : Prog Ret ε α → Prop
  | call o k => S o ∧ ∀ r, Uses S (k r)
  | _ => True

section Uses

variable {S T : Op → Prop}

theorem uses_pure (a : α) : Uses S (pure a : Prog Ret ε α) := trivial

theorem uses_throw (e : ε) : Uses S (throw e : Prog Ret ε α) := trivial

theorem uses_perform {o : Op} (h : S o) : Uses S (perform o : Prog Ret ε (Ret o)) :=
  ⟨h, fun _ => trivial⟩

theorem uses_ofExcept (x : Except ε α) : Uses S (ofExcept x : Prog Ret ε α) := by
  cases x <;> trivial

theorem Uses.bind {p : Prog Ret ε α} {f : α → Prog Ret ε β} (hp : Uses S p)
    (hf : ∀ a, Uses S (f a)) : Uses S (p >>= f) := by
  induction p with
  | ret a => exact hf a
  | throw e => trivial
  | call o k ih => exact ⟨hp.1, fun r => ih r (hp.2 r)⟩

theorem Uses.tryCatch {p : Prog Ret ε α} {h : ε → Prog Ret ε α} (hp : Uses S p)
    (hh : ∀ e, Uses S (h e)) : Uses S (tryCatch p h) := by
  induction p with
  | ret a => trivial
  | throw e => exact hh e
  | call o k ih => exact ⟨hp.1, fun r => ih r (hp.2 r)⟩

/-- What none of its operations changes is unchanged by the program. -/
theorem Uses.eval_snd {σ : Type} {handler : (o : Op) → σ → Ret o × σ} {I : σ → Prop}
    {p : Prog Ret ε α} (hp : Uses S p) (hI : ∀ o, S o → ∀ s, I s → I (handler o s).2) {s : σ}
    (hs : I s) : I (p.eval handler s).2 := by
  induction p generalizing s with
  | ret a => exact hs
  | throw e => exact hs
  | call o k ih => exact ih _ (hp.2 _) (hI o hp.1 s hs)

theorem Uses.mono {p : Prog Ret ε α} (hp : Uses S p) (hST : ∀ o, S o → T o) : Uses T p := by
  induction p with
  | ret a => trivial
  | throw e => trivial
  | call o k ih => exact ⟨hST o hp.1, fun r => ih r (hp.2 r)⟩

end Uses

/-! ## Bounds on requests -/

/-- Operations in `S` are performed at most `n` times, as long as all answers are `answers`. -/
def AtMost (answers : (o : Op) → Ret o → Prop) (S : Op → Prop) : Prog Ret ε α → ℕ → Prop
  | call o k, n => (S o → 0 < n) ∧ ∀ r, answers o r →
      (S o → AtMost answers S (k r) (n - 1)) ∧ (¬S o → AtMost answers S (k r) n)
  | _, _ => True

section AtMost

variable {answers : (o : Op) → Ret o → Prop} {S : Op → Prop}

theorem atMost_pure (a : α) (n : ℕ) : AtMost answers S (pure a : Prog Ret ε α) n := trivial

theorem AtMost.mono {p : Prog Ret ε α} {n m : ℕ} (hp : AtMost answers S p n) (hnm : n ≤ m) :
    AtMost answers S p m := by
  induction p generalizing n m with
  | ret a => trivial
  | throw e => trivial
  | call o k ih =>
      refine ⟨fun ho => Nat.lt_of_lt_of_le (hp.1 ho) hnm, fun r hr => ⟨fun ho => ?_, fun ho => ?_⟩⟩
      · exact ih r ((hp.2 r hr).1 ho) (by omega)
      · exact ih r ((hp.2 r hr).2 ho) hnm

theorem AtMost.bind {p : Prog Ret ε α} {f : α → Prog Ret ε β} {n m : ℕ}
    (hp : AtMost answers S p n) (hf : ∀ a, AtMost answers S (f a) m) :
    AtMost answers S (p >>= f) (n + m) := by
  induction p generalizing n with
  | ret a => exact (hf a).mono (Nat.le_add_left m n)
  | throw e => trivial
  | call o k ih =>
      refine ⟨fun ho => Nat.add_pos_left (hp.1 ho) m, fun r hr => ⟨fun ho => ?_, fun ho => ?_⟩⟩
      · have hpos := hp.1 ho
        have hrest := ih r ((hp.2 r hr).1 ho)
        rwa [Nat.sub_add_comm hpos]
      · exact ih r ((hp.2 r hr).2 ho)

theorem AtMost.tryCatch {p : Prog Ret ε α} {h : ε → Prog Ret ε α} {n : ℕ}
    (hp : AtMost answers S p n) (hh : ∀ e, AtMost answers S (h e) 0) :
    AtMost answers S (tryCatch p h) n := by
  induction p generalizing n with
  | ret a => trivial
  | throw e => exact (hh e).mono (Nat.zero_le n)
  | call o k ih =>
      refine ⟨hp.1, fun r hr => ⟨fun ho => ?_, fun ho => ?_⟩⟩
      · exact ih r ((hp.2 r hr).1 ho)
      · exact ih r ((hp.2 r hr).2 ho)

theorem atMost_perform (o : Op) : AtMost answers S (perform o : Prog Ret ε (Ret o)) 1 :=
  ⟨fun _ => Nat.one_pos, fun _ _ => ⟨fun _ => trivial, fun _ => trivial⟩⟩

/-- An operation that is not counted, with what is known of its answer. -/
theorem atMost_perform_bind {o : Op} (ho : ¬S o) {f : Ret o → Prog Ret ε α} {n : ℕ}
    (hf : ∀ r, answers o r → AtMost answers S (f r) n) :
    AtMost answers S (perform o >>= f) n :=
  ⟨fun hS => absurd hS ho, fun r hr => ⟨fun hS => absurd hS ho, fun _ => hf r hr⟩⟩

theorem atMost_ofExcept_bind {x : Except ε α} {f : α → Prog Ret ε β} {n : ℕ}
    (hf : ∀ a, x = .ok a → AtMost answers S (f a) n) :
    AtMost answers S ((ofExcept x : Prog Ret ε α) >>= f) n := by
  cases x with
  | ok a => exact hf a rfl
  | error e => trivial

theorem Uses.atMost {p : Prog Ret ε α} (hp : Uses (fun o => ¬S o) p) (n : ℕ) :
    AtMost answers S p n := by
  induction p with
  | ret a => trivial
  | throw e => trivial
  | call o k ih =>
      exact ⟨fun ho => absurd ho hp.1,
        fun r _ => ⟨fun ho => absurd ho hp.1, fun _ => ih r (hp.2 r)⟩⟩

end AtMost

end Prog

end Effect
