import Mathlib.Logic.IsEmpty.Basic
import Ros2WsDemo.Lib.Interleaving

/-!
# A thread that runs alone

Weakest preconditions where no environment acts, and what guards say about the events of a
trace.
-/

namespace Effect

variable {Op : Type} {Ret : Op → Type} {Act Job σ ε α β : Type} {sys : System Ret Act σ}
  {G : σ → List (Event Ret Act Job) → Op → Prop} {Q : α → σ → List (Event Ret Act Job) → Prop}
  {E : ε → σ → List (Event Ret Act Job) → Prop} {s : σ} {tr : List (Event Ret Act Job)}

/-! ## No environment -/

section Alone

variable [IsEmpty Act]

theorem stable_of_isEmpty (P : σ → List (Event Ret Act Job) → Prop) : Stable sys P :=
  fun _ _ a => isEmptyElim a

theorem wp_call_iff {o : Op} {k : Ret o → Prog Ret ε α} :
    wp sys G Q E (.call o k) s tr ↔
      G s tr o ∧ ∀ r s', sys.handle s o r s' → wp sys G Q E (k r) s' (tr ++ [.op o r]) := by
  constructor
  · exact fun h => h s tr .refl
  · intro h s₁ tr₁ hacts
    rcases Relation.ReflTransGen.cases_head hacts with heq | ⟨_, ⟨a, _⟩, _⟩
    · obtain ⟨rfl, rfl⟩ := Prod.mk.inj heq
      exact h
    · exact isEmptyElim a

/-- One operation and what follows it. -/
theorem wp_perform_bind {o : Op} {f : Ret o → Prog Ret ε α} (hG : G s tr o)
    (h : ∀ r s', sys.handle s o r s' → wp sys G Q E (f r) s' (tr ++ [.op o r])) :
    wp sys G Q E (Prog.perform o >>= f) s tr :=
  wp_call_iff.mpr ⟨hG, h⟩

theorem wp_perform_last {o : Op} {Q : Ret o → σ → List (Event Ret Act Job) → Prop} (hG : G s tr o)
    (h : ∀ r s', sys.handle s o r s' → Q r s' (tr ++ [.op o r])) :
    wp sys G Q E (Prog.perform o) s tr :=
  wp_call_iff.mpr ⟨hG, h⟩

end Alone

/-! ## Guards and traces -/

section Guards

variable {jobs : Job → Prog Ret ε α} {c₀ c : Config Ret Act Job σ ε α}

/-- Every operation of a trace was guarded when it was performed. -/
theorem guard_of_trace (h₀ : c₀.trace = [])
    (hguard : ∀ c, Reachable sys jobs c₀ c → ∀ o k, c.prog = .call o k → G c.state c.trace o)
    (h : Reachable sys jobs c₀ c) {before after : List (Event Ret Act Job)} {o : Op} {r : Ret o}
    (htrace : c.trace = before ++ .op o r :: after) : ∃ s, G s before o := by
  induction h generalizing after with
  | refl =>
      rw [h₀] at htrace
      exact absurd htrace.symm (by simp)
  | @tail c₁ c₂ hreach hstep ih =>
      obtain ⟨e, he⟩ := hstep.trace_eq
      rw [he] at htrace
      rcases List.eq_nil_or_concat after with rfl | ⟨after', x, rfl⟩
      · obtain ⟨hbefore, hlast⟩ := List.append_inj' htrace rfl
        obtain rfl := (List.cons.inj hlast).1
        cases hstep with
        | op hr =>
            have hsame := List.append_cancel_left he
            cases (List.cons.inj hsame).1
            exact ⟨_, hbefore ▸ hguard _ hreach _ _ rfl⟩
        | act _ => cases (List.cons.inj (List.append_cancel_left he)).1
        | start _ _ => cases (List.cons.inj (List.append_cancel_left he)).1
      · rw [List.concat_eq_append, ← List.cons_append, ← List.append_assoc] at htrace
        exact ih (List.append_inj' htrace rfl).1

/-- What every guard and both postconditions imply holds in every reachable configuration. -/
theorem wp_reachable_imp {I : σ → List (Event Ret Act Job) → Prop}
    (hG : ∀ s tr o, G s tr o → I s tr)
    (hQ : ∀ a s tr, Q a s tr → I s tr) (hE : ∀ e s tr, E e s tr → I s tr)
    (hwp : wp sys G Q E c.prog c.state c.trace) : I c.state c.trace := by
  obtain ⟨p, s, tr⟩ := c
  cases p with
  | ret a => exact hQ a s tr hwp
  | throw e => exact hE e s tr hwp
  | call o k => exact hG s tr o (hwp s tr .refl).1

end Guards

end Effect
