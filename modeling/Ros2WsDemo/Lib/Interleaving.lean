import Mathlib.Data.Nat.Notation
import Mathlib.Logic.Relation
import Ros2WsDemo.Lib.Prog

/-!
# Jobs interleaved with an environment

One thread runs jobs one after the other.  Between any two of its operations an
environment may act on the shared state.  Operations, actions and starts of jobs
are recorded in a trace, so that assertions can speak about the past.

`wp` is the weakest precondition of a program in such a system: the guard `G`
holds before each of its operations, the postconditions when it ends.  Soundness
turns a proof per job into a guard on every step of every run, and an invariant
then has to be checked for guarded steps only.
-/

namespace Effect

variable {Op : Type} {Ret : Op → Type} {Act Job σ ε α β : Type}

inductive Event {Op : Type} (Ret : Op → Type) (Act Job : Type) : Type
  | op (o : Op) (r : Ret o)
  | act (a : Act)
  | start (j : Job)

/-- What operations and environment actions do to the state. -/
structure System {Op : Type} (Ret : Op → Type) (Act σ : Type) where
  handle : σ → (o : Op) → Ret o → σ → Prop
  act : σ → Act → σ → Prop

structure Config {Op : Type} (Ret : Op → Type) (Act Job σ ε α : Type) where
  prog : Prog Ret ε α
  state : σ
  trace : List (Event Ret Act Job)

inductive Step (sys : System Ret Act σ) (jobs : Job → Prog Ret ε α) :
    Config Ret Act Job σ ε α → Config Ret Act Job σ ε α → Prop
  | op {o : Op} {k : Ret o → Prog Ret ε α} {s s' : σ} {tr : List (Event Ret Act Job)} {r : Ret o}
      (h : sys.handle s o r s') :
      Step sys jobs ⟨.call o k, s, tr⟩ ⟨k r, s', tr ++ [.op o r]⟩
  | act {p : Prog Ret ε α} {s s' : σ} {tr : List (Event Ret Act Job)} {a : Act}
      (h : sys.act s a s') : Step sys jobs ⟨p, s, tr⟩ ⟨p, s', tr ++ [.act a]⟩
  | start {p : Prog Ret ε α} {s : σ} {tr : List (Event Ret Act Job)} (j : Job) (h : p.Done) :
      Step sys jobs ⟨p, s, tr⟩ ⟨jobs j, s, tr ++ [.start j]⟩

abbrev Reachable (sys : System Ret Act σ) (jobs : Job → Prog Ret ε α) :
    Config Ret Act Job σ ε α → Config Ret Act Job σ ε α → Prop :=
  Relation.ReflTransGen (Step sys jobs)

/-- The system whose operations are only given certain answers. -/
def System.restrict (sys : System Ret Act σ) (ok : (o : Op) → Ret o → Prop) : System Ret Act σ where
  handle s o r s' := sys.handle s o r s' ∧ ok o r
  act := sys.act

theorem Step.trace_eq {sys : System Ret Act σ} {jobs : Job → Prog Ret ε α}
    {c c' : Config Ret Act Job σ ε α} (h : Step sys jobs c c') :
    ∃ e, c'.trace = c.trace ++ [e] := by
  cases h with
  | op _ => exact ⟨_, rfl⟩
  | act _ => exact ⟨_, rfl⟩
  | start _ _ => exact ⟨_, rfl⟩

/-- A run in which only these answers occur is a run of the restricted system. -/
theorem Reachable.restrict {sys : System Ret Act σ} {jobs : Job → Prog Ret ε α}
    {ok : (o : Op) → Ret o → Prop} {c₀ c : Config Ret Act Job σ ε α}
    (h : Reachable sys jobs c₀ c) (hok : ∀ o r, .op o r ∈ c.trace → ok o r) :
    Reachable (sys.restrict ok) jobs c₀ c := by
  induction h with
  | refl => exact .refl
  | tail _ hstep ih =>
      obtain ⟨e, he⟩ := hstep.trace_eq
      refine (ih fun o r hr => hok o r (he ▸ List.mem_append_left _ hr)).tail ?_
      cases hstep with
      | op hr => exact .op ⟨hr, hok _ _ (List.mem_append_right _ List.mem_cons_self)⟩
      | act hact => exact .act hact
      | start j hdone => exact .start j hdone

theorem answers_append {ok : (o : Op) → Ret o → Prop} {tr : List (Event Ret Act Job)}
    {e : Event Ret Act Job} (htr : ∀ o r, .op o r ∈ tr → ok o r) (he : ∀ o r, e = .op o r → ok o r)
    (o : Op) (r : Ret o) (h : .op o r ∈ tr ++ [e]) : ok o r := by
  rcases List.mem_append.mp h with h | h
  · exact htr o r h
  · exact he o r (List.mem_singleton.mp h).symm

theorem Reachable.of_restrict {sys : System Ret Act σ} {jobs : Job → Prog Ret ε α}
    {ok : (o : Op) → Ret o → Prop} {c₀ c : Config Ret Act Job σ ε α}
    (h : Reachable (sys.restrict ok) jobs c₀ c) (h₀ : ∀ o r, .op o r ∈ c₀.trace → ok o r) :
    Reachable sys jobs c₀ c ∧ ∀ o r, .op o r ∈ c.trace → ok o r := by
  induction h with
  | refl => exact ⟨.refl, h₀⟩
  | tail _ hstep ih =>
      obtain ⟨hreach, hok⟩ := ih
      cases hstep with
      | op hr =>
          refine ⟨hreach.tail (.op hr.1), answers_append hok ?_⟩
          rintro o r ⟨⟩
          exact hr.2
      | act hact =>
          exact ⟨hreach.tail (.act hact), answers_append hok nofun⟩
      | start j hdone =>
          exact ⟨hreach.tail (.start j hdone), answers_append hok nofun⟩

/-! ## Weakest preconditions -/

section Wp

variable (sys : System Ret Act σ)

/-- Environment actions, on the state and the trace. -/
def ActStep (w w' : σ × List (Event Ret Act Job)) : Prop :=
  ∃ a, sys.act w.1 a w'.1 ∧ w'.2 = w.2 ++ [.act a]

def Stable (P : σ → List (Event Ret Act Job) → Prop) : Prop :=
  ∀ s tr a s', P s tr → sys.act s a s' → P s' (tr ++ [.act a])

def wp (G : σ → List (Event Ret Act Job) → Op → Prop)
    (Q : α → σ → List (Event Ret Act Job) → Prop) (E : ε → σ → List (Event Ret Act Job) → Prop) :
    Prog Ret ε α → σ → List (Event Ret Act Job) → Prop
  | .ret a, s, tr => Q a s tr
  | .throw e, s, tr => E e s tr
  | .call o k, s, tr => ∀ s₁ tr₁, Relation.ReflTransGen (ActStep sys) (s, tr) (s₁, tr₁) →
      G s₁ tr₁ o ∧ ∀ r s', sys.handle s₁ o r s' → wp G Q E (k r) s' (tr₁ ++ [.op o r])

variable {sys} {P : σ → List (Event Ret Act Job) → Prop}
  {G : σ → List (Event Ret Act Job) → Op → Prop}
  {Q Q' : α → σ → List (Event Ret Act Job) → Prop}
  {E E' : ε → σ → List (Event Ret Act Job) → Prop} {s s' : σ} {tr tr' : List (Event Ret Act Job)}

theorem Stable.acts (hP : Stable sys P) (h : P s tr)
    (hacts : Relation.ReflTransGen (ActStep sys) (s, tr) (s', tr')) : P s' tr' := by
  suffices hall : ∀ w, Relation.ReflTransGen (ActStep sys) (s, tr) w → P w.1 w.2 from
    hall (s', tr') hacts
  intro w hw
  induction hw with
  | refl => exact h
  | tail _ hstep ih =>
      obtain ⟨a, hact, htr⟩ := hstep
      rw [htr]
      exact hP _ _ _ _ ih hact

/-- An operation is judged by what is asked of the program after it. -/
theorem wp_call_congr {β : Type} {o : Op} {k : Ret o → Prog Ret ε α} {k' : Ret o → Prog Ret ε β}
    {R : β → σ → List (Event Ret Act Job) → Prop}
    (h : ∀ r s tr, wp sys G Q E (k r) s tr ↔ wp sys G R E' (k' r) s tr) :
    wp sys G Q E (.call o k) s tr ↔ wp sys G R E' (.call o k') s tr := by
  simp only [wp]
  refine forall₃_congr fun s₁ tr₁ _ => and_congr_right fun _ => ?_
  exact forall₃_congr fun r s' _ => h r s' _

theorem wp_bind {β : Type} {p : Prog Ret ε β} {f : β → Prog Ret ε α} :
    wp sys G Q E (p >>= f) s tr ↔ wp sys G (fun b => wp sys G Q E (f b)) E p s tr := by
  induction p generalizing s tr with
  | ret b => rfl
  | throw e => rfl
  | call o k ih =>
      rw [Prog.call_bind]
      exact wp_call_congr fun r s tr => ih r

theorem wp_tryCatch {p : Prog Ret ε α} {h : ε → Prog Ret ε α} :
    wp sys G Q E (Prog.tryCatch p h) s tr ↔ wp sys G Q (fun e => wp sys G Q E (h e)) p s tr := by
  induction p generalizing s tr with
  | ret b => rfl
  | throw e => rfl
  | call o k ih =>
      rw [Prog.tryCatch]
      exact wp_call_congr fun r s tr => ih r

theorem wp_mono {p : Prog Ret ε α} (h : wp sys G Q E p s tr)
    (hQ : ∀ a s tr, Q a s tr → Q' a s tr) (hE : ∀ e s tr, E e s tr → E' e s tr) :
    wp sys G Q' E' p s tr := by
  induction p generalizing s tr with
  | ret a => exact hQ a s tr h
  | throw e => exact hE e s tr h
  | call o k ih =>
      intro s₁ tr₁ hacts
      exact (h s₁ tr₁ hacts).imp_right fun hk r s' hr => ih r (hk r s' hr)

/-- The rule of sequencing. -/
theorem wp_seq {β : Type} {p : Prog Ret ε β} {f : β → Prog Ret ε α}
    {R : β → σ → List (Event Ret Act Job) → Prop} (hp : wp sys G R E p s tr)
    (hf : ∀ b s tr, R b s tr → wp sys G Q E (f b) s tr) : wp sys G Q E (p >>= f) s tr :=
  wp_bind.mpr (wp_mono hp hf fun _ _ _ he => he)

/-- One operation, started under a stable assertion. -/
theorem wp_perform {o : Op} {Q : Ret o → σ → List (Event Ret Act Job) → Prop}
    (hP : Stable sys P) (h : P s tr) (hG : ∀ s tr, P s tr → G s tr o)
    (hQ : ∀ s tr r s', P s tr → sys.handle s o r s' → Q r s' (tr ++ [.op o r])) :
    wp sys G Q E (Prog.perform o) s tr := by
  intro s₁ tr₁ hacts
  have h₁ := hP.acts h hacts
  exact ⟨hG s₁ tr₁ h₁, fun r s' hr => hQ s₁ tr₁ r s' h₁ hr⟩

/-- A program keeps an assertion that all its operations keep. -/
theorem wp_of_uses {S : Op → Prop} {p : Prog Ret ε α} (hp : p.Uses S) (hP : Stable sys P)
    (h : P s tr) (hG : ∀ s tr o, S o → P s tr → G s tr o)
    (hop : ∀ s tr o r s', S o → P s tr → sys.handle s o r s' → P s' (tr ++ [.op o r])) :
    wp sys G (fun _ => P) (fun _ => P) p s tr := by
  induction p generalizing s tr with
  | ret a => exact h
  | throw e => exact h
  | call o k ih =>
      intro s₁ tr₁ hacts
      have h₁ := hP.acts h hacts
      exact ⟨hG s₁ tr₁ o hp.1 h₁,
        fun r s' hr => ih r (hp.2 r) (hop s₁ tr₁ o r s' hp.1 h₁ hr)⟩

theorem wp_act (hQ : ∀ a, Stable sys (Q a)) (hE : ∀ e, Stable sys (E e)) {p : Prog Ret ε α}
    (h : wp sys G Q E p s tr) {a : Act} (hact : sys.act s a s') :
    wp sys G Q E p s' (tr ++ [.act a]) := by
  cases p with
  | ret b => exact hQ b _ _ _ _ h hact
  | throw e => exact hE e _ _ _ _ h hact
  | call o k =>
      intro s₁ tr₁ hacts
      exact h s₁ tr₁ (.head ⟨a, hact, rfl⟩ hacts)

/-- Soundness: every reachable configuration satisfies the precondition of what
is left to do, provided that a job may be started wherever one has ended. -/
theorem wp_reachable {jobs : Job → Prog Ret ε α}
    (hQ : ∀ a, Stable sys (Q a)) (hE : ∀ e, Stable sys (E e))
    (hstart : ∀ j s tr, ((∃ a, Q a s tr) ∨ ∃ e, E e s tr) →
      wp sys G Q E (jobs j) s (tr ++ [.start j]))
    {c₀ c : Config Ret Act Job σ ε α} (h₀ : wp sys G Q E c₀.prog c₀.state c₀.trace)
    (h : Reachable sys jobs c₀ c) : wp sys G Q E c.prog c.state c.trace := by
  induction h with
  | refl => exact h₀
  | tail _ hstep ih =>
      cases hstep with
      | op hr => exact (ih _ _ .refl).2 _ _ hr
      | act hact => exact wp_act hQ hE ih hact
      | @start p s tr j hdone =>
          cases p with
          | ret a => exact hstart j s tr (Or.inl ⟨a, ih⟩)
          | throw e => exact hstart j s tr (Or.inr ⟨e, ih⟩)
          | call o k => exact hdone.elim

/-- An invariant of guarded steps holds in every reachable configuration. -/
theorem invariant_reachable {jobs : Job → Prog Ret ε α} {I : σ → List (Event Ret Act Job) → Prop}
    {c₀ c : Config Ret Act Job σ ε α} (hI₀ : I c₀.state c₀.trace)
    (hguard : ∀ c, Reachable sys jobs c₀ c → ∀ o k, c.prog = .call o k → G c.state c.trace o)
    (hop : ∀ s tr o r s', I s tr → G s tr o → sys.handle s o r s' → I s' (tr ++ [.op o r]))
    (hact : Stable sys I) (hstart : ∀ s tr j, I s tr → I s (tr ++ [.start j]))
    (h : Reachable sys jobs c₀ c) : I c.state c.trace := by
  induction h with
  | refl => exact hI₀
  | tail hreach hstep ih =>
      cases hstep with
      | op hr => exact hop _ _ _ _ _ ih (hguard _ hreach _ _ rfl) hr
      | act ha => exact hact _ _ _ _ ih ha
      | start j _ => exact hstart _ _ j ih

end Wp

/-! ## Runs -/

/-- The first `n` steps of `run` are steps of the system. -/
def IsRun (sys : System Ret Act σ) (jobs : Job → Prog Ret ε α)
    (run : ℕ → Config Ret Act Job σ ε α) (n : ℕ) : Prop :=
  ∀ i, i < n → Step sys jobs (run i) (run (i + 1))

section Run

variable {sys : System Ret Act σ} {jobs : Job → Prog Ret ε α}
  {run : ℕ → Config Ret Act Job σ ε α} {n : ℕ}

theorem IsRun.reachable (h : IsRun sys jobs run n) {i : ℕ} (hi : i ≤ n) :
    Reachable sys jobs (run 0) (run i) := by
  induction i with
  | zero => exact .refl
  | succ i ih => exact (ih (by omega)).tail (h i hi)

/-- Step `i` of a run appends the event number `i`. -/
theorem IsRun.trace_length (h : IsRun sys jobs run n) (h₀ : (run 0).trace = []) {i : ℕ}
    (hi : i ≤ n) : (run i).trace.length = i := by
  induction i with
  | zero => rw [h₀, List.length_nil]
  | succ i ih =>
      obtain ⟨e, he⟩ := (h i hi).trace_eq
      rw [he, List.length_append, ih (by omega), List.length_singleton]

theorem IsRun.trace_prefix (h : IsRun sys jobs run n) {i j : ℕ} (hij : i ≤ j) (hj : j ≤ n) :
    (run i).trace <+: (run j).trace := by
  induction hij with
  | refl => exact List.prefix_refl _
  | @step j hij ih =>
      obtain ⟨e, he⟩ := (h j hj).trace_eq
      rw [he]
      exact (ih (Nat.le_of_succ_le hj)).trans (List.prefix_append _ _)

end Run

/-! ## Scheduled runs -/

/-- A move of a scheduler: let the running job perform its next operation, let
the environment act, or start a job. -/
inductive Move (Act Job : Type) : Type
  | op
  | act (a : Act)
  | start (j : Job)

section Schedule

variable (handler : (o : Op) → σ → Ret o × σ) (action : Act → σ → σ) (jobs : Job → Prog Ret ε α)

def Config.next (c : Config Ret Act Job σ ε α) : Move Act Job → Option (Config Ret Act Job σ ε α)
  | .op =>
      match c.prog with
      | .call o k =>
          let a := handler o c.state
          some ⟨k a.1, a.2, c.trace ++ [.op o a.1]⟩
      | _ => none
  | .act a => some ⟨c.prog, action a c.state, c.trace ++ [.act a]⟩
  | .start j =>
      match c.prog with
      | .call _ _ => none
      | _ => some ⟨jobs j, c.state, c.trace ++ [.start j]⟩

def Config.play (c : Config Ret Act Job σ ε α) :
    List (Move Act Job) → Option (Config Ret Act Job σ ε α)
  | [] => some c
  | m :: ms => (c.next handler action jobs m).bind fun c' => c'.play ms

variable {handler action jobs} {sys : System Ret Act σ}

theorem Config.next_step (hhandle : ∀ s o, sys.handle s o (handler o s).1 (handler o s).2)
    (hact : ∀ s a, sys.act s a (action a s)) {c c' : Config Ret Act Job σ ε α}
    {m : Move Act Job} (h : c.next handler action jobs m = some c') : Step sys jobs c c' := by
  obtain ⟨p, s, tr⟩ := c
  cases m with
  | op =>
      cases p with
      | ret a => cases h
      | throw e => cases h
      | call o k =>
          cases h
          exact Step.op (hhandle s o)
  | act a =>
      cases h
      exact Step.act (hact s a)
  | start j =>
      cases p with
      | ret a =>
          cases h
          exact Step.start j trivial
      | throw e =>
          cases h
          exact Step.start j trivial
      | call o k => cases h

theorem Config.play_append (c : Config Ret Act Job σ ε α) (ms ms' : List (Move Act Job)) :
    c.play handler action jobs (ms ++ ms') =
      (c.play handler action jobs ms).bind fun c' => c'.play handler action jobs ms' := by
  induction ms generalizing c with
  | nil => rfl
  | cons m ms ih =>
      simp only [List.cons_append, play, Option.bind_assoc]
      exact congrArg _ (funext ih)

variable (handler action jobs) in
/-- The configuration after the first `i` moves. -/
def Config.runOf (c : Config Ret Act Job σ ε α) (ms : List (Move Act Job)) (i : ℕ) :
    Config Ret Act Job σ ε α :=
  (c.play handler action jobs (ms.take i)).getD c

/-- Moves that can all be played make a run. -/
theorem isRun_runOf (hhandle : ∀ s o, sys.handle s o (handler o s).1 (handler o s).2)
    (hact : ∀ s a, sys.act s a (action a s)) {c : Config Ret Act Job σ ε α}
    {ms : List (Move Act Job)} (h : (c.play handler action jobs ms).isSome) :
    IsRun sys jobs (c.runOf handler action jobs ms) ms.length := by
  intro i hi
  obtain ⟨last, hlast⟩ := Option.isSome_iff_exists.mp h
  rw [← List.take_append_drop (i + 1) ms, Config.play_append] at hlast
  obtain ⟨c', hc', -⟩ := Option.bind_eq_some_iff.mp hlast
  have hplay := hc'
  rw [List.take_succ_eq_append_getElem hi, Config.play_append] at hplay
  obtain ⟨c₁, hc₁, hnext⟩ := Option.bind_eq_some_iff.mp hplay
  simp only [Config.runOf, hc', hc₁, Option.getD_some]
  obtain ⟨c₂, hc₂, hnil⟩ := Option.bind_eq_some_iff.mp hnext
  cases hnil
  exact Config.next_step hhandle hact hc₂

/-- Operations of the running job only. -/
theorem reachable_ops (hhandle : ∀ s o, sys.handle s o (handler o s).1 (handler o s).2)
    {c : Config Ret Act Job σ ε α} {n : ℕ}
    (h : (c.play handler action jobs (List.replicate n .op)).isSome) :
    Reachable sys jobs c ((c.play handler action jobs (List.replicate n .op)).getD c) := by
  obtain ⟨c', hc'⟩ := Option.isSome_iff_exists.mp h
  rw [hc', Option.getD_some]
  clear h
  induction n generalizing c with
  | zero =>
      cases hc'
      exact .refl
  | succ n ih =>
      obtain ⟨p, s, tr⟩ := c
      cases p with
      | ret a => cases hc'
      | throw e => cases hc'
      | call o k => exact .head (.op (hhandle s o)) (ih hc')

end Schedule

end Effect
