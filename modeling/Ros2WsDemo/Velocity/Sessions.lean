import Ros2WsDemo.Lib.Interleaving
import Ros2WsDemo.Lib.Trace
import Ros2WsDemo.Velocity.Callbacks

/-!
# Velocity commands across reconnects

The velocity callbacks again, with the connection an action was created from, and
with a work thread that may release the platform and connect a new one between
any two of their operations.  Connections are numbered in the order in which they
are made.  The held action is not told of a release, so whether commands reach the
current connection depends on what is held when the platform goes.
-/

namespace Ros2WsDemo.Velocity.Sessions

open Effect Trace

/-! ## Operations -/

/-- A handle belongs to the connection it was created from. -/
structure SessionAction where
  flag : VelocityControlFlag
  pltfm : ℕ
  deriving DecidableEq, Repr

abbrev Op (F : Type) := Velocity.Op SessionAction F

abbrev Ret (F : Type) : Op F → Type := Velocity.Ret SessionAction F

/-- The work thread. -/
inductive Act where
  | safeReleaseSlamwarePlatform
  | safeSetSlamwarePlatform (pltfm : ℕ)
  deriving DecidableEq

structure State where
  slamwarePltfm : Option ℕ
  connections : ℕ
  velocityControllAction : Option SessionAction

def State.init : State := ⟨none, 0, none⟩

section Model

variable {D F : Type}

/-- The callback calls `velocityControl` on the member, not on its argument.  The
robot may refuse; an action it grants is one of the connection asked. -/
def handle (s : State) : (o : Op F) → Ret F o → State → Prop
  | .safeGetSlamwarePlatform, r, s' => r = s.slamwarePltfm.isSome ∧ s' = s
  | .readVelocityControllAction, r, s' => r = s.velocityControllAction ∧ s' = s
  | .writeVelocityControllAction action, _, s' =>
      s' = { s with velocityControllAction := action }
  | .velocityControl flag, r, s' =>
      (∀ a, r = .ok (some a) → a.flag = flag ∧ s.slamwarePltfm = some a.pltfm) ∧ s' = s
  | .setVelocity _ _ _ _, _, s' => s' = s
  | .rclcppError _, _, s' => s' = s

/-- The work thread connects only when it has no platform. -/
def act (s : State) : Act → State → Prop
  | .safeReleaseSlamwarePlatform, s' => s' = { s with slamwarePltfm := none }
  | .safeSetSlamwarePlatform pltfm, s' => s.slamwarePltfm = none ∧ pltfm = s.connections ∧
      s' = { s with slamwarePltfm := some pltfm, connections := pltfm + 1 }

variable (F) in
def system : System (Ret F) Act State where
  handle := handle
  act := act

/-- What the subscription of the message's topic calls. -/
def callback (toFloat : D → F) (message : Message D) : CallbackM SessionAction F Unit :=
  message.topic.callback toFloat message.msg

abbrev MessageConfig (D F : Type) := Config (Ret F) Act (Message D) State Exn Unit

abbrev MessageEvent (D F : Type) := Event (Ret F) Act (Message D)

/-- Nothing has been connected, received or created. -/
def MessageConfig.init : MessageConfig D F := ⟨.ret (), State.init, []⟩

/-! ## Creations and uses -/

/-- The event is the creation of this action. -/
def Creates (a : SessionAction) : MessageEvent D F → Prop
  | .op (.velocityControl _) r => r = .ok (some a)
  | _ => False

/-- The event is a command through this action. -/
def Commands (a : SessionAction) : MessageEvent D F → Prop
  | .op (.setVelocity a' _ _ _) _ => a' = a
  | _ => False

def platformAfter (slamwarePltfm : Option ℕ) : MessageEvent D F → Option ℕ
  | .act .safeReleaseSlamwarePlatform => none
  | .act (.safeSetSlamwarePlatform pltfm) => some pltfm
  | _ => slamwarePltfm

/-- The connection that is current after these events. -/
def currentPlatform (tr : List (MessageEvent D F)) : Option ℕ := tr.foldl platformAfter none

def actionAfter (action : Option SessionAction) : MessageEvent D F → Option SessionAction
  | .op (.velocityControl _) r =>
      match (r : Except Exn (Option SessionAction)) with
      | .ok granted => granted
      | .error _ => action
  | .op (.setVelocity _ _ _ _) r =>
      match (r : Except Exn Unit) with
      | .ok _ => action
      | .error e => if e.isStd then none else action
  | _ => action

/-- The action that the robot has granted, until a command fails. -/
def heldAction (tr : List (MessageEvent D F)) : Option SessionAction := tr.foldl actionAfter none

/-- Every command goes to the connection that is current at that moment. -/
def CommandsCurrent (tr : List (MessageEvent D F)) : Prop :=
  ∀ (j : ℕ) (x : MessageEvent D F) (a : SessionAction),
    tr[j]? = some x → Commands a x → currentPlatform (tr.take j) = some a.pltfm

/-- The platform is released only while no action is held, or after the last command. -/
def ReleasedUnheld (tr : List (MessageEvent D F)) : Prop :=
  ∀ (r j : ℕ) (x : MessageEvent D F) (a : SessionAction), r < j →
    tr[r]? = some (.act .safeReleaseSlamwarePlatform) → tr[j]? = some x → Commands a x →
      heldAction (tr.take r) = none

def WasCreated (a : SessionAction) (tr : List (MessageEvent D F)) : Prop :=
  ∃ (k : ℕ) (x : MessageEvent D F), tr[k]? = some x ∧ Creates a x

section Trace

variable {tr : List (MessageEvent D F)} {x : MessageEvent D F} {a : SessionAction}

@[simp] theorem currentPlatform_snoc (tr : List (MessageEvent D F)) (x : MessageEvent D F) :
    currentPlatform (tr ++ [x]) = platformAfter (currentPlatform tr) x := by
  simp [currentPlatform]

@[simp] theorem heldAction_snoc (tr : List (MessageEvent D F)) (x : MessageEvent D F) :
    heldAction (tr ++ [x]) = actionAfter (heldAction tr) x := by
  simp [heldAction]

/-- An event that makes an action the held one is its creation. -/
theorem creates_of_actionAfter {held : Option SessionAction} (hheld : held ≠ some a)
    (h : actionAfter held x = some a) : Creates a x := by
  unfold actionAfter at h
  split at h
  · split at h
    · subst h
      rfl
    · exact absurd h hheld
  · split at h
    · exact absurd h hheld
    · split_ifs at h
      exact absurd h hheld
  · exact absurd h hheld

/-- A held action was created, and has been held since. -/
theorem exists_creation (h : heldAction tr = some a) :
    ∃ k x, tr[k]? = some x ∧ Creates a x ∧ ∀ i, k < i → heldAction (tr.take i) = some a := by
  obtain ⟨k, x, hx, hbefore, hsince⟩ :=
    exists_since (P := fun held : Option SessionAction => held = some a)
      (Option.some_ne_none a).symm h
  have hafter := hsince (k + 1) (Nat.lt_succ_self k)
  rw [foldl_take_succ hx] at hafter
  exact ⟨k, x, hx, creates_of_actionAfter hbefore hafter, hsince⟩

end Trace

/-! ## Callbacks -/

/-- An action is asked for only where none is held, and a command goes through the held
one. -/
def Guard (_ : State) (tr : List (MessageEvent D F)) : Op F → Prop
  | .velocityControl _ => heldAction tr = none
  | .setVelocity a _ _ _ => heldAction tr = some a
  | _ => True

/-- A relation between the member and the held action. -/
def Member (R : Option SessionAction → Option SessionAction → Prop) (s : State)
    (tr : List (MessageEvent D F)) : Prop :=
  R s.velocityControllAction (heldAction tr)

/-- After a command that failed the member is still to be emptied. -/
def AfterFailure (e : Exn) : Option SessionAction → Option SessionAction → Prop :=
  if e.isStd then fun _ held => held = none else Eq

section Callbacks

variable {s s' : State} {tr : List (MessageEvent D F)} {action : Option SessionAction}
  {R : Option SessionAction → Option SessionAction → Prop}

theorem stable_member : Stable (system F) (Member (D := D) R) := by
  intro s tr a s' h hact
  unfold Member
  rw [heldAction_snoc]
  cases a with
  | safeReleaseSlamwarePlatform =>
      cases hact
      exact h
  | safeSetSlamwarePlatform pltfm =>
      obtain ⟨-, -, rfl⟩ := hact
      exact h

theorem wp_rclcppError {E : Exn → State → List (MessageEvent D F) → Prop} (format : String)
    (h : Member R s tr) :
    wp (system F) Guard (fun _ => Member R) E (rclcppError format) s tr := by
  apply wp_perform (o := Op.rclcppError format) stable_member h
  · exact fun _ _ _ => trivial
  · intro s tr r s' h hs
    have hs' : s' = s := hs
    unfold Member
    rw [hs', heldAction_snoc]
    exact h

theorem wp_writeVelocityControllAction (h : Member (fun _ held => held = action) s tr) :
    wp (system F) (Guard (D := D)) (fun _ => Member Eq) (fun _ => Member Eq)
      (perform (.writeVelocityControllAction action)) s tr := by
  apply wp_perform (o := Op.writeVelocityControllAction action) stable_member h
  · exact fun _ _ _ => trivial
  · intro s tr r s' h hs
    have hs' : s' = { s with velocityControllAction := action } := hs
    unfold Member
    rw [hs', heldAction_snoc]
    exact Eq.symm h

theorem wp_readVelocityControllAction (h : Member Eq s tr) :
    wp (system F) (Guard (D := D))
      (fun action => Member fun member held => member = action ∧ held = action)
      (fun _ => Member Eq) (perform .readVelocityControllAction) s tr := by
  apply wp_perform (o := Op.readVelocityControllAction) stable_member h
  · exact fun _ _ _ => trivial
  · rintro s tr r s' h ⟨rfl, rfl⟩
    unfold Member
    rw [heldAction_snoc]
    exact ⟨rfl, Eq.symm h⟩

theorem wp_setVelocity {a : SessionAction} (vx vy omega : F)
    (h : Member (fun member held => member = some a ∧ held = some a) s tr) :
    wp (system F) (Guard (D := D)) (fun _ => Member Eq) (fun e => Member (AfterFailure e))
      (setVelocity a vx vy omega) s tr := by
  apply wp_seq (R := fun (r : Except Exn Unit) => Member (match r with
    | .ok _ => Eq
    | .error e => AfterFailure e))
  · apply wp_perform (o := Op.setVelocity a vx vy omega) stable_member h
    · exact fun _ _ h => h.2
    · intro s tr r s' h hs
      have hs' : s' = s := hs
      have hmember : s.velocityControllAction = heldAction tr := h.1.trans h.2.symm
      unfold Member
      rw [hs', heldAction_snoc]
      cases r with
      | ok u => exact hmember
      | error e =>
          unfold AfterFailure
          cases hstd : e.isStd with
          | false => simpa [actionAfter, hstd] using hmember
          | true => simp [actionAfter, hstd]
  · intro r s tr h
    cases r <;> exact h

theorem wp_velocityControl (flag : VelocityControlFlag)
    (h : Member (fun member held => member = none ∧ held = none) s tr) :
    wp (system F) (Guard (D := D)) (fun action => Member fun _ held => held = action)
      (fun _ => Member Eq) (velocityControl flag) s tr := by
  apply wp_seq (R := fun (r : Except Exn (Option SessionAction)) => Member (match r with
    | .ok action => fun _ held => held = action
    | .error _ => Eq))
  · apply wp_perform (o := Op.velocityControl flag) stable_member h
    · exact fun _ _ h => h.2
    · rintro s tr r s' h ⟨-, rfl⟩
      unfold Member
      rw [heldAction_snoc]
      cases r with
      | ok action => rfl
      | error e => exact h.1.trans h.2.symm
  · intro r s tr h
    cases r <;> exact h

theorem wp_controlVelocity (flag : VelocityControlFlag) (cantConstruct cantSet : String)
    (toFloat : D → F) (msg : Twist D) (h : Member Eq s tr) :
    wp (system F) (Guard (D := D)) (fun _ => Member Eq) (fun _ => Member Eq)
      (controlVelocity flag cantConstruct cantSet toFloat msg) s tr := by
  apply wp_seq (wp_readVelocityControllAction h)
  intro action s tr h
  cases action with
  | none =>
      have hcreate : wp (system F) (Guard (D := D)) (fun _ => Member Eq) (fun _ => Member Eq) (do
          let action ← velocityControl flag
          perform (F := F) (.writeVelocityControllAction action)) s tr := by
        apply wp_seq (wp_velocityControl flag h)
        exact fun action s tr h => wp_writeVelocityControllAction h
      apply wp_tryCatch.mpr
      refine wp_mono hcreate (fun _ _ _ h => h) ?_
      intro e s tr h
      split_ifs
      · exact wp_rclcppError _ h
      · exact h
  | some a =>
      apply wp_tryCatch.mpr
      refine wp_mono (wp_setVelocity _ _ _ h) (fun _ _ _ h => h) ?_
      intro e s tr h
      unfold AfterFailure at h
      split_ifs with hstd
      · rw [if_pos hstd] at h
        apply wp_seq (wp_rclcppError cantSet h)
        exact fun _ s tr h => wp_writeVelocityControllAction h
      · rw [if_neg hstd] at h
        exact h

theorem wp_callback (toFloat : D → F) (message : Message D) (h : Member Eq s tr) :
    wp (system F) (Guard (D := D)) (fun _ => Member Eq) (fun _ => Member Eq)
      (callback toFloat message) s tr := by
  obtain ⟨cantConstruct, cantSet, hcallback⟩ := callback_eq SessionAction toFloat message.topic
  rw [callback, hcallback]
  apply wp_seq (R := fun _ => Member Eq)
  · apply wp_perform (o := Op.safeGetSlamwarePlatform) stable_member h
    · exact fun _ _ _ => trivial
    · rintro s tr r s' h ⟨-, rfl⟩
      unfold Member
      rw [heldAction_snoc]
      exact h
  intro pltfm s tr h
  cases pltfm with
  | false => exact wp_rclcppError _ h
  | true =>
      apply wp_tryCatch.mpr
      refine wp_mono (wp_controlVelocity message.topic.flag cantConstruct cantSet toFloat
        message.msg h) (fun _ _ _ h => h) ?_
      intro e s tr h
      split_ifs
      · exact wp_rclcppError _ h
      · exact h
      · exact wp_rclcppError _ h

end Callbacks

/-! ## Histories -/

/-- What the past of a server looks like: actions come from the connection that is
current, one is asked for only while none is held, commands go through the held one, and
no connection gets the number of an earlier one. -/
structure History (s : State) (tr : List (MessageEvent D F)) : Prop where
  platform_eq : s.slamwarePltfm = currentPlatform tr
  platform_lt : ∀ p, s.slamwarePltfm = some p → p < s.connections
  created_lt : ∀ (k : ℕ) (x : MessageEvent D F) (a : SessionAction),
    tr[k]? = some x → Creates a x → a.pltfm < s.connections
  created_current : ∀ (k : ℕ) (x : MessageEvent D F) (a : SessionAction),
    tr[k]? = some x → Creates a x → currentPlatform (tr.take k) = some a.pltfm
  asked : ∀ (k : ℕ) (flag : VelocityControlFlag) (r : Except Exn (Option SessionAction)),
    tr[k]? = some (.op (.velocityControl flag) r) → heldAction (tr.take k) = none
  used : ∀ (j : ℕ) (x : MessageEvent D F) (a : SessionAction),
    tr[j]? = some x → Commands a x → heldAction (tr.take j) = some a
  connected : ∀ (t p : ℕ), tr[t]? = some (.act (.safeSetSlamwarePlatform p)) →
    currentPlatform (tr.take t) = none ∧ ∀ a, WasCreated a (tr.take t) → a.pltfm < p

section History

variable {s s' : State} {tr : List (MessageEvent D F)}

theorem history_init : History (State.init) ([] : List (MessageEvent D F)) where
  platform_eq := rfl
  platform_lt _ hp := nomatch hp
  created_lt _ _ _ hx := nomatch hx
  created_current _ _ _ hx := nomatch hx
  asked _ _ _ hx := nomatch hx
  used _ _ _ hx := nomatch hx
  connected _ _ hx := nomatch hx

/-- One event more, where it creates only on the current connection, asks and commands
only as the held action allows, and connects only without a platform. -/
theorem History.snoc (h : History s tr) {x : MessageEvent D F}
    (hplatform : s'.slamwarePltfm = platformAfter s.slamwarePltfm x)
    (hlt : ∀ p, s'.slamwarePltfm = some p → p < s'.connections)
    (hle : s.connections ≤ s'.connections)
    (hcreates : ∀ a, Creates a x → s.slamwarePltfm = some a.pltfm)
    (hasks : ∀ flag r, x = .op (.velocityControl flag) r → heldAction tr = none)
    (hcommands : ∀ a, Commands a x → heldAction tr = some a)
    (hconnects : ∀ p, x = .act (.safeSetSlamwarePlatform p) →
      s.slamwarePltfm = none ∧ p = s.connections) :
    History s' (tr ++ [x]) where
  platform_eq := by
    rw [hplatform, h.platform_eq, currentPlatform_snoc]
  platform_lt := hlt
  created_lt := by
    intro k y a hy hcr
    rcases getElem?_snoc.mp hy with hy | ⟨-, rfl⟩
    · exact (h.created_lt k y a hy hcr).trans_le hle
    · exact (h.platform_lt _ (hcreates a hcr)).trans_le hle
  created_current := by
    intro k y a hy hcr
    rcases getElem?_snoc.mp hy with hy | ⟨rfl, rfl⟩
    · rw [take_snoc hy]
      exact h.created_current k y a hy hcr
    · rw [List.take_left, ← h.platform_eq]
      exact hcreates a hcr
  asked := by
    intro k flag r hy
    rcases getElem?_snoc.mp hy with hy | ⟨rfl, hx⟩
    · rw [take_snoc hy]
      exact h.asked k flag r hy
    · rw [List.take_left]
      exact hasks flag r hx.symm
  used := by
    intro j y a hy hcm
    rcases getElem?_snoc.mp hy with hy | ⟨rfl, rfl⟩
    · rw [take_snoc hy]
      exact h.used j y a hy hcm
    · rw [List.take_left]
      exact hcommands a hcm
  connected := by
    intro t p hp
    rcases getElem?_snoc.mp hp with hp | ⟨rfl, hx⟩
    · rw [take_snoc hp]
      exact h.connected t p hp
    · obtain ⟨hnone, rfl⟩ := hconnects p hx.symm
      rw [List.take_left, ← h.platform_eq]
      refine ⟨hnone, ?_⟩
      rintro a ⟨k, y, hy, hcr⟩
      exact h.created_lt k y a hy hcr

theorem History.op (h : History s tr) {o : Op F} {r : Ret F o} (hguard : Guard s tr o)
    (hr : (system F).handle s o r s') : History s' (tr ++ [.op o r]) := by
  have hmembers : s'.slamwarePltfm = s.slamwarePltfm ∧ s'.connections = s.connections := by
    cases o with
    | writeVelocityControllAction action =>
        cases hr
        exact ⟨rfl, rfl⟩
    | setVelocity a vx vy omega =>
        cases hr
        exact ⟨rfl, rfl⟩
    | rclcppError format =>
        cases hr
        exact ⟨rfl, rfl⟩
    | safeGetSlamwarePlatform => rw [hr.2]; exact ⟨rfl, rfl⟩
    | readVelocityControllAction => rw [hr.2]; exact ⟨rfl, rfl⟩
    | velocityControl flag => rw [hr.2]; exact ⟨rfl, rfl⟩
  refine h.snoc hmembers.1 ?_ hmembers.2.ge ?_ ?_ ?_ nofun
  · rw [hmembers.1, hmembers.2]
    exact h.platform_lt
  · intro a hcr
    cases o with
    | velocityControl flag => exact (hr.1 a hcr).2
    | _ => exact hcr.elim
  · intro flag r' hx
    cases hx
    exact hguard
  · intro a hcm
    cases o with
    | setVelocity a' vx vy omega =>
        have ha : a' = a := hcm
        subst ha
        exact hguard
    | _ => exact hcm.elim

theorem History.act (h : History s tr) {a : Act} (ha : (system F).act s a s') :
    History s' (tr ++ [.act a]) := by
  cases a with
  | safeReleaseSlamwarePlatform =>
      cases ha
      exact h.snoc rfl nofun le_rfl (fun _ => False.elim) nofun (fun _ => False.elim) nofun
  | safeSetSlamwarePlatform p =>
      obtain ⟨hnone, rfl, rfl⟩ := ha
      refine h.snoc rfl ?_ (Nat.le_succ _) (fun _ => False.elim) nofun (fun _ => False.elim) ?_
      · intro p hp
        cases hp
        exact Nat.lt_succ_self _
      · intro p hp
        cases hp
        exact ⟨hnone, rfl⟩

theorem History.start (h : History s tr) (j : Message D) : History s (tr ++ [.start j]) :=
  h.snoc rfl h.platform_lt le_rfl (fun _ => False.elim) nofun (fun _ => False.elim) nofun

/-! ## Current and stale actions -/

/-- Without a release the connection stays what it is. -/
theorem History.current_of_noRelease (h : History s tr) {k j p : ℕ}
    (hk : currentPlatform (tr.take k) = some p)
    (hno : ∀ r, k ≤ r → r < j → tr[r]? ≠ some (.act .safeReleaseSlamwarePlatform))
    (hkj : k ≤ j) (hj : j ≤ tr.length) : currentPlatform (tr.take j) = some p := by
  induction j, hkj using Nat.le_induction with
  | base => exact hk
  | succ j hkj ih =>
      have hcur := ih (fun r h₁ h₂ => hno r h₁ (Nat.lt_succ_of_lt h₂)) (Nat.le_of_succ_le hj)
      obtain ⟨x, hx⟩ : ∃ x, tr[j]? = some x := ⟨_, List.getElem?_eq_getElem hj⟩
      rw [currentPlatform, foldl_take_succ hx, ← currentPlatform, hcur]
      cases x with
      | op o r => rfl
      | start m => rfl
      | act a =>
          cases a with
          | safeReleaseSlamwarePlatform => exact absurd hx (hno j hkj (Nat.lt_succ_self j))
          | safeSetSlamwarePlatform q =>
              have hnone := (h.connected j q hx).1
              rw [hcur] at hnone
              cases hnone

/-- After a release the connection of an earlier action never comes back. -/
theorem History.stale_of_release (h : History s tr) {r j : ℕ} {a : SessionAction}
    (hcreated : WasCreated a (tr.take r))
    (hr : tr[r]? = some (.act .safeReleaseSlamwarePlatform)) (hrj : r < j) (hj : j ≤ tr.length) :
    currentPlatform (tr.take j) ≠ some a.pltfm := by
  induction j, hrj using Nat.le_induction with
  | base =>
      rw [currentPlatform, foldl_take_succ hr]
      exact nofun
  | succ j hrj ih =>
      have hcur := ih (Nat.le_of_succ_le hj)
      obtain ⟨y, hy⟩ : ∃ y, tr[j]? = some y := ⟨_, List.getElem?_eq_getElem hj⟩
      rw [currentPlatform, foldl_take_succ hy, ← currentPlatform]
      cases y with
      | op o r => exact hcur
      | start m => exact hcur
      | act b =>
          cases b with
          | safeReleaseSlamwarePlatform => exact nofun
          | safeSetSlamwarePlatform q =>
              obtain ⟨k, x, hx, hcreates⟩ := hcreated
              have hlt := (h.connected j q hy).2 a
                ⟨k, x, getElem?_take_of_le hx (Nat.le_of_succ_le hrj), hcreates⟩
              intro heq
              exact hlt.ne' (Option.some.inj heq)

/-- A held action stays the held one until there is a command through it. -/
theorem History.held_or_commanded (h : History s tr) {r j : ℕ} {a : SessionAction}
    (hheld : heldAction (tr.take r) = some a) (hrj : r ≤ j) (hj : j ≤ tr.length) :
    heldAction (tr.take j) = some a ∨
      ∃ l y, r ≤ l ∧ l < j ∧ tr[l]? = some y ∧ Commands a y := by
  induction j, hrj using Nat.le_induction with
  | base => exact Or.inl hheld
  | succ j hrj ih =>
      rcases ih (Nat.le_of_succ_le hj) with hstill | ⟨l, y, hrl, hlj, hy, hcommands⟩
      · obtain ⟨x, hx⟩ : ∃ x, tr[j]? = some x := ⟨_, List.getElem?_eq_getElem hj⟩
        by_cases hcommands : Commands a x
        · exact Or.inr ⟨j, x, hrj, Nat.lt_succ_self j, hx, hcommands⟩
        · rw [heldAction, foldl_take_succ hx, ← heldAction, hstill]
          cases x with
          | op o r =>
              cases o with
              | velocityControl flag =>
                  have hnone := h.asked j flag r hx
                  rw [hstill] at hnone
                  cases hnone
              | setVelocity a' vx vy omega =>
                  have hused := h.used j _ a' hx rfl
                  rw [hstill] at hused
                  exact absurd (Option.some.inj hused).symm hcommands
              | _ => exact Or.inl rfl
          | start m => exact Or.inl rfl
          | act b => exact Or.inl rfl
      · exact Or.inr ⟨l, y, hrl, Nat.lt_succ_of_lt hlj, hy, hcommands⟩

theorem History.releasedUnheld_iff (h : History s tr) :
    CommandsCurrent tr ↔ ReleasedUnheld tr := by
  constructor
  · intro hcurrent r j x a' hrj hr hx hcommands
    cases hheld : heldAction (tr.take r) with
    | none => rfl
    | some a =>
        -- The next command goes through the action that was held when the platform went.
        obtain ⟨k, y, hy, hcreates, -⟩ := exists_creation hheld
        have hstale : ∀ l z, r < l → tr[l]? = some z → ¬Commands a z := fun l z hrl hz hcm =>
          h.stale_of_release ⟨k, y, hy, hcreates⟩ hr hrl (lt_length hz).le (hcurrent l z a hz hcm)
        rcases h.held_or_commanded hheld hrj.le (lt_length hx).le with hstill | hcommanded
        · have hused := h.used j x a' hx hcommands
          rw [hstill] at hused
          cases hused
          exact absurd hcommands (hstale j x hrj hx)
        · obtain ⟨l, z, hrl, -, hz, hcm⟩ := hcommanded
          rcases hrl.eq_or_lt with rfl | hrl
          · rw [hr] at hz
            cases hz
            exact hcm.elim
          · exact absurd hcm (hstale l z hrl hz)
  · intro hunheld j x a hx hcommands
    obtain ⟨k, y, hy, hcreates, hsince⟩ := exists_creation (h.used j x a hx hcommands)
    rw [List.getElem?_take] at hy
    split_ifs at hy with hkj
    refine h.current_of_noRelease (h.created_current k y a hy hcreates) ?_ hkj.le (lt_length hx).le
    intro r hkr hrj hr
    rcases hkr.eq_or_lt with rfl | hkr
    · rw [hy] at hr
      cases hr
      exact hcreates
    · have hheld := hsince r hkr
      rw [List.take_take, min_eq_left hrj.le, hunheld r j x a hrj hr hx hcommands] at hheld
      cases hheld

end History

/-! ## Every run -/

theorem history_reachable {toFloat : D → F} {c : MessageConfig D F}
    (h : Reachable (system F) (callback toFloat) MessageConfig.init c) :
    History c.state c.trace := by
  have hwp : ∀ {c : MessageConfig D F},
      Reachable (system F) (callback toFloat) MessageConfig.init c →
      wp (system F) Guard (fun _ => Member Eq) (fun _ => Member Eq) c.prog c.state c.trace := by
    intro c h
    refine wp_reachable (fun _ => stable_member) (fun _ => stable_member) ?_ ?_ h
    · intro message s tr hidle
      have hmember : Member Eq s tr := by
        rcases hidle with ⟨_, h⟩ | ⟨_, h⟩
        · exact h
        · exact h
      apply wp_callback
      unfold Member
      rw [heldAction_snoc]
      exact hmember
    · exact rfl
  refine invariant_reachable (G := Guard) history_init ?_ ?_ ?_ ?_ h
  · intro c hreach o k hprog
    have hc := hwp hreach
    rw [hprog] at hc
    exact (hc _ _ .refl).1
  · exact fun s tr o r s' h hguard hr => h.op hguard hr
  · exact fun s tr a s' h ha => h.act ha
  · exact fun s tr j h => h.start j

/-- In every run the commands go to the current connection exactly if the platform is
released only while no action is held, or after the last command. -/
theorem commandsCurrent_iff {toFloat : D → F} {c : MessageConfig D F}
    (h : Reachable (system F) (callback toFloat) MessageConfig.init c) :
    CommandsCurrent c.trace ↔ ReleasedUnheld c.trace :=
  (history_reachable h).releasedUnheld_iff

end Model

/-! ## A stale action -/

/-- A robot that grants every action and takes every command. -/
def willing : (o : Op ℤ) → State → Ret ℤ o × State
  | .safeGetSlamwarePlatform, s => (s.slamwarePltfm.isSome, s)
  | .readVelocityControllAction, s => (s.velocityControllAction, s)
  | .writeVelocityControllAction action, s => ((), { s with velocityControllAction := action })
  | .velocityControl flag, s => (.ok (s.slamwarePltfm.map fun p => ⟨flag, p⟩), s)
  | .setVelocity _ _ _ _, s => (.ok (), s)
  | .rclcppError _, s => ((), s)

theorem handle_willing (s : State) (o : Op ℤ) :
    (system ℤ).handle s o (willing o s).1 (willing o s).2 := by
  cases o with
  | velocityControl flag =>
      refine ⟨fun a ha => ?_, rfl⟩
      obtain ⟨p, hp, rfl⟩ := Option.map_eq_some_iff.mp (Except.ok.inj ha)
      exact ⟨rfl, hp⟩
  | safeGetSlamwarePlatform => exact ⟨rfl, rfl⟩
  | readVelocityControllAction => exact ⟨rfl, rfl⟩
  | _ => rfl

def forward : Message ℤ := ⟨.velControlTopic, ⟨⟨1, 0, 0⟩, ⟨0, 0, 0⟩⟩⟩

/-- The configuration after `n` operations of the running callback. -/
def afterOps (n : ℕ) (c : MessageConfig ℤ ℤ) : MessageConfig ℤ ℤ :=
  (c.play willing (fun _ s => s) (callback id) (List.replicate n .op)).getD c

def onMessage (c : MessageConfig ℤ ℤ) : MessageConfig ℤ ℤ :=
  ⟨callback id forward, c.state, c.trace ++ [.start forward]⟩

def onConnect (pltfm : ℕ) (c : MessageConfig ℤ ℤ) : MessageConfig ℤ ℤ :=
  ⟨c.prog, { c.state with slamwarePltfm := some pltfm, connections := pltfm + 1 },
    c.trace ++ [.act (.safeSetSlamwarePlatform pltfm)]⟩

def onRelease (c : MessageConfig ℤ ℤ) : MessageConfig ℤ ℤ :=
  ⟨c.prog, { c.state with slamwarePltfm := none },
    c.trace ++ [.act .safeReleaseSlamwarePlatform]⟩

/-- A message creates an action on the first connection. -/
def created : MessageConfig ℤ ℤ := afterOps 4 (onMessage (onConnect 0 MessageConfig.init))

/-- Another message commands through it. -/
def commanded : MessageConfig ℤ ℤ := afterOps 3 (onMessage created)

/-- The same message after a reconnect. -/
def commandedLate : MessageConfig ℤ ℤ :=
  afterOps 3 (onMessage (onConnect 1 (onRelease created)))

theorem reachable_afterOps {c₀ c : MessageConfig ℤ ℤ} (n : ℕ)
    (hplay : (c.play willing (fun _ s => s) (callback id) (List.replicate n .op)).isSome)
    (h : Reachable (system ℤ) (callback id) c₀ c) :
    Reachable (system ℤ) (callback id) c₀ (afterOps n c) :=
  h.trans (reachable_ops handle_willing hplay)

theorem reachable_onMessage {c₀ c : MessageConfig ℤ ℤ} (hdone : c.prog.Done)
    (h : Reachable (system ℤ) (callback id) c₀ c) :
    Reachable (system ℤ) (callback id) c₀ (onMessage c) :=
  h.tail (.start forward hdone)

theorem reachable_onConnect {c₀ c : MessageConfig ℤ ℤ} (hnone : c.state.slamwarePltfm = none)
    (h : Reachable (system ℤ) (callback id) c₀ c) :
    Reachable (system ℤ) (callback id) c₀ (onConnect c.state.connections c) :=
  h.tail (.act ⟨hnone, rfl, rfl⟩)

theorem reachable_onRelease {c₀ c : MessageConfig ℤ ℤ}
    (h : Reachable (system ℤ) (callback id) c₀ c) :
    Reachable (system ℤ) (callback id) c₀ (onRelease c) :=
  h.tail (.act rfl)

theorem reachable_created :
    Reachable (system ℤ) (callback id) MessageConfig.init created :=
  reachable_afterOps 4 rfl (reachable_onMessage trivial (reachable_onConnect rfl .refl))

theorem reachable_commanded :
    Reachable (system ℤ) (callback id) MessageConfig.init commanded :=
  reachable_afterOps 3 rfl (reachable_onMessage trivial reachable_created)

theorem reachable_commandedLate :
    Reachable (system ℤ) (callback id) MessageConfig.init commandedLate := by
  have hconnect := reachable_onConnect rfl (reachable_onRelease reachable_created)
  exact reachable_afterOps 3 rfl (reachable_onMessage trivial hconnect)

/-- The drive command of the second message goes to the connection that was
released. -/
theorem command_to_released : ¬ ∀ (D F : Type) (toFloat : D → F) (c : MessageConfig D F),
    Reachable (system F) (callback toFloat) MessageConfig.init c → CommandsCurrent c.trace := by
  intro h
  have hcurrent := h ℤ ℤ id commandedLate reachable_commandedLate 11
    (.op (.setVelocity ⟨.monitoredByLocalizationQuality, 0⟩ 1 0 0) (.ok ()))
    ⟨.monitoredByLocalizationQuality, 0⟩ rfl rfl
  exact absurd hcurrent (by decide)

theorem noRelease_commanded (r : ℕ) :
    commanded.trace[r]? ≠ some (.act .safeReleaseSlamwarePlatform) := by
  intro hr
  have hmem := List.mem_of_getElem? hr
  have htrace : commanded.trace =
      [.act (.safeSetSlamwarePlatform 0), .start forward,
        .op .safeGetSlamwarePlatform true, .op .readVelocityControllAction none,
        .op (.velocityControl .monitoredByLocalizationQuality)
          (.ok (some ⟨.monitoredByLocalizationQuality, 0⟩)),
        .op (.writeVelocityControllAction (some ⟨.monitoredByLocalizationQuality, 0⟩)) (),
        .start forward, .op .safeGetSlamwarePlatform true,
        .op .readVelocityControllAction (some ⟨.monitoredByLocalizationQuality, 0⟩),
        .op (.setVelocity ⟨.monitoredByLocalizationQuality, 0⟩ 1 0 0) (.ok ())] := rfl
  simp [htrace] at hmem

/-- Without a reconnect the same message is served by the current connection. -/
theorem commandsCurrent_commanded : CommandsCurrent commanded.trace :=
  (commandsCurrent_iff reachable_commanded).mpr
    fun r _ _ _ _ hr _ _ => absurd hr (noRelease_commanded r)

end Ros2WsDemo.Velocity.Sessions
