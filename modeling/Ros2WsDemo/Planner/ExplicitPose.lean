import Ros2WsDemo.Planner.NoRaise

/-!
# Poses that a plan spells out

Whether `_normalize_pose_input` understands both notations of a pose and refuses everything
else.  The constructors of the ROS 2 messages take keyword arguments only, and the coordinates
are passed to them by position.
-/

namespace Ros2WsDemo.Planner

open Python

variable {F : Type} [Arithmetic F] (msgs : Messages F)

/-! ## The argument of the method -/

structure PoseStamped (F : Type) where
  pose : GeoPose F

/-- A decoded value, a message, or a dictionary with either under `pose`. -/
inductive PoseData (F : Type) where
  | value (v : Value F)
  | geoPose (p : GeoPose F)
  | poseStamped (s : PoseStamped F)
  | under (d : PoseData F)

def normalizePoseData : PoseData F → Except Exn (Option (GeoPose F))
  | .value v => normalizePoseInput msgs v
  | .geoPose p => .ok (some p)
  | .poseStamped s => .ok (some s.pose)
  | .under d => normalizePoseData d

/-- Called with positional arguments, the constructors raise. -/
def keywordOnly : Messages F where
  point _ _ _ := .error .typeError
  quaternion _ _ _ _ := .error .typeError

/-! ## What should hold -/

def IsNumber : Value F → Prop
  | .int _ | .float _ => True
  | _ => False

/-- The coordinates in the order of the sequence notation. -/
def GeoPose.coordinates {α : Type} (p : GeoPose α) : List α :=
  [p.position.x, p.position.y, p.position.z, p.orientation.x, p.orientation.y, p.orientation.z,
    p.orientation.w]

/-- A value that denotes a pose, with the coordinates as they are written. -/
inductive Denotes : Value F → GeoPose (Value F) → Prop
  | dict {entries pos ori : List (Str × Value F)} {p : GeoPose (Value F)}
      (hpose : entries.lookup (Str.ofString "pose") = none)
      (hposition : entries.lookup (Str.ofString "position") = some (.dict pos))
      (hx : pos.lookup (Str.ofString "x") = some p.position.x)
      (hy : pos.lookup (Str.ofString "y") = some p.position.y)
      (hz : pos.lookup (Str.ofString "z") = some p.position.z)
      (horientation : entries.lookup (Str.ofString "orientation") = some (.dict ori))
      (hox : ori.lookup (Str.ofString "x") = some p.orientation.x)
      (hoy : ori.lookup (Str.ofString "y") = some p.orientation.y)
      (hoz : ori.lookup (Str.ofString "z") = some p.orientation.z)
      (how : ori.lookup (Str.ofString "w") = some p.orientation.w)
      (hnumbers : ∀ v ∈ p.coordinates, IsNumber v) : Denotes (.dict entries) p
  | list {p : GeoPose (Value F)} (hnumbers : ∀ v ∈ p.coordinates, IsNumber v) :
      Denotes (.list p.coordinates) p
  | pose {entries : List (Str × Value F)} {inner : Value F} {p : GeoPose (Value F)}
      (hpose : entries.lookup (Str.ofString "pose") = some inner) (hinner : Denotes inner p) :
      Denotes (.dict entries) p

namespace PoseData

def Denotes : PoseData F → GeoPose (Value F) → Prop
  | value v, p => Planner.Denotes v p
  | under d, p => d.Denotes p
  | _, _ => False

/-- The pose object, if the argument is or contains one. -/
def given : PoseData F → Option (GeoPose F)
  | value _ => none
  | geoPose p => some p
  | poseStamped s => some s.pose
  | under d => d.given

end PoseData

/-- A pose that is denoted is returned, with the coordinates that are written; anything else
gives nothing or the pose object itself, without an exception. -/
structure Understands (d : PoseData F) : Prop where
  denoted : ∀ p, d.Denotes p → ∃ q : GeoPose F, normalizePoseData msgs d = .ok (some q) ∧
    List.Forall₂ (fun v x => v.toFloat = .ok x) p.coordinates q.coordinates
  other : (∀ p, ¬d.Denotes p) → ∃ r, normalizePoseData msgs d = .ok r ∧ (r = none ∨ r = d.given)

/-! ## What raises -/

/-- The value behind all the keys `pose`. -/
def innermost : Value F → Value F
  | .dict entries =>
      match _h : entries.lookup (Str.ofString "pose") with
      | some inner => innermost inner
      | none => .dict entries
  | v => v
  termination_by v => sizeOf v
  decreasing_by exact sizeOf_lookup_lt (by assumption)

def itemsPosition : List (Value F) → List (Value F)
  | [x, y, z, _, _, _, _] => [x, y, z]
  | _ => []

/-- What `float` is applied to for the position; there is nothing to be had from a position
that is not a dictionary. -/
def positionValues : Value F → Option (List (Value F))
  | .dict entries =>
      match (entries.lookup (Str.ofString "position")).getD (.dict []) with
      | .dict pos => some [(pos.lookup (Str.ofString "x")).getD (.float 0.0),
          (pos.lookup (Str.ofString "y")).getD (.float 0.0),
          (pos.lookup (Str.ofString "z")).getD (.float 0.0)]
      | _ => none
  | v => some ((sequenceItems v).elim [] itemsPosition)

/-- Converted one after the other, the values end with an exception that is caught, or with
none. -/
def Readable : List (Value F) → Prop
  | [] => True
  | v :: vs =>
      match v.toFloat with
      | .ok _ => Readable vs
      | .error e => e.isTypeOrValueError = true

def Harmless (v : Value F) : Prop :=
  ∃ values, positionValues (innermost v) = some values ∧ Readable values

def PoseData.Harmless : PoseData F → Prop
  | value v => Planner.Harmless v
  | under d => d.Harmless
  | _ => True

/-! ## Following the keys -/

theorem normalizePoseInput_pose {entries : List (Str × Value F)} {inner : Value F}
    (h : entries.lookup (Str.ofString "pose") = some inner) :
    normalizePoseInput msgs (.dict entries) = normalizePoseInput msgs inner := by
  rw [normalizePoseInput]
  split
  · rename_i hinner
    rw [Option.some.inj (h.symm.trans hinner)]
  · rename_i hnone
    cases h.symm.trans hnone

theorem normalizePoseInput_dict {entries : List (Str × Value F)}
    (h : entries.lookup (Str.ofString "pose") = none) :
    normalizePoseInput msgs (.dict entries) = poseOfDict msgs entries := by
  rw [normalizePoseInput]
  split
  · rename_i hsome
    cases h.symm.trans hsome
  · rfl

theorem normalizePoseInput_items {v : Value F} (h : ∀ entries, v ≠ .dict entries) :
    normalizePoseInput msgs v = (sequenceItems v).elim (.ok none) (poseOfItems msgs) := by
  rw [normalizePoseInput]
  exact h

/-- The value at the end of the keys is what is normalised. -/
theorem normalizePoseInput_innermost (v : Value F) :
    normalizePoseInput msgs v = normalizePoseInput msgs (innermost v) := by
  fun_induction innermost v with
  | case1 entries inner hpose ih => rw [normalizePoseInput_pose msgs hpose, ih]
  | case2 entries hpose => rfl
  | case3 v hdict => rfl

omit [Arithmetic F] in
theorem innermost_eq_dict {v : Value F} {entries : List (Str × Value F)}
    (h : innermost v = .dict entries) : entries.lookup (Str.ofString "pose") = none := by
  fun_induction innermost v with
  | case1 entries' inner hpose ih => exact ih h
  | case2 entries' hpose =>
      cases h
      exact hpose
  | case3 v hdict => exact (hdict entries h).elim

/-- If the constructors took the coordinates by position, every pose that is denoted would be
understood, the same in both notations. -/
theorem normalizePoseInput_positional {v : Value F} {p : GeoPose (Value F)} {q : GeoPose F}
    (h : Denotes v p)
    (hread : List.Forall₂ (fun v x => v.toFloat = .ok x) p.coordinates q.coordinates) :
    normalizePoseInput plainMessages v = .ok (some q) := by
  induction h with
  | dict hpose hposition hx hy hz horientation hox hoy hoz how hnumbers =>
      simp only [GeoPose.coordinates, List.forall₂_cons] at hread
      rw [normalizePoseInput_dict _ hpose, poseOfDict]
      simp [hposition, horientation, Value.getOr, hx, hy, hz, hox, hoy, hoz, how, hread, orNone,
        plainMessages, bind, Except.bind, pure, Except.pure]
  | list hnumbers =>
      simp only [GeoPose.coordinates, List.forall₂_cons] at hread
      rw [normalizePoseInput_items _ (by simp), GeoPose.coordinates, sequenceItems,
        Option.elim_some, poseOfItems]
      simp [hread, orNone, plainMessages, bind, Except.bind, pure, Except.pure]
  | pose hpose hinner ih => rw [normalizePoseInput_pose _ hpose, ih hread]

/-! ## Constructors that take keyword arguments only -/

/-- The position is never built. -/
theorem orNone_point {α : Type} (x y z : Value F) (rest : Point F → Except Exn α) :
    let result := orNone do
      let position ← keywordOnly.point (← x.toFloat) (← y.toFloat) (← z.toFloat)
      rest position
    (Readable [x, y, z] → result = .ok none) ∧
      (¬Readable [x, y, z] → ∃ e, result = .error e) := by
  have hcaught (e : Exn) : (e.isTypeOrValueError = true →
      orNone (.error e : Except Exn α) = .ok none) ∧
      (¬e.isTypeOrValueError = true → ∃ e', orNone (.error e : Except Exn α) = .error e') :=
    ⟨fun h => if_pos h, fun h => ⟨e, if_neg h⟩⟩
  unfold Readable Readable Readable Readable
  cases x.toFloat with
  | error e => exact hcaught e
  | ok a =>
      cases y.toFloat with
      | error e => exact hcaught e
      | ok b =>
          cases z.toFloat with
          | error e => exact hcaught e
          | ok c => exact ⟨fun _ => rfl, fun h => (h trivial).elim⟩

theorem poseOfDict_keywordOnly {entries pos : List (Str × Value F)}
    (h : (entries.lookup (Str.ofString "position")).getD (.dict []) = .dict pos) :
    let values := [(pos.lookup (Str.ofString "x")).getD (.float 0.0),
      (pos.lookup (Str.ofString "y")).getD (.float 0.0),
      (pos.lookup (Str.ofString "z")).getD (.float 0.0)]
    (Readable values → poseOfDict keywordOnly entries = .ok none) ∧
      (¬Readable values → ∃ e, poseOfDict keywordOnly entries = .error e) := by
  unfold poseOfDict
  rw [h]
  exact orNone_point _ _ _ _

theorem poseOfItems_keywordOnly (xs : List (Value F)) :
    (Readable (itemsPosition xs) → poseOfItems keywordOnly xs = .ok none) ∧
      (¬Readable (itemsPosition xs) → ∃ e, poseOfItems keywordOnly xs = .error e) := by
  unfold itemsPosition
  split
  · exact orNone_point _ _ _ _
  · rename_i hlength
    have hnone : poseOfItems keywordOnly xs = .ok none := by
      unfold poseOfItems
      split
      · exact (hlength _ _ _ _ _ _ _ rfl).elim
      · rfl
    exact ⟨fun _ => hnone, fun h => (h trivial).elim⟩

/-- The method returns nothing or raises. -/
theorem normalizePoseInput_keywordOnly (v : Value F) :
    (Harmless v → normalizePoseInput keywordOnly v = .ok none) ∧
      (¬Harmless v → ∃ e, normalizePoseInput keywordOnly v = .error e) := by
  rw [normalizePoseInput_innermost]
  unfold Harmless positionValues
  split
  · rename_i entries hinner
    rw [hinner, normalizePoseInput_dict _ (innermost_eq_dict hinner)]
    split
    · rename_i pos hposition
      simpa using poseOfDict_keywordOnly hposition
    · rename_i hposition
      have hraises : poseOfDict keywordOnly entries = .error .attributeError := by
        unfold poseOfDict
        cases hpos : (entries.lookup (Str.ofString "position")).getD (.dict []) with
        | dict pos => exact (hposition pos hpos).elim
        | _ => rfl
      simp [hraises]
  · rename_i hdict
    rw [normalizePoseInput_items _ hdict]
    cases sequenceItems (innermost v) with
    | none => simp [Readable]
    | some xs => simpa using poseOfItems_keywordOnly xs

theorem normalizePoseData_keywordOnly (d : PoseData F) :
    (d.Harmless → normalizePoseData keywordOnly d = .ok d.given) ∧
      (¬d.Harmless → ∃ e, normalizePoseData keywordOnly d = .error e) := by
  induction d with
  | value v => exact normalizePoseInput_keywordOnly v
  | under d ih => exact ih
  | _ => exact ⟨fun _ => rfl, fun h => (h trivial).elim⟩

omit [Arithmetic F] in
theorem PoseData.given_of_denotes (d : PoseData F) {p : GeoPose (Value F)} (h : d.Denotes p) :
    d.given = none := by
  induction d with
  | value v => rfl
  | under d ih => exact ih h
  | _ => exact h.elim

/-- No pose that is denoted comes out. -/
theorem Understands.not_denotes {d : PoseData F} (h : Understands keywordOnly d)
    (p : GeoPose (Value F)) : ¬d.Denotes p := by
  intro hp
  obtain ⟨q, hq, -⟩ := h.denoted p hp
  obtain ⟨hharmless, hraises⟩ := normalizePoseData_keywordOnly d
  by_cases hd : d.Harmless
  · have hnone := hharmless hd
    rw [d.given_of_denotes hp] at hnone
    cases hq.symm.trans hnone
  · obtain ⟨e, he⟩ := hraises hd
    cases hq.symm.trans he

def waypoint : Value Exact :=
  .dict [("position", .dict [("x", .int 1), ("y", .int 2), ("z", .int 0)]),
    ("orientation", .dict [("x", .int 0), ("y", .int 0), ("z", .int 0), ("w", .int 1)])]

theorem denotes_waypoint :
    Denotes waypoint ⟨⟨.int 1, .int 2, .int 0⟩, ⟨.int 0, .int 0, .int 0, .int 1⟩⟩ :=
  .dict rfl rfl rfl rfl rfl rfl rfl rfl rfl rfl (by simp [GeoPose.coordinates, IsNumber])

end Ros2WsDemo.Planner
