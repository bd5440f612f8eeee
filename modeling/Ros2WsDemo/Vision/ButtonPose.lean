import Mathlib.Data.Rat.Floor
import Ros2WsDemo.Lib.ExceptState
import Ros2WsDemo.Vision.DepthCloud

/-!
# The pose of a button

`run_yolo` with what it calls: the box of the only detection of the class, the pixel at its
centre, and the matrix that carries the point of this pixel.  A pixel without depth is
reported as `None`, and `None` is written into the matrix.
-/

namespace Ros2WsDemo.ControlHost

open ExceptState Numpy

structure BBox (K : Type) where
  x1 : K
  y1 : K
  x2 : K
  y2 : K
  deriving DecidableEq

/-- An entry of `boxes`. -/
structure Detection (K : Type) where
  cls : K
  xyxy : BBox K
  deriving DecidableEq

variable {K : Type} [Field K] [LinearOrder K]

namespace BBox

def buttonX (bbox : BBox K) : K := (bbox.x2 + bbox.x1) / (2 : ℕ)

def buttonY (bbox : BBox K) : K := (bbox.y1 + bbox.y2) / (2 : ℕ)

end BBox

/-! ## `Ball` -/

abbrev DepthImage (K : Type) := Matrix (Fin 480) (Fin 640) K

def buttonIntrinsic : Matrix (Fin 3) (Fin 3) K :=
  !![((604716 : ℕ) : K) / ((1000 : ℕ) : K), 0, ((322682 : ℕ) : K) / ((1000 : ℕ) : K);
    0, ((603582 : ℕ) : K) / ((1000 : ℕ) : K), ((244672 : ℕ) : K) / ((1000 : ℕ) : K);
    0, 0, 1]

section Predictor

variable [FloorRing K]

/-- `int(x)`: rounded towards zero. -/
def toInt (x : K) : ℤ := if 0 ≤ x then ⌊x⌋ else ⌈x⌉

/-- `none` is the pair `(None, None)`. -/
def getPosition (depImage : DepthImage K) (bboxPrompt : BBox K) :
    Except Python.Exn (Option (List (Point K))) := do
  let mask : DepthImage K := Matrix.of fun _ _ => 0
  let mask ← setItem mask (toInt bboxPrompt.buttonY) (toInt bboxPrompt.buttonX) 1
  let depImage : DepthImage K := Matrix.of fun i j => mask i j * depImage i j
  if (← amax (flatten depImage)) ≤ 0 then
    return none
  let centroid := dep2pclFunc depImage buttonIntrinsic
  return some centroid

/-! ## `EE_manipulator` -/

/-- `torch.where(xs == a)[0]` -/
def whereEq (xs : List K) (a : K) : List ℕ :=
  (xs.zipIdx.filter fun p => decide (p.1 = a)).map Prod.snd

/-- `t.item()` -/
def item : List ℕ → Except Python.Exn ℕ
  | [i] => .ok i
  | xs => .error (.runtimeError
      ("a Tensor with " ++ toString xs.length ++ " elements cannot be converted to Scalar"))

def targetBbox (boxes : List (Detection K)) (target : K) : Except Python.Exn (BBox K) := do
  let targetIdx ← item (whereEq (boxes.map Detection.cls) target)
  match boxes[targetIdx]? with
  | some box => return box.xyxy
  | none => throw .indexError

/-- What `infer` returns; the position of the card only if it is asked for. -/
structure Inferred (K : Type) where
  buttonPosition : Option (List (Point K))
  cardPosition : Option (Option (List (Point K)))
  cls : List K

def infer (dep : DepthImage K) (boxes : List (Detection K)) (target : K) (needCard : Bool) :
    Except Python.Exn (Inferred K) := do
  let buttonPosition ← getPosition dep (← targetBbox boxes target)
  if needCard then
    let cardPosition ← getPosition dep (← targetBbox boxes (6 : ℕ))
    return ⟨buttonPosition, some cardPosition, boxes.map Detection.cls⟩
  else
    return ⟨buttonPosition, none, boxes.map Detection.cls⟩

/-! ## `Button_yolo` -/

/-- The matrices of the result; an entry without a value is NaN. -/
abbrev Pose (K : Type) := Matrix (Fin 4) (Fin 4) (Option K)

/-- `pose[0]` -/
def firstPoint : Option (List (Point K)) → Except Python.Exn (Option (Point K))
  | none => .ok none
  | some [] => .error .indexError
  | some (p :: _) => .ok (some p)

/-- `np.eye(4)` with `t` assigned to `[:3, 3]`. -/
def obj2eyeOf (t : Option (Point K)) : Pose K :=
  !![some 1, some 0, some 0, t.map Point.x;
    some 0, some 1, some 0, t.map Point.y;
    some 0, some 0, some 1, t.map Point.z;
    some 0, some 0, some 0, some 1]

structure YoloResult (K : Type) where
  obj2eye : Pose K
  obj2eyeCard : Option (Pose K)
  boxcls : List K

def runYolo (dep : DepthImage K) (boxes : List (Detection K)) (button : K) (needCard : Bool) :
    Except Python.Exn (YoloResult K) := do
  let inferred ← infer dep boxes button needCard
  let obj2eye := obj2eyeOf (← firstPoint inferred.buttonPosition)
  match inferred.cardPosition with
  | some cardpose =>
      let obj2eyeCard := obj2eyeOf (← firstPoint cardpose)
      return ⟨obj2eye, some obj2eyeCard, inferred.cls⟩
  | none => return ⟨obj2eye, none, inferred.cls⟩

/-! ## The pixel at the centre -/

/-- The coordinate lies in the `n`-th row or column. -/
def InPixel (n : ℕ) (x : K) : Prop := (n : K) ≤ x ∧ x < (n + 1 : ℕ)

theorem index_ok_iff {n : ℕ} {k : ℤ} : (∃ i, index n k = .ok i) ↔ -n ≤ k ∧ k < n := by
  unfold index
  split_ifs with h h'
  · exact iff_of_true ⟨_, rfl⟩ ⟨by omega, h.2⟩
  · exact iff_of_true ⟨_, rfl⟩ ⟨h'.1, by omega⟩
  · refine iff_of_false ?_ (by omega)
    rintro ⟨i, hi⟩
    cases hi

theorem toInt_of_inPixel {n : ℕ} [IsStrictOrderedRing K] {x : K} (h : InPixel n x) :
    toInt x = n := by
  have h0 : 0 ≤ x := (Nat.cast_nonneg n).trans h.1
  have hlt : x < ((n : ℤ) : K) + 1 := by
    have hhi := h.2
    push_cast at hhi ⊢
    exact hhi
  rw [toInt, if_pos h0, Int.floor_eq_iff]
  exact ⟨by exact_mod_cast h.1, hlt⟩

theorem index_of_inPixel [IsStrictOrderedRing K] {n : ℕ} {i : Fin n} {x : K} (h : InPixel i x) :
    index n (toInt x) = .ok i := by
  rw [toInt_of_inPixel h, index_of_nonneg ⟨by omega, by omega⟩]
  simp

/-! ## The position of one object -/

section Position

/-- The image in which only the pixel in row `i` and column `j` is left. -/
def masked (dep : DepthImage K) (i : Fin 480) (j : Fin 640) : DepthImage K :=
  Matrix.of fun i' j' => (if i' = i ∧ j' = j then 1 else 0) * dep i' j'

omit [LinearOrder K] [FloorRing K] in
theorem masked_apply (dep : DepthImage K) (i : Fin 480) (j : Fin 640) (p : Fin 480 × Fin 640) :
    masked dep i j p.1 p.2 = if p = (i, j) then dep i j else 0 := by
  obtain ⟨i', j'⟩ := p
  rw [masked, Matrix.of_apply]
  by_cases h : i' = i ∧ j' = j
  · obtain ⟨rfl, rfl⟩ := h
    simp
  · rw [if_neg h, zero_mul, if_neg (by simpa using h)]

omit [FloorRing K] in
theorem amax_masked (dep : DepthImage K) (i : Fin 480) (j : Fin 640) :
    ∃ m, amax (flatten (masked dep i j)) = .ok m ∧ (m ≤ 0 ↔ dep i j ≤ 0) := by
  have hall : (∀ x ∈ flatten (masked dep i j), x ≤ 0) ↔ dep i j ≤ 0 := by
    simp only [flatten_eq_map, List.forall_mem_map, masked_apply]
    constructor
    · intro h
      simpa using h (i, j) (mem_indices _)
    · intro h p _
      split_ifs
      · exact h
      · exact le_rfl
  cases hflat : flatten (masked dep i j) with
  | nil =>
      rw [flatten_eq_map, List.map_eq_nil_iff] at hflat
      exact absurd (mem_indices (i, j)) (by rw [hflat]; exact List.not_mem_nil)
  | cons x xs =>
      have hmax : amax (x :: xs) = .ok (xs.foldl max x) := rfl
      refine ⟨_, hmax, ?_⟩
      rw [amax_le_iff hmax, ← hflat, hall]

variable [IsStrictOrderedRing K]

omit [FloorRing K] in
/-- The cloud of the masked image. -/
theorem dep2pcl_masked {dep : DepthImage K} {i : Fin 480} {j : Fin 640} (h : 0 < dep i j) :
    dep2pclFunc (masked dep i j) buttonIntrinsic =
      [backProject buttonIntrinsic i j (dep i j / (1000 : ℕ))] := by
  have hscale : (0 : K) < (1000 : ℕ) := by norm_num
  have hfilter : ((indices 480 640).filter fun p =>
      decide (0 < masked dep i j p.1 p.2 / (1000 : ℕ))) = [(i, j)] := by
    rw [← filter_indices (i, j)]
    refine List.filter_congr fun p _ => ?_
    rw [Bool.eq_iff_iff, decide_eq_true_iff, beq_iff_eq, div_pos_iff_of_pos_right hscale,
      masked_apply]
    by_cases hp : p = (i, j)
    · simp [hp, h]
    · simp [hp]
  have hpixel : masked dep i j i j = dep i j := by simpa using masked_apply dep i j (i, j)
  rw [dep2pclFunc, depthToPointCloud_eq, hfilter, List.map_singleton, hpixel]

theorem getPosition_eq (dep : DepthImage K) {bbox : BBox K} {i : Fin 480} {j : Fin 640}
    (hi : index 480 (toInt bbox.buttonY) = .ok i) (hj : index 640 (toInt bbox.buttonX) = .ok j) :
    getPosition dep bbox = .ok (if 0 < dep i j then
      some [backProject buttonIntrinsic i j (dep i j / (1000 : ℕ))] else none) := by
  obtain ⟨m, hm, hle⟩ := amax_masked dep i j
  have himage : (Matrix.of fun i' j' => (Matrix.of fun i' j' => if i' = i ∧ j' = j then (1 : K)
      else (Matrix.of fun _ _ => 0 : DepthImage K) i' j' : DepthImage K) i' j' * dep i' j' :
        DepthImage K) = masked dep i j := by
    ext i' j'
    simp [masked]
  unfold getPosition
  simp only [setItem_eq hi hj, bind, Except.bind, himage, hm, hle]
  by_cases hpos : 0 < dep i j
  · rw [if_neg (not_le.mpr hpos), if_pos hpos, dep2pcl_masked hpos]
    rfl
  · rw [if_pos (not_lt.mp hpos), if_neg hpos]
    rfl

omit [IsStrictOrderedRing K] in
theorem ok_of_getPosition {dep : DepthImage K} {bbox : BBox K} {pos : Option (List (Point K))}
    (h : getPosition dep bbox = .ok pos) : ∃ i j,
      index 480 (toInt bbox.buttonY) = .ok i ∧ index 640 (toInt bbox.buttonX) = .ok j := by
  obtain ⟨mask, hmask, -⟩ := ok_bind h
  obtain ⟨i, hi, hmask⟩ := ok_bind hmask
  obtain ⟨j, hj, -⟩ := ok_bind hmask
  exact ⟨i, j, hi, hj⟩

end Position

/-! ## The only detection of a class -/

def detections (boxes : List (Detection K)) (target : K) : List (Detection K) :=
  boxes.filter fun d => decide (d.cls = target)

omit [Field K] [FloorRing K] in
theorem detections_eq_map (boxes : List (Detection K)) (target : K) :
    detections boxes target =
      (boxes.zipIdx.filter fun p => decide (p.1.cls = target)).map Prod.fst := by
  conv_lhs => rw [detections, ← List.zipIdx_map_fst 0 boxes, List.filter_map]
  rfl

omit [Field K] [FloorRing K] in
theorem whereEq_eq_map (boxes : List (Detection K)) (target : K) :
    whereEq (boxes.map Detection.cls) target =
      (boxes.zipIdx.filter fun p => decide (p.1.cls = target)).map Prod.snd := by
  rw [whereEq, List.zipIdx_map, List.filter_map, List.map_map]
  rfl

omit [Field K] [FloorRing K] in
/-- The box is found if there is one detection of the class, and not otherwise. -/
theorem targetBbox_ok_iff {boxes : List (Detection K)} {target : K} {bbox : BBox K} :
    targetBbox boxes target = .ok bbox ↔ ∃ d, detections boxes target = [d] ∧ d.xyxy = bbox := by
  rw [detections_eq_map, targetBbox, whereEq_eq_map]
  have hmem : ∀ p ∈ boxes.zipIdx.filter fun p => decide (p.1.cls = target),
      boxes[p.2]? = some p.1 :=
    fun p hp => List.mem_zipIdx_iff_getElem?.mp (List.mem_filter.mp hp).1
  generalize (boxes.zipIdx.filter fun p => decide (p.1.cls = target)) = found at hmem ⊢
  match found with
  | [] => simp [item, bind, Except.bind]
  | [p] =>
      have hbox : boxes[p.2]? = some p.1 := hmem p List.mem_cons_self
      simp [item, bind, Except.bind, hbox, pure, Except.pure]
  | p :: q :: found => simp [item, bind, Except.bind]

/-- The call takes the pixel in row `i` and column `j` for the one detection of the class. -/
def Takes (boxes : List (Detection K)) (target : K) (i : Fin 480) (j : Fin 640) : Prop :=
  ∃ d, detections boxes target = [d] ∧ index 480 (toInt d.xyxy.buttonY) = .ok i ∧
    index 640 (toInt d.xyxy.buttonX) = .ok j

/-- The point of a pixel, if it has a depth. -/
def pointAt (dep : DepthImage K) (i : Fin 480) (j : Fin 640) : Option (Point K) :=
  if 0 < dep i j then some (backProject buttonIntrinsic i j (dep i j / (1000 : ℕ))) else none

variable [IsStrictOrderedRing K]

theorem position_ok_iff {dep : DepthImage K} {boxes : List (Detection K)} {target : K}
    {pos : Option (List (Point K))} :
    (targetBbox boxes target >>= getPosition dep) = .ok pos ↔
      ∃ i j, Takes boxes target i j ∧ pos = (pointAt dep i j).map fun p => [p] := by
  constructor
  · intro h
    obtain ⟨bbox, hbbox, hpos⟩ := ok_bind h
    obtain ⟨d, hd, rfl⟩ := targetBbox_ok_iff.mp hbbox
    obtain ⟨i, j, hi, hj⟩ := ok_of_getPosition hpos
    refine ⟨i, j, ⟨d, hd, hi, hj⟩, ?_⟩
    rw [getPosition_eq dep hi hj, Except.ok.injEq] at hpos
    rw [← hpos, pointAt]
    split_ifs <;> rfl
  · rintro ⟨i, j, ⟨d, hd, hi, hj⟩, rfl⟩
    rw [targetBbox_ok_iff.mpr ⟨d, hd, rfl⟩]
    refine (getPosition_eq dep hi hj).trans ?_
    rw [pointAt]
    split_ifs <;> rfl

omit [Field K] [LinearOrder K] [FloorRing K] [IsStrictOrderedRing K] in
theorem firstPoint_map (t : Option (Point K)) : firstPoint (t.map fun p => [p]) = .ok t := by
  cases t <;> rfl

theorem infer_ok_iff {dep : DepthImage K} {boxes : List (Detection K)} {target : K}
    {needCard : Bool} {r : Inferred K} :
    infer dep boxes target needCard = .ok r ↔
      r.cls = boxes.map Detection.cls ∧
      (∃ i j, Takes boxes target i j ∧ r.buttonPosition = (pointAt dep i j).map fun p => [p]) ∧
      if needCard then ∃ i j, Takes boxes (6 : ℕ) i j ∧
        r.cardPosition = some ((pointAt dep i j).map fun p => [p])
      else r.cardPosition = none := by
  have hinfer : infer dep boxes target needCard = (do
      let buttonPosition ← targetBbox boxes target >>= getPosition dep
      if needCard then
        let cardPosition ← targetBbox boxes (6 : ℕ) >>= getPosition dep
        return ⟨buttonPosition, some cardPosition, boxes.map Detection.cls⟩
      else
        return ⟨buttonPosition, none, boxes.map Detection.cls⟩) := by
    simp only [bind_assoc]
    rfl
  obtain ⟨position, card, cls⟩ := r
  rw [hinfer]
  constructor
  · intro h
    obtain ⟨pos, hpos, h⟩ := ok_bind h
    obtain ⟨i, j, htakes, rfl⟩ := position_ok_iff.mp hpos
    split_ifs at h ⊢
    · obtain ⟨pos', hpos', h⟩ := ok_bind h
      obtain ⟨i', j', htakes', rfl⟩ := position_ok_iff.mp hpos'
      cases h
      exact ⟨rfl, ⟨i, j, htakes, rfl⟩, i', j', htakes', rfl⟩
    · cases h
      exact ⟨rfl, ⟨i, j, htakes, rfl⟩, rfl⟩
  · rintro ⟨rfl, ⟨i, j, htakes, rfl⟩, hcard⟩
    rw [position_ok_iff.mpr ⟨i, j, htakes, rfl⟩]
    split_ifs at hcard ⊢
    · obtain ⟨i', j', htakes', rfl⟩ := hcard
      rw [position_ok_iff.mpr ⟨i', j', htakes', rfl⟩]
      rfl
    · subst hcard
      rfl

theorem runYolo_ok_iff {dep : DepthImage K} {boxes : List (Detection K)} {button : K}
    {needCard : Bool} {out : YoloResult K} :
    runYolo dep boxes button needCard = .ok out ↔
      out.boxcls = boxes.map Detection.cls ∧
      (∃ i j, Takes boxes button i j ∧ out.obj2eye = obj2eyeOf (pointAt dep i j)) ∧
      if needCard then ∃ i j, Takes boxes (6 : ℕ) i j ∧
        out.obj2eyeCard = some (obj2eyeOf (pointAt dep i j))
      else out.obj2eyeCard = none := by
  obtain ⟨pose, card, cls⟩ := out
  unfold runYolo
  constructor
  · intro h
    obtain ⟨⟨position, cardPosition, cls'⟩, hinfer, h⟩ := ok_bind h
    obtain ⟨rfl, ⟨i, j, htakes, rfl⟩, hcard⟩ := infer_ok_iff.mp hinfer
    simp only [firstPoint_map, bind, Except.bind] at h
    split_ifs at hcard ⊢
    · obtain ⟨i', j', htakes', rfl⟩ := hcard
      simp only [firstPoint_map] at h
      cases h
      exact ⟨rfl, ⟨i, j, htakes, rfl⟩, i', j', htakes', rfl⟩
    · subst hcard
      cases h
      exact ⟨rfl, ⟨i, j, htakes, rfl⟩, rfl⟩
  · rintro ⟨rfl, ⟨i, j, htakes, rfl⟩, hcard⟩
    split_ifs at hcard with hneed
    · obtain ⟨i', j', htakes', rfl⟩ := hcard
      have hinfer : infer dep boxes button needCard = .ok ⟨(pointAt dep i j).map fun p => [p],
          some ((pointAt dep i' j').map fun p => [p]), boxes.map Detection.cls⟩ := by
        rw [infer_ok_iff, if_pos hneed]
        exact ⟨rfl, ⟨i, j, htakes, rfl⟩, i', j', htakes', rfl⟩
      simp only [hinfer, bind, Except.bind, firstPoint_map]
      rfl
    · subst hcard
      have hinfer : infer dep boxes button needCard = .ok ⟨(pointAt dep i j).map fun p => [p],
          none, boxes.map Detection.cls⟩ := by
        rw [infer_ok_iff, if_neg hneed]
        exact ⟨rfl, ⟨i, j, htakes, rfl⟩, rfl⟩
      simp only [hinfer, bind, Except.bind, firstPoint_map]
      rfl

end Predictor

end Ros2WsDemo.ControlHost
