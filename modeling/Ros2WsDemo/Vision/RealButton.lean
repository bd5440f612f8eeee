import Ros2WsDemo.Vision.ButtonPose

/-!
# Real button poses

A result of `run_yolo` is real if its translations are points that the camera sees at the
centres of the boxes.  The code returns something else for a centre without depth, and for
a box that reaches out of the image to the left or above, where the index counts from the
other side.
-/

namespace Ros2WsDemo.ControlHost

variable {K : Type} [Field K] [LinearOrder K] [FloorRing K]

/-- The translation is the point seen at the centre of the box, at a positive depth. -/
def ShowsCentre (dep : DepthImage K) (bbox : BBox K) (m : Pose K) : Prop :=
  ∃ (i : Fin 480) (j : Fin 640) (p : Point K),
    InPixel i bbox.buttonY ∧ InPixel j bbox.buttonX ∧ 0 < dep i j ∧
      m 0 3 = some p.x ∧ m 1 3 = some p.y ∧ m 2 3 = some p.z ∧
      project buttonIntrinsic p = (((j : ℕ) : K), ((i : ℕ) : K), dep i j / (1000 : ℕ))

/-- The call raises, or its matrices show the centres of a box of the button and of the card. -/
def RealOrRefused (dep : DepthImage K) (boxes : List (Detection K)) (button : K)
    (needCard : Bool) : Prop :=
  ∀ out, runYolo dep boxes button needCard = .ok out →
    (∃ d ∈ boxes, d.cls = button ∧ ShowsCentre dep d.xyxy out.obj2eye) ∧
      (needCard = true → ∃ d ∈ boxes, d.cls = (6 : ℕ) ∧
        ∃ m, out.obj2eyeCard = some m ∧ ShowsCentre dep d.xyxy m)

/-- There is one detection of the class, and its centre is an index of the image, be it one
from the end. -/
def Reaches (boxes : List (Detection K)) (target : K) : Prop :=
  ∃ d, detections boxes target = [d] ∧
    (-480 ≤ toInt d.xyxy.buttonY ∧ toInt d.xyxy.buttonY < 480) ∧
      -640 ≤ toInt d.xyxy.buttonX ∧ toInt d.xyxy.buttonX < 640

/-- The centre of the one detection of the class lies in a pixel with positive depth. -/
def CentreHasDepth (dep : DepthImage K) (boxes : List (Detection K)) (target : K) : Prop :=
  ∃ (d : Detection K) (i : Fin 480) (j : Fin 640), detections boxes target = [d] ∧
    InPixel i d.xyxy.buttonY ∧ InPixel j d.xyxy.buttonX ∧ 0 < dep i j

theorem reaches_iff {boxes : List (Detection K)} {target : K} :
    Reaches boxes target ↔ ∃ i j, Takes boxes target i j := by
  constructor
  · rintro ⟨d, hd, hy, hx⟩
    obtain ⟨i, hi⟩ := index_ok_iff.mpr hy
    obtain ⟨j, hj⟩ := index_ok_iff.mpr hx
    exact ⟨i, j, d, hd, hi, hj⟩
  · rintro ⟨i, j, d, hd, hi, hj⟩
    exact ⟨d, hd, index_ok_iff.mp ⟨i, hi⟩, index_ok_iff.mp ⟨j, hj⟩⟩

omit [Field K] [FloorRing K] in
theorem mem_of_detections {boxes : List (Detection K)} {target : K} {d : Detection K}
    (hd : detections boxes target = [d]) : d ∈ boxes ∧ d.cls = target := by
  have hmem : d ∈ detections boxes target := hd ▸ List.mem_singleton_self d
  simpa [detections] using hmem

variable [IsStrictOrderedRing K]

omit [FloorRing K] in
theorem buttonIntrinsic_fx : (buttonIntrinsic 0 0 : K) ≠ 0 := by
  norm_num [buttonIntrinsic]

omit [FloorRing K] in
theorem buttonIntrinsic_fy : (buttonIntrinsic 1 1 : K) ≠ 0 := by
  norm_num [buttonIntrinsic]

/-- A centre with depth is the pixel that the call takes, and its point is the one returned. -/
theorem showsCentre_of_hasDepth {dep : DepthImage K} {boxes : List (Detection K)} {target : K}
    (h : CentreHasDepth dep boxes target) {i : Fin 480} {j : Fin 640}
    (htakes : Takes boxes target i j) :
    ∃ d ∈ boxes, d.cls = target ∧ ShowsCentre dep d.xyxy (obj2eyeOf (pointAt dep i j)) := by
  obtain ⟨d, i', j', hd, hy, hx, hpos⟩ := h
  obtain ⟨d', hd', hi, hj⟩ := htakes
  obtain rfl : d = d' := by
    rw [hd] at hd'
    exact (List.cons.inj hd').1
  rw [index_of_inPixel hy, Except.ok.injEq] at hi
  rw [index_of_inPixel hx, Except.ok.injEq] at hj
  subst hi hj
  obtain ⟨hmem, hcls⟩ := mem_of_detections hd
  have hdepth : dep i' j' / ((1000 : ℕ) : K) ≠ 0 := div_ne_zero hpos.ne' (by norm_num)
  refine ⟨d, hmem, hcls, i', j', backProject buttonIntrinsic i' j' (dep i' j' / (1000 : ℕ)), hy,
    hx, hpos, ?_, ?_, ?_, project_backProject buttonIntrinsic_fx buttonIntrinsic_fy _ _ hdepth⟩
  all_goals
    rw [pointAt, if_pos hpos]
    rfl

omit [FloorRing K] [IsStrictOrderedRing K] in
theorem hasDepth_of_showsCentre {dep : DepthImage K} {boxes : List (Detection K)} {target : K}
    {d d' : Detection K} {m : Pose K} (hd : detections boxes target = [d]) (hmem : d' ∈ boxes)
    (hcls : d'.cls = target) (h : ShowsCentre dep d'.xyxy m) :
    CentreHasDepth dep boxes target := by
  have hmem' : d' ∈ detections boxes target := by simp [detections, hmem, hcls]
  rw [hd, List.mem_singleton] at hmem'
  subst hmem'
  obtain ⟨i, j, -, hy, hx, hpos, -⟩ := h
  exact ⟨d', i, j, hd, hy, hx, hpos⟩

/-- The result is real or refused exactly if some class has no usable detection, or the
centres of all boxes that are needed lie in pixels with a positive depth. -/
theorem realOrRefused_iff (dep : DepthImage K) (boxes : List (Detection K)) (button : K)
    (needCard : Bool) : RealOrRefused dep boxes button needCard ↔
      ¬Reaches boxes button ∨ (needCard = true ∧ ¬Reaches boxes (6 : ℕ)) ∨
        (CentreHasDepth dep boxes button ∧
          (needCard = true → CentreHasDepth dep boxes (6 : ℕ))) := by
  constructor
  · intro h
    by_contra hno
    simp only [not_or, not_and, not_not] at hno
    obtain ⟨hbutton, hcard, hbad⟩ := hno
    obtain ⟨i, j, htakes⟩ := reaches_iff.mp hbutton
    obtain ⟨d, hd, -⟩ := id htakes
    cases needCard with
    | true =>
        obtain ⟨i', j', htakes'⟩ := reaches_iff.mp (hcard rfl)
        obtain ⟨d', hd', -⟩ := id htakes'
        obtain ⟨⟨e, he, hcls, hshows⟩, hshowsCard⟩ := h ⟨_, _, _⟩
          (runYolo_ok_iff.mpr ⟨rfl, ⟨i, j, htakes, rfl⟩, i', j', htakes', rfl⟩)
        obtain ⟨e', he', hcls', m, -, hshows'⟩ := hshowsCard rfl
        exact hbad (hasDepth_of_showsCentre hd he hcls hshows)
          fun _ => hasDepth_of_showsCentre hd' he' hcls' hshows'
    | false =>
        obtain ⟨⟨e, he, hcls, hshows⟩, -⟩ := h ⟨_, _, _⟩
          (runYolo_ok_iff.mpr ⟨rfl, ⟨i, j, htakes, rfl⟩, rfl⟩)
        exact hbad (hasDepth_of_showsCentre hd he hcls hshows) nofun
  · rintro h out hout
    obtain ⟨-, ⟨i, j, htakes, hpose⟩, hcard⟩ := runYolo_ok_iff.mp hout
    rcases h with hno | ⟨hneed, hno⟩ | ⟨hdepth, hdepthCard⟩
    · exact absurd (reaches_iff.mpr ⟨i, j, htakes⟩) hno
    · rw [if_pos hneed] at hcard
      obtain ⟨i', j', htakes', -⟩ := hcard
      exact absurd (reaches_iff.mpr ⟨i', j', htakes'⟩) hno
    · refine ⟨?_, fun hneed => ?_⟩
      · rw [hpose]
        exact showsCentre_of_hasDepth hdepth htakes
      · rw [if_pos hneed] at hcard
        obtain ⟨i', j', htakes', hcardPose⟩ := hcard
        obtain ⟨d, hmem, hcls, hshows⟩ := showsCentre_of_hasDepth (hdepthCard hneed) htakes'
        exact ⟨d, hmem, hcls, _, hcardPose, hshows⟩

/-- A detection of class 8 in the middle of the image. -/
def middle : List (Detection ℚ) := [⟨8, ⟨300, 200, 340, 280⟩⟩]

theorem realOrRefused_middle : RealOrRefused (fun _ _ => (700 : ℚ)) middle 8 false := by
  refine (realOrRefused_iff (fun _ _ => 700) middle 8 false).mpr
    (Or.inr (Or.inr ⟨⟨⟨8, ⟨300, 200, 340, 280⟩⟩, 240, 320, ?_⟩, nofun⟩))
  refine ⟨by decide, ?_, ?_, by norm_num⟩
  · norm_num [InPixel, BBox.buttonY]
  · norm_num [InPixel, BBox.buttonX]

/-- Without a depth at its centre the pose has no translation. -/
theorem realOrRefused_not_dark : ¬ ∀ (dep : DepthImage ℚ) (boxes : List (Detection ℚ))
    (button : ℚ) (needCard : Bool), RealOrRefused dep boxes button needCard := by
  intro hall
  obtain ⟨i, j, htakes⟩ : ∃ i j, Takes middle 8 i j :=
    reaches_iff.mp ⟨⟨8, ⟨300, 200, 340, 280⟩⟩, by decide, by decide +kernel⟩
  obtain ⟨⟨d, -, -, i', j', -, -, -, hpos, -⟩, -⟩ := hall (fun _ _ => 0) middle 8 false ⟨_, _, _⟩
    (runYolo_ok_iff.mpr ⟨rfl, ⟨i, j, htakes, rfl⟩, rfl⟩)
  exact lt_irrefl _ hpos

end Ros2WsDemo.ControlHost
