import Ros2WsDemo.Laser.Bins

/-!
# The bin of an angle

An angle is put into the bin whose angle in the message is the nearest one on the circle.
For both orientations the bins are steps from one end of the range; the last step is the
seam and belongs to the first bin.
-/

namespace Ros2WsDemo.ServerLaserScanWorker

variable {K : Type} [Field K] [LinearOrder K] [IsStrictOrderedRing K] [FloorRing K]

/-- How many steps the angle is away from the first bin. -/
def steps (pi srcAngle : K) (isAnglesReverse : Bool) : K :=
  (if isAnglesReverse then pi - srcAngle else srcAngle + pi) / absAngleIncrement pi

theorem absAngleIncrement_pos {pi : K} (hpi : 0 < pi) : 0 < absAngleIncrement pi := by
  rw [absAngleIncrement, twoPi_eq]
  have hcnt : (0 : K) < (compensatedAngleCnt : ℕ) := by norm_num [compensatedAngleCnt]
  exact div_pos (by linarith) hcnt

omit [LinearOrder K] [IsStrictOrderedRing K] [FloorRing K] in
theorem absAngleIncrement_mul_cnt [CharZero K] (pi : K) :
    absAngleIncrement pi * (compensatedAngleCnt : ℕ) = twoPi pi :=
  div_mul_cancel₀ _ (by norm_num [compensatedAngleCnt])

theorem steps_bounds {pi srcAngle : K} (hlo : -pi ≤ srcAngle) (hhi : srcAngle < pi)
    (isAnglesReverse : Bool) : 0 ≤ steps pi srcAngle isAnglesReverse ∧
      steps pi srcAngle isAnglesReverse ≤ (compensatedAngleCnt : ℤ) := by
  have hpi : 0 < pi := by linarith
  have hinc := absAngleIncrement_pos hpi
  have hcnt := absAngleIncrement_mul_cnt pi
  rw [twoPi_eq] at hcnt
  unfold steps
  rw [div_le_iff₀ hinc, mul_comm, Int.cast_natCast, hcnt]
  refine ⟨div_nonneg ?_ hinc.le, ?_⟩ <;> split_ifs <;> linarith

/-- An angle of the range lies that many steps from the first bin of the message. -/
theorem angle_eq_steps {pi : K} (hpi : 0 < pi) (srcAngle : K) (isAnglesReverse : Bool) :
    srcAngle = (initialScan pi isAnglesReverse).angleMin +
      (initialScan pi isAnglesReverse).angleIncrement * steps pi srcAngle isAnglesReverse := by
  have hinc := (absAngleIncrement_pos hpi).ne'
  cases isAnglesReverse
  · simp only [initialScan, steps, Bool.false_eq_true, if_false, mul_div_cancel₀ _ hinc]
    ring
  · simp only [initialScan, steps, if_true, neg_mul, mul_div_cancel₀ _ hinc]
    ring

/-- The index is the nearest number of steps, except at the seam. -/
theorem binIndex_steps {pi srcAngle : K} (hlo : -pi ≤ srcAngle) (hhi : srcAngle < pi)
    (isAnglesReverse : Bool) :
    ∃ k : ℤ, roundHalfAway (steps pi srcAngle isAnglesReverse) =
      binIndex pi srcAngle isAnglesReverse + compensatedAngleCnt * k := by
  obtain ⟨hsteps, hcnt⟩ := steps_bounds hlo hhi isAnglesReverse
  have hnonneg := roundHalfAway_nonneg hsteps
  have hle := roundHalfAway_le hsteps hcnt
  have hdiff : min (max 0 (if isAnglesReverse then pi - srcAngle else srcAngle + pi)) (twoPi pi) =
      if isAnglesReverse then pi - srcAngle else srcAngle + pi := by
    rw [max_eq_right, min_eq_left]
    · rw [twoPi_eq]
      split_ifs <;> linarith
    · split_ifs <;> linarith
  have hidx : binIndex pi srcAngle isAnglesReverse =
      if compensatedAngleCnt ≤ (roundHalfAway (steps pi srcAngle isAnglesReverse)).toNat then 0
      else (roundHalfAway (steps pi srcAngle isAnglesReverse)).toNat := by
    unfold binIndex
    rw [hdiff]
    rfl
  rw [hidx]
  split_ifs with hseam
  · exact ⟨1, by omega⟩
  · exact ⟨0, by omega⟩

theorem dist_gridAngle_le {pi srcAngle : K} (hlo : -pi ≤ srcAngle) (hhi : srcAngle < pi)
    (isAnglesReverse : Bool) :
    Circle.dist (twoPi pi) srcAngle
        (gridAngle pi isAnglesReverse (binIndex pi srcAngle isAnglesReverse)) ≤
      absAngleIncrement pi / 2 := by
  have hpi : 0 < pi := by linarith
  have hperiod : 0 < twoPi pi := by
    rw [twoPi_eq]
    linarith
  have hinc : |(initialScan pi isAnglesReverse).angleIncrement| = absAngleIncrement pi := by
    cases isAnglesReverse
    · exact abs_of_pos (absAngleIncrement_pos hpi)
    · rw [← abs_of_pos (absAngleIncrement_pos hpi)]
      exact abs_neg _
  have hround : |(initialScan pi isAnglesReverse).angleIncrement * ((compensatedAngleCnt : ℤ) : K)|
      = twoPi pi := by
    rw [abs_mul, hinc, Int.cast_natCast, Nat.abs_cast, absAngleIncrement_mul_cnt]
  obtain ⟨k, hk⟩ := binIndex_steps hlo hhi isAnglesReverse
  have hdist := Circle.dist_steps_le hround hperiod (initialScan pi isAnglesReverse).angleMin
    (steps pi srcAngle isAnglesReverse) (abs_sub_roundHalfAway_le _) hk
  rwa [← angle_eq_steps hpi, hinc, Int.cast_natCast] at hdist

/-- A point is at most half a bin away from the angle of its bin. -/
theorem offGrid_le {pi : K} (hpi : 0 < pi) {isClockwise : Bool} {i : ℕ} {p : LaserPoint K}
    (h : MapsTo pi isClockwise i p) : offGrid pi isClockwise i p ≤ absAngleIncrement pi / 2 := by
  obtain ⟨n, hn, hlo, hhi⟩ := calcAngle_spec hpi p.angle
  have hi := h.2
  rw [calcIndex_eq hlo hhi, Except.ok.injEq] at hi
  have hdist := dist_gridAngle_le hlo hhi isClockwise
  rwa [hi, hn, twoPi_eq, Circle.dist_sub_period (by linarith), ← twoPi_eq] at hdist

/-- Angles are normalised into one period, and every normalised angle has a bin whose angle in
the message is at most half an increment away. -/
theorem bin_of_angle {pi : K} (hpi : 0 < pi) :
    (∀ angle, (∃ n : ℤ, calcAngleInNegativePiToPi pi angle = angle - 2 * pi * n) ∧
      -pi ≤ calcAngleInNegativePiToPi pi angle ∧ calcAngleInNegativePiToPi pi angle < pi) ∧
    ∀ srcAngle, -pi ≤ srcAngle → srcAngle < pi → ∀ isAnglesReverse, ∃ destIdx,
      calcCompensateDestIndexBySrcAngle pi srcAngle isAnglesReverse = .ok destIdx ∧
        destIdx < 360 ∧
        Circle.dist (2 * pi) srcAngle (gridAngle pi isAnglesReverse destIdx) ≤
          absAngleIncrement pi / 2 := by
  constructor
  · intro angle
    obtain ⟨n, hn, hrange⟩ := calcAngle_spec hpi angle
    exact ⟨⟨n, hn⟩, hrange⟩
  · intro srcAngle hlo hhi isAnglesReverse
    refine ⟨_, calcIndex_eq hlo hhi isAnglesReverse, binIndex_lt _ _ _, ?_⟩
    rw [← twoPi_eq]
    exact dist_gridAngle_le hlo hhi isAnglesReverse

/-- Just below the seam. -/
theorem bin_of_angle_seam : ∃ destIdx, calcCompensateDestIndexBySrcAngle (13176795 / 4194304 : ℚ)
    (314 / 100) false = .ok destIdx ∧ destIdx < 360 := by
  have hpi : (0 : ℚ) < 13176795 / 4194304 := by norm_num
  obtain ⟨destIdx, hok, hlt, -⟩ := (bin_of_angle hpi).2 (314 / 100) (by norm_num) (by norm_num)
    false
  exact ⟨destIdx, hok, hlt⟩

end Ros2WsDemo.ServerLaserScanWorker
