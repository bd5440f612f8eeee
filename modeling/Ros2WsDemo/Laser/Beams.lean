import Ros2WsDemo.Laser.BinAngle
import Ros2WsDemo.Laser.Published

/-!
# Where the beams of a message point

A reader of the message takes beam `i` to point at `angle_min + angle_increment * i`.  With
compensation the point behind a beam is at most half an increment away from there, without it
twice as far as the angles of the scan are from being evenly spaced.
-/

namespace Ros2WsDemo.ServerLaserScanWorker

variable {K : Type} [Field K] [LinearOrder K]

def beamAngle (scan : LaserScan K) (i : ℕ) : K := scan.angleMin + scan.angleIncrement * (i : ℕ)

/-- The angles are evenly spaced, up to `jitter`. -/
def EvenlySpaced (jitter : K) (points : List (LaserPoint K)) : Prop :=
  ∃ first gap : K, ∀ (i : ℕ) (p : LaserPoint K), points[i]? = some p →
    |p.angle - (first + gap * (i : ℕ))| ≤ jitter

/-- Every beam comes from a valid point in its direction, and every valid point has a beam in
its direction. -/
structure BeamsNear (period tolerance : K) [FloorRing K] (points : List (LaserPoint K))
    (scan : LaserScan K) : Prop where
  beam : ∀ (i : ℕ) (r : WithTop K), scan.ranges[i]? = some r → r ≠ ⊤ →
    ∃ p ∈ points, p.valid = true ∧ r = p.distance ∧
      scan.intensities[i]? = some (p.quality.toNat : K) ∧
      Circle.dist period p.angle (beamAngle scan i) ≤ tolerance
  point : ∀ p ∈ points, p.valid = true → ∃ (i : ℕ) (r : WithTop K),
    scan.ranges[i]? = some r ∧ r ≠ ⊤ ∧ Circle.dist period p.angle (beamAngle scan i) ≤ tolerance

/-! ## Without compensation -/

theorem EvenlySpaced.reverse {jitter : K} {points : List (LaserPoint K)}
    (h : EvenlySpaced jitter points) : EvenlySpaced jitter points.reverse := by
  obtain ⟨first, gap, heven⟩ := h
  refine ⟨first + gap * ((points.length - 1 : ℕ) : K), -gap, fun i p hp => ?_⟩
  have hi : i < points.length := by
    rw [← List.length_reverse]
    exact (List.getElem?_eq_some_iff.mp hp).1
  rw [List.getElem?_reverse hi] at hp
  have hangle := heven _ p hp
  have hcast : ((points.length - 1 - i : ℕ) : K) = ((points.length - 1 : ℕ) : K) - (i : ℕ) :=
    Nat.cast_sub (by omega)
  rw [hcast] at hangle
  refine le_of_eq_of_le (congrArg abs ?_) hangle
  ring

theorem EvenlySpaced.processed {jitter : K} {points : List (LaserPoint K)}
    (h : EvenlySpaced jitter points) (isLaserDataReverse : Bool) :
    EvenlySpaced jitter (processed points isLaserDataReverse) := by
  cases isLaserDataReverse with
  | false => exact h
  | true => exact h.reverse

variable [IsStrictOrderedRing K]

/-- Between the ends an error is an average of the errors at the ends. -/
theorem abs_average_le {t a b jitter : K} (hlo : 0 ≤ t) (hhi : t ≤ 1) (ha : |a| ≤ jitter)
    (hb : |b| ≤ jitter) : |(1 - t) * a + t * b| ≤ jitter := by
  rw [abs_le] at ha hb ⊢
  have hwidth : 0 ≤ 1 - t := by linarith
  constructor
  · linarith [mul_le_mul_of_nonneg_left ha.1 hwidth, mul_le_mul_of_nonneg_left hb.1 hlo]
  · linarith [mul_le_mul_of_nonneg_left ha.2 hwidth, mul_le_mul_of_nonneg_left hb.2 hlo]

/-- The line through the first and the last angle follows all angles. -/
theorem abs_sub_line_le {jitter : K} {points : List (LaserPoint K)}
    (heven : EvenlySpaced jitter points) {first last p : LaserPoint K} {i n : ℕ} (hn : 0 < n)
    (hi : i ≤ n) (hfirst : points[0]? = some first) (hlast : points[n]? = some last)
    (hp : points[i]? = some p) :
    |p.angle - (first.angle + (last.angle - first.angle) / (n : ℕ) * (i : ℕ))| ≤ 2 * jitter := by
  obtain ⟨start, gap, heven⟩ := heven
  have hn' : (0 : K) < (n : ℕ) := by exact_mod_cast hn
  have hfirst' : |first.angle - start| ≤ jitter := by simpa using heven 0 first hfirst
  have hline := abs_average_le (t := (i : K) / (n : ℕ)) (div_nonneg i.cast_nonneg n.cast_nonneg)
    ((div_le_one hn').mpr (by exact_mod_cast hi)) hfirst' (heven n last hlast)
  have hsplit : p.angle - (first.angle + (last.angle - first.angle) / (n : ℕ) * (i : ℕ)) =
      (p.angle - (start + gap * (i : ℕ))) -
        ((1 - (i : K) / (n : ℕ)) * (first.angle - start) +
          (i : K) / (n : ℕ) * (last.angle - (start + gap * (n : ℕ)))) := by
    field_simp
    ring
  rw [hsplit, two_mul]
  exact (abs_sub _ _).trans (add_le_add (heven i p hp) hline)

variable [FloorRing K]

theorem original_beams {period jitter : K} (hperiod : 0 < period)
    {points : List (LaserPoint K)} (hlength : 2 ≤ points.length)
    (hfinite : ∀ p ∈ points, p.valid = true → p.distance ≠ ⊤) (heven : EvenlySpaced jitter points)
    {isLaserDataReverse : Bool} {scan : LaserScan K}
    (h : fillOriginalRangesInMsg points isLaserDataReverse = .ok scan) :
    BeamsNear period (2 * jitter) points scan := by
  have hperm := processed_perm points isLaserDataReverse
  have hlength' : 2 ≤ (processed points isLaserDataReverse).length := hperm.length_eq ▸ hlength
  have heven' := heven.processed isLaserDataReverse
  generalize hvisited : processed points isLaserDataReverse = visited at hperm hlength' heven'
  simp only [fillOriginalRangesInMsg, hvisited] at h
  split at h
  case h_2 => cases h
  case h_1 first last hfirst hlast =>
  cases h
  rw [List.head?_eq_getElem?] at hfirst
  rw [List.getLast?_eq_getElem?] at hlast
  have hdist : ∀ (i : ℕ) (p : LaserPoint K), visited[i]? = some p →
      Circle.dist period p.angle (first.angle + (last.angle - first.angle) /
        ((visited.length - 1 : ℕ) : K) * (i : ℕ)) ≤ 2 * jitter := by
    intro i p hp
    have hi := (List.getElem?_eq_some_iff.mp hp).1
    exact (Circle.dist_le_abs hperiod _ _).trans
      (abs_sub_line_le heven' (by omega) (by omega) hfirst hlast hp)
  constructor
  · intro i r hr hfull
    simp only [List.getElem?_map, Option.map_eq_some_iff] at hr ⊢
    obtain ⟨p, hp, rfl⟩ := hr
    have hvalid : p.valid = true := by
      by_contra hinvalid
      exact hfull (if_neg hinvalid)
    rw [if_pos hvalid]
    exact ⟨p, hperm.mem_iff.mpr (List.mem_of_getElem? hp), hvalid, rfl,
      ⟨p, hp, if_pos hvalid⟩, hdist i p hp⟩
  · intro p hp hvalid
    obtain ⟨i, hi⟩ := List.mem_iff_getElem?.mp (hperm.mem_iff.mp hp)
    refine ⟨i, p.distance, ?_, hfinite p hp hvalid, hdist i p hi⟩
    simp only [List.getElem?_map, hi, Option.map_some, if_pos hvalid]

/-! ## With compensation -/

theorem resampled_beams {pi : K} (hpi : 0 < pi) (isClockwise : Bool)
    {points : List (LaserPoint K)} (hfinite : ∀ p ∈ points, p.valid = true → p.distance ≠ ⊤) :
    BeamsNear (twoPi pi) (absAngleIncrement pi / 2) points (resampled pi isClockwise points).1 := by
  constructor
  · intro i r hr hfull
    have hi : i < compensatedAngleCnt := by
      have hlength := (List.getElem?_eq_some_iff.mp hr).1
      simpa [resampled, bins] using hlength
    obtain ⟨hrange, hintensity, -⟩ := resampled_getElem? pi isClockwise points hi
    rw [hrange, Option.some.injEq] at hr
    rw [hintensity]
    cases hbest : nearest pi isClockwise points i with
    | none =>
        rw [hbest] at hr
        exact absurd hr.symm hfull
    | some p =>
        obtain ⟨hp, hvalid⟩ := mem_of_nearest hbest
        have hmaps := ((mem_binPoints hpi).mp (List.argmin_mem hbest)).2
        rw [hbest] at hr
        exact ⟨p, hp, hvalid, hr.symm, rfl, offGrid_le hpi hmaps⟩
  · intro p hp hvalid
    obtain ⟨-, -, hlo, hhi⟩ := calcAngle_spec hpi p.angle
    have hmaps : MapsTo pi isClockwise
        (binIndex pi (calcAngleInNegativePiToPi pi p.angle) isClockwise) p :=
      (mapsTo_iff hpi).mpr ⟨hvalid, rfl⟩
    obtain ⟨hrange, -, -⟩ := resampled_getElem? pi isClockwise points
      (binIndex_lt pi (calcAngleInNegativePiToPi pi p.angle) isClockwise)
    refine ⟨_, _, hrange, ?_, offGrid_le hpi hmaps⟩
    cases hbest : nearest pi isClockwise points
        (binIndex pi (calcAngleInNegativePiToPi pi p.angle) isClockwise) with
    | none => exact absurd hmaps ((nearest_eq_none hpi).mp hbest p hp)
    | some q => exact hfinite q (mem_of_nearest hbest).1 (mem_of_nearest hbest).2

/-! ## Published messages -/

section Published

variable {Q : Type} {pi : K} {quaternionOfYaw : K → Q} {params : Params} {robotPose : LaserPose K}
  {tLs : SystemScan K} {out : TransformStamped K Q × LaserScanMsg K}

omit [IsStrictOrderedRing K] in
theorem doPerform_scan {clock : Int64 × Int64} {latest : UInt64}
    (h : (doPerform pi quaternionOfYaw params robotPose clock tLs latest).1 = .ok (some out)) :
    2 ≤ tLs.laserPoints.length ∧
      (if params.angleCompensate then
          compensateAndfillRangesInMsg pi tLs.laserPoints params.ladarDataClockwise
            (isLaserDataReverse tLs.laserPoints params.ladarDataClockwise)
        else fillOriginalRangesInMsg tLs.laserPoints
          (isLaserDataReverse tLs.laserPoints params.ladarDataClockwise)) = .ok out.2.scan := by
  unfold doPerform at h
  split_ifs at h
  · obtain ⟨hlength, -, hscan⟩ := publishScan_inv h
    exact ⟨hlength, hscan⟩
  · cases h
  · obtain ⟨hlength, -, hscan⟩ := publishScan_inv h
    exact ⟨hlength, hscan⟩

end Published

section ReadBack

variable {K : Type} [Field K] [LinearOrder K] [FloorRing K]

/-- What a reader makes of a message: a point for every beam, valid where there is a range. -/
def pointsOf (scan : LaserScan K) : List (LaserPoint K) :=
  (List.zip scan.ranges scan.intensities).mapIdx fun i beam =>
    { distance := beam.1
      angle := beamAngle scan i
      valid := beam.1 ≠ ⊤
      quality := UInt8.ofNat ⌊beam.2⌋.toNat }

variable [IsStrictOrderedRing K] {pi : K} {isClockwise : Bool}

/-- The angle of a bin belongs to the bin. -/
theorem binIndex_gridAngle (hpi : 0 < pi) {i : ℕ} (hi : i < compensatedAngleCnt) :
    binIndex pi (calcAngleInNegativePiToPi pi (gridAngle pi isClockwise i)) isClockwise = i := by
  obtain ⟨n, hn, hlo, hhi⟩ := calcAngle_spec hpi (gridAngle pi isClockwise i)
  have hinc := absAngleIncrement_pos hpi
  have hcnt := absAngleIncrement_mul_cnt pi
  have hlt := binIndex_lt pi (calcAngleInNegativePiToPi pi (gridAngle pi isClockwise i)) isClockwise
  have hdist := dist_gridAngle_le hlo hhi isClockwise
  generalize binIndex pi (calcAngleInNegativePiToPi pi (gridAngle pi isClockwise i)) isClockwise =
    j at hlt hdist
  rw [hn, twoPi_eq, Circle.dist_sub_period (by linarith), ← twoPi_eq, Circle.dist, ← hcnt] at hdist
  -- In increments the distance is a whole number, and less than one.
  generalize round ((gridAngle pi isClockwise i - gridAngle pi isClockwise j) /
    (absAngleIncrement pi * (compensatedAngleCnt : ℕ))) = k at hdist
  obtain ⟨m, hm, hmod⟩ : ∃ m : ℤ, gridAngle pi isClockwise i - gridAngle pi isClockwise j -
      absAngleIncrement pi * (compensatedAngleCnt : ℕ) * k = absAngleIncrement pi * m ∧
      ∃ q : ℤ, m = i - j - compensatedAngleCnt * q ∨ m = j - i - compensatedAngleCnt * q := by
    cases isClockwise with
    | false =>
        refine ⟨i - j - compensatedAngleCnt * k, ?_, k, Or.inl rfl⟩
        simp only [gridAngle, initialScan]
        push_cast
        ring
    | true =>
        refine ⟨j - i - compensatedAngleCnt * k, ?_, k, Or.inr rfl⟩
        simp only [gridAngle, initialScan]
        push_cast
        ring
  have hzero : m = 0 := by
    rw [hm, abs_mul, abs_of_pos hinc] at hdist
    have hhalf : |(m : K)| ≤ 1 / 2 := by
      by_contra hfar
      have := mul_lt_mul_of_pos_left (not_le.mp hfar) hinc
      linarith
    have hlt1 : |(m : K)| < 1 := by linarith
    have hcast : |m| < 1 := by exact_mod_cast hlt1
    exact Int.abs_lt_one_iff.mp hcast
  unfold compensatedAngleCnt at hi hlt hmod
  omega

variable {points : List (LaserPoint K)}

/-- The point that is read back from a bin. -/
def pointOf (pi : K) (isClockwise : Bool) (points : List (LaserPoint K)) (i : ℕ) :
    LaserPoint K where
  distance := rangeOf (nearest pi isClockwise points i)
  angle := gridAngle pi isClockwise i
  valid := rangeOf (nearest pi isClockwise points i) ≠ ⊤
  quality := UInt8.ofNat ⌊intensityOf (nearest pi isClockwise points i)⌋.toNat

omit [IsStrictOrderedRing K] in
theorem pointsOf_resampled (pi : K) (isClockwise : Bool) (points : List (LaserPoint K)) :
    pointsOf (resampled pi isClockwise points).1 =
      (List.range compensatedAngleCnt).map (pointOf pi isClockwise points) := by
  apply List.ext_getElem?
  intro i
  simp only [pointsOf, resampled, bins, List.zip_map', List.getElem?_mapIdx, List.getElem?_map]
  by_cases hi : i < compensatedAngleCnt
  · rw [List.getElem?_range hi]
    rfl
  · rw [List.getElem?_eq_none (by simpa using hi)]
    rfl

theorem nearest_readBack (hpi : 0 < pi) (isClockwise : Bool)
    (hfinite : ∀ p ∈ points, p.valid = true → p.distance ≠ ⊤)
    (isLaserDataReverse : Bool) {i : ℕ} (hi : i < compensatedAngleCnt) :
    let again := nearest pi isClockwise
      (processed (pointsOf (resampled pi isClockwise points).1) isLaserDataReverse) i
    rangeOf again = rangeOf (nearest pi isClockwise points i) ∧
      intensityOf again = intensityOf (nearest pi isClockwise points i) := by
  intro again
  have hperm := processed_perm (pointsOf (resampled pi isClockwise points).1) isLaserDataReverse
  cases hagain : again with
  | none =>
      have hunmapped := (nearest_eq_none hpi).mp hagain (pointOf pi isClockwise points i) (by
        rw [← hperm.mem_iff, pointsOf_resampled]
        exact List.mem_map_of_mem (List.mem_range.mpr hi))
      rw [mapsTo_iff hpi] at hunmapped
      have hempty : rangeOf (nearest pi isClockwise points i) = ⊤ := by
        by_contra hfull
        exact hunmapped ⟨decide_eq_true hfull, binIndex_gridAngle hpi hi⟩
      cases hbest : nearest pi isClockwise points i with
      | none => exact ⟨rfl, rfl⟩
      | some p =>
          obtain ⟨hp, hvalid⟩ := mem_of_nearest hbest
          rw [hbest] at hempty
          exact absurd hempty (hfinite p hp hvalid)
  | some q =>
      obtain ⟨hq, hmaps⟩ := (mem_binPoints hpi).mp (List.argmin_mem hagain)
      rw [← hperm.mem_iff, pointsOf_resampled] at hq
      obtain ⟨j, hj, rfl⟩ := List.mem_map.mp hq
      obtain ⟨hvalid, hbin⟩ := (mapsTo_iff hpi).mp hmaps
      have hij : j = i := (binIndex_gridAngle hpi (List.mem_range.mp hj)).symm.trans hbin
      subst hij
      have hfull := of_decide_eq_true hvalid
      cases hbest : nearest pi isClockwise points j with
      | none =>
          rw [hbest] at hfull
          exact absurd rfl hfull
      | some p =>
          simp only [pointOf, rangeOf, intensityOf, hbest, Option.elim_some, Int.floor_natCast,
            Int.toNat_natCast, UInt8.ofNat_toNat, and_self]

/-- Resampling what a message says gives the message again, whatever the order of its beams. -/
theorem resample_idempotent (hpi : 0 < pi)
    (hfinite : ∀ p ∈ points, p.valid = true → p.distance ≠ ⊤)
    (isLaserDataReverse isLaserDataReverse' : Bool) {scan : LaserScan K}
    (h : compensateAndfillRangesInMsg pi points isClockwise isLaserDataReverse = .ok scan) :
    compensateAndfillRangesInMsg pi (pointsOf scan) isClockwise isLaserDataReverse' = .ok scan := by
  have hlength : 2 ≤ points.length := by
    by_contra hshort
    rw [compensate_of_short pi hshort] at h
    cases h
  have hperm := processed_perm points isLaserDataReverse
  have hfinite' : ∀ p ∈ processed points isLaserDataReverse, p.valid = true → p.distance ≠ ⊤ :=
    fun p hp => hfinite p (hperm.mem_iff.mpr hp)
  rw [compensateAndfillRangesInMsg_eq hpi hlength _ _ hfinite, Except.ok.injEq] at h
  subst h
  rw [compensateAndfillRangesInMsg_eq hpi, Except.ok.injEq]
  · have hbins := fun i (hi : i ∈ List.range compensatedAngleCnt) =>
      nearest_readBack hpi isClockwise hfinite' isLaserDataReverse' (List.mem_range.mp hi)
    simp only [resampled, bins] at hbins ⊢
    rw [List.map_congr_left fun i hi => (hbins i hi).1,
      List.map_congr_left fun i hi => (hbins i hi).2]
  · rw [pointsOf_resampled, List.length_map, List.length_range]
    decide
  · intro p hp hvalid
    rw [pointsOf_resampled] at hp
    obtain ⟨i, -, rfl⟩ := List.mem_map.mp hp
    exact of_decide_eq_true hvalid

end ReadBack

theorem resample_idempotent_two : ∃ scan : LaserScan ℚ,
    compensateAndfillRangesInMsg 3 (exampleScan true).laserPoints true false = .ok scan ∧
      compensateAndfillRangesInMsg 3 (pointsOf scan) true true = .ok scan := by
  have hpi : (0 : ℚ) < 3 := by norm_num
  have hfinite : ∀ p ∈ (exampleScan true).laserPoints, p.valid = true → p.distance ≠ ⊤ := by
    simp [exampleScan]
  have hlength : 2 ≤ (exampleScan true).laserPoints.length := by simp [exampleScan]
  have hscan := compensateAndfillRangesInMsg_eq hpi hlength true false hfinite
  exact ⟨_, hscan, resample_idempotent hpi hfinite false true hscan⟩

end Ros2WsDemo.ServerLaserScanWorker
