import Mathlib.Data.Rat.Floor
import Ros2WsDemo.Laser.Scan
import Ros2WsDemo.Lib.Circle

/-!
# The bins of a resampled scan

Every bin of the message is a function of the points that map to it: empty without such
a point, otherwise filled from the one nearest to the angle of the bin on the circle.
The loop computes this function, point by point.
-/

namespace Ros2WsDemo.ServerLaserScanWorker

variable {K : Type} [Field K] [LinearOrder K] [FloorRing K]

/-! ## Angles -/

/-- The bin of a normalised angle. -/
def binIndex (pi srcAngle : K) (isClockwise : Bool) : ℕ :=
  let destIdx := (roundHalfAway (min (max 0 (if isClockwise then pi - srcAngle
    else srcAngle + pi)) (twoPi pi) / absAngleIncrement pi)).toNat
  if compensatedAngleCnt ≤ destIdx then 0 else destIdx

theorem calcIndex_eq {pi srcAngle : K} (hlo : -pi ≤ srcAngle) (hhi : srcAngle < pi)
    (isClockwise : Bool) : calcCompensateDestIndexBySrcAngle pi srcAngle isClockwise =
      .ok (binIndex pi srcAngle isClockwise) := by
  have hrange : -pi ≤ srcAngle ∧ srcAngle < pi := ⟨hlo, hhi⟩
  unfold calcCompensateDestIndexBySrcAngle
  rw [boostAssert_of hrange]
  rfl

theorem binIndex_lt (pi srcAngle : K) (isClockwise : Bool) :
    binIndex pi srcAngle isClockwise < compensatedAngleCnt := by
  have hwrap : ∀ n : ℕ, (if compensatedAngleCnt ≤ n then 0 else n) < compensatedAngleCnt := by
    intro n
    split_ifs with h
    · decide
    · exact not_le.mp h
  exact hwrap _

section Exact

variable [IsStrictOrderedRing K]

/-- The remainder of `fmod`, moved into the range of one period. -/
theorem fmod_wrap {b : K} (hb : 0 < b) (a : K) :
    ∃ n : ℤ, (if fmod a b < 0 then fmod a b + b else fmod a b) = a - b * n ∧
      0 ≤ a - b * n ∧ a - b * n < b := by
  have hmul : b * (a / b) = a := mul_div_cancel₀ _ hb.ne'
  unfold fmod
  by_cases ha : 0 ≤ a / b
  · have hlo : b * (⌊a / b⌋ : K) ≤ a :=
      (mul_le_mul_of_nonneg_left (Int.floor_le _) hb.le).trans_eq hmul
    have hhi : a < b * (⌊a / b⌋ : K) + b := by
      rw [← mul_add_one]
      exact hmul.symm.trans_lt (mul_lt_mul_of_pos_left (Int.lt_floor_add_one _) hb)
    refine ⟨⌊a / b⌋, ?_, by linarith, by linarith⟩
    rw [if_pos ha, if_neg (by linarith)]
  · have hlo : a ≤ b * (⌈a / b⌉ : K) :=
      hmul.symm.trans_le (mul_le_mul_of_nonneg_left (Int.le_ceil _) hb.le)
    have hhi : b * (⌈a / b⌉ : K) < a + b := by
      have h := mul_lt_mul_of_pos_left (Int.ceil_lt_add_one (a / b)) hb
      rwa [mul_add_one, hmul] at h
    rw [if_neg ha]
    split_ifs with hneg
    · refine ⟨⌈a / b⌉ - 1, ?_, ?_, ?_⟩ <;> push_cast <;> linarith
    · exact ⟨⌈a / b⌉, rfl, by linarith, by linarith⟩

theorem calcAngle_spec {pi : K} (hpi : 0 < pi) (angle : K) :
    ∃ n : ℤ, calcAngleInNegativePiToPi pi angle = angle - 2 * pi * n ∧
      -pi ≤ calcAngleInNegativePiToPi pi angle ∧ calcAngleInNegativePiToPi pi angle < pi := by
  obtain ⟨n, hn, hlo, hhi⟩ := fmod_wrap (b := 2 * pi) (by linarith) (angle + pi)
  refine ⟨n, ?_⟩
  unfold calcAngleInNegativePiToPi
  simp only [twoPi_eq, hn]
  rw [if_neg (by linarith), if_neg (by linarith)]
  refine ⟨by ring, by linarith, by linarith⟩

/-- The difference the code compares is the distance on the circle. -/
theorem angleDiff_eq_dist {pi a b : K} (ha : -pi ≤ a) (ha' : a < pi) (hb : -pi ≤ b)
    (hb' : b < pi) : angleDiff pi a b = Circle.dist (2 * pi) a b := by
  have hlt : |a - b| < 2 * pi := by
    rw [abs_lt]
    constructor <;> linarith
  rw [Circle.dist_eq_min hlt, angleDiff, twoPi_eq, if_neg hlt.not_ge]
  split_ifs with hfar
  · rw [min_eq_right (by linarith)]
  · rw [min_eq_left (by linarith)]

end Exact

/-! ## The content of a bin -/

/-- The point counts for the bin. -/
def MapsTo (pi : K) (isClockwise : Bool) (i : ℕ) (p : LaserPoint K) : Prop :=
  p.valid = true ∧
    calcCompensateDestIndexBySrcAngle pi (calcAngleInNegativePiToPi pi p.angle) isClockwise = .ok i

/-- The angle the message gives to the bin. -/
def gridAngle (pi : K) (isClockwise : Bool) (i : ℕ) : K :=
  (initialScan pi isClockwise).angleMin + (initialScan pi isClockwise).angleIncrement * (i : ℕ)

/-- How far the point is from the angle of the bin, on the circle. -/
def offGrid (pi : K) (isClockwise : Bool) (i : ℕ) (p : LaserPoint K) : K :=
  Circle.dist (twoPi pi) p.angle (gridAngle pi isClockwise i)

/-- The points of the bin. -/
def binPoints (pi : K) (isClockwise : Bool) (points : List (LaserPoint K)) (i : ℕ) :
    List (LaserPoint K) :=
  points.filter fun p =>
    p.valid && binIndex pi (calcAngleInNegativePiToPi pi p.angle) isClockwise == i

/-- The point the bin is filled from. -/
def nearest (pi : K) (isClockwise : Bool) (points : List (LaserPoint K)) (i : ℕ) :
    Option (LaserPoint K) :=
  (binPoints pi isClockwise points i).argmin (offGrid pi isClockwise i)

def rangeOf (p : Option (LaserPoint K)) : WithTop K := p.elim ⊤ LaserPoint.distance

def intensityOf (p : Option (LaserPoint K)) : K := p.elim 0 fun p => (p.quality.toNat : K)

def srcAngleOf (pi : K) (p : Option (LaserPoint K)) : K :=
  p.elim 0 fun p => calcAngleInNegativePiToPi pi p.angle

def bins {α : Type} (f : ℕ → α) : List α := (List.range compensatedAngleCnt).map f

/-- The message that describes the points, with the angles its bins were filled from. -/
def resampled (pi : K) (isClockwise : Bool) (points : List (LaserPoint K)) :
    LaserScan K × List K :=
  ({ initialScan pi isClockwise with
      ranges := bins fun i => rangeOf (nearest pi isClockwise points i)
      intensities := bins fun i => intensityOf (nearest pi isClockwise points i) },
    bins fun i => srcAngleOf pi (nearest pi isClockwise points i))

theorem bins_getElem? {α : Type} (f : ℕ → α) {i : ℕ} (hi : i < compensatedAngleCnt) :
    (bins f)[i]? = some (f i) := by
  simp [bins, hi]

/-- Overwriting the bin in which two messages differ. -/
theorem bins_set {α : Type} {f g : ℕ → α} {d : ℕ} {v : α} (hd : g d = v)
    (hother : ∀ i, i ≠ d → g i = f i) : (bins f).set d v = bins g := by
  apply List.ext_getElem?
  intro i
  by_cases hi : i < compensatedAngleCnt
  · rw [List.getElem?_set, bins_getElem? g hi, bins_getElem? f hi]
    by_cases hid : d = i
    · subst hid
      simp [bins, hi, hd]
    · rw [if_neg hid, hother i (Ne.symm hid)]
  · have hlen : (bins f).length ≤ i ∧ (bins g).length ≤ i := by
      simpa [bins] using hi
    rw [List.getElem?_eq_none (by simpa using hlen.1), List.getElem?_eq_none hlen.2]

theorem nearest_concat_of_other {pi : K} {isClockwise : Bool} {points : List (LaserPoint K)}
    {p : LaserPoint K} {i : ℕ} (hother : ¬(p.valid = true ∧
      binIndex pi (calcAngleInNegativePiToPi pi p.angle) isClockwise = i)) :
    nearest pi isClockwise (points ++ [p]) i = nearest pi isClockwise points i := by
  have hfilter : binPoints pi isClockwise (points ++ [p]) i =
      binPoints pi isClockwise points i := by
    simp only [binPoints, List.filter_append]
    simpa [List.filter_cons] using hother
  rw [nearest, hfilter, nearest]

theorem nearest_concat {pi : K} {isClockwise : Bool} (points : List (LaserPoint K))
    {p : LaserPoint K} {i : ℕ} (hvalid : p.valid = true)
    (hi : binIndex pi (calcAngleInNegativePiToPi pi p.angle) isClockwise = i) :
    nearest pi isClockwise (points ++ [p]) i =
      (nearest pi isClockwise points i).elim (some p) fun q =>
        if offGrid pi isClockwise i p < offGrid pi isClockwise i q then some p else some q := by
  have hfilter : binPoints pi isClockwise (points ++ [p]) i =
      binPoints pi isClockwise points i ++ [p] := by
    simp [binPoints, List.filter_append, hvalid, hi]
  rw [nearest, hfilter, List.argmin_concat, nearest]
  cases (binPoints pi isClockwise points i).argmin (offGrid pi isClockwise i) <;> rfl

theorem mem_of_nearest {pi : K} {isClockwise : Bool} {points : List (LaserPoint K)} {i : ℕ}
    {p : LaserPoint K} (h : nearest pi isClockwise points i = some p) :
    p ∈ points ∧ p.valid = true := by
  have hmem := List.argmin_mem h
  simp only [binPoints, List.mem_filter, Bool.and_eq_true] at hmem
  exact ⟨hmem.1, hmem.2.1⟩

/-- What the message says about one bin. -/
theorem resampled_getElem? (pi : K) (isClockwise : Bool) (points : List (LaserPoint K)) {i : ℕ}
    (hi : i < compensatedAngleCnt) :
    (resampled pi isClockwise points).1.ranges[i]? =
        some (rangeOf (nearest pi isClockwise points i)) ∧
      (resampled pi isClockwise points).1.intensities[i]? =
        some (intensityOf (nearest pi isClockwise points i)) ∧
      (resampled pi isClockwise points).2[i]? =
        some (srcAngleOf pi (nearest pi isClockwise points i)) :=
  ⟨bins_getElem? (fun i => rangeOf (nearest pi isClockwise points i)) hi,
    bins_getElem? (fun i => intensityOf (nearest pi isClockwise points i)) hi,
    bins_getElem? (fun i => srcAngleOf pi (nearest pi isClockwise points i)) hi⟩

theorem resampled_ext {pi : K} {isClockwise : Bool} {points points' : List (LaserPoint K)}
    (h : ∀ i < compensatedAngleCnt,
      nearest pi isClockwise points i = nearest pi isClockwise points' i) :
    resampled pi isClockwise points = resampled pi isClockwise points' := by
  have hbins : ∀ {α : Type} (f : Option (LaserPoint K) → α),
      (bins fun i => f (nearest pi isClockwise points i)) =
        bins fun i => f (nearest pi isClockwise points' i) :=
    fun f => List.map_congr_left fun i hi => congrArg f (h i (List.mem_range.mp hi))
  simp only [resampled, hbins rangeOf, hbins intensityOf, hbins (srcAngleOf pi)]

/-- Filling the bin of a point. -/
theorem resampled_set {pi : K} {isClockwise : Bool} {points : List (LaserPoint K)}
    {p : LaserPoint K} {d : ℕ} (hd : nearest pi isClockwise (points ++ [p]) d = some p)
    (hother : ∀ i, i ≠ d →
      nearest pi isClockwise (points ++ [p]) i = nearest pi isClockwise points i) :
    ({ (resampled pi isClockwise points).1 with
        ranges := (resampled pi isClockwise points).1.ranges.set d p.distance
        intensities := (resampled pi isClockwise points).1.intensities.set d
          (p.quality.toNat : K) },
      (resampled pi isClockwise points).2.set d (calcAngleInNegativePiToPi pi p.angle)) =
    resampled pi isClockwise (points ++ [p]) := by
  simp only [resampled]
  rw [bins_set (g := fun i => rangeOf (nearest pi isClockwise (points ++ [p]) i)) (by rw [hd]; rfl)
      fun i hi => by rw [hother i hi],
    bins_set (g := fun i => intensityOf (nearest pi isClockwise (points ++ [p]) i))
      (by rw [hd]; rfl) fun i hi => by rw [hother i hi],
    bins_set (g := fun i => srcAngleOf pi (nearest pi isClockwise (points ++ [p]) i))
      (by rw [hd]; rfl) fun i hi => by rw [hother i hi]]

/-! ## The loop -/

variable [IsStrictOrderedRing K]

/-- The comparison of the code decides which of two points is nearer to the bin. -/
theorem moreClose_eq {pi : K} (hpi : 0 < pi) (isClockwise : Bool) (i : ℕ) (p q : LaserPoint K) :
    isSrcAngleMoreCloseThanOldSrcAngle pi (calcAngleInNegativePiToPi pi p.angle)
        (calcAngleInNegativePiToPi pi (gridAngle pi isClockwise i))
        (calcAngleInNegativePiToPi pi q.angle) =
      .ok (decide (offGrid pi isClockwise i p < offGrid pi isClockwise i q)) := by
  have hperiod : 0 < 2 * pi := by linarith
  obtain ⟨m, hgrid, hgrid₁, hgrid₂⟩ := calcAngle_spec hpi (gridAngle pi isClockwise i)
  have hdist : ∀ p : LaserPoint K, angleDiff pi
      (calcAngleInNegativePiToPi pi (gridAngle pi isClockwise i))
      (calcAngleInNegativePiToPi pi p.angle) = offGrid pi isClockwise i p := by
    intro p
    obtain ⟨n, hn, hlo, hhi⟩ := calcAngle_spec hpi p.angle
    rw [angleDiff_eq_dist hgrid₁ hgrid₂ hlo hhi, hgrid, Circle.dist_sub_period hperiod,
      Circle.dist_comm hperiod, hn, Circle.dist_sub_period hperiod, offGrid, twoPi_eq]
  obtain ⟨-, -, hp, hp'⟩ := calcAngle_spec hpi p.angle
  obtain ⟨-, -, hq, hq'⟩ := calcAngle_spec hpi q.angle
  unfold isSrcAngleMoreCloseThanOldSrcAngle
  rw [boostAssert_of (And.intro hp hp'), boostAssert_of (And.intro hgrid₁ hgrid₂),
    boostAssert_of (And.intro hq hq')]
  simp only [except_ok_bind, hdist]
  rfl

/-- One more point: the message describes the longer list. -/
theorem compensateAndfillRangeInMsg_eq {pi : K} (hpi : 0 < pi) (isClockwise : Bool)
    {points : List (LaserPoint K)} (p : LaserPoint K)
    (hfinite : ∀ q ∈ points, q.valid = true → q.distance ≠ ⊤) :
    compensateAndfillRangeInMsg pi isClockwise (resampled pi isClockwise points) p =
      .ok (resampled pi isClockwise (points ++ [p])) := by
  by_cases hvalid : p.valid = true
  · set d := binIndex pi (calcAngleInNegativePiToPi pi p.angle) isClockwise with hd
    obtain ⟨-, -, hlo, hhi⟩ := calcAngle_spec hpi p.angle
    have hlt : d < compensatedAngleCnt := binIndex_lt _ _ isClockwise
    have hother : ∀ i, i ≠ d →
        nearest pi isClockwise (points ++ [p]) i = nearest pi isClockwise points i :=
      fun i hi => nearest_concat_of_other fun h => hi h.2.symm
    have hnearest := nearest_concat points hvalid hd.symm
    obtain ⟨hrange, -, hangle⟩ := resampled_getElem? pi isClockwise points hlt
    have hgrid : (resampled pi isClockwise points).1.angleMin +
        (resampled pi isClockwise points).1.angleIncrement * (d : ℕ) =
        gridAngle pi isClockwise d := rfl
    unfold compensateAndfillRangeInMsg
    simp only [if_pos hvalid, calcIndex_eq hlo hhi, ← hd, except_ok_bind, boostAssert_of hlt,
      hrange, hangle, hgrid]
    cases hbest : nearest pi isClockwise points d with
    | none =>
        have hwrite : nearest pi isClockwise (points ++ [p]) d = some p := by
          rw [hnearest, hbest]
          rfl
        simp only [rangeOf, Option.elim_none, if_true]
        exact congrArg Except.ok (resampled_set hwrite hother)
    | some q =>
        obtain ⟨hq, hqvalid⟩ := mem_of_nearest hbest
        have hfull : ¬q.distance = ⊤ := hfinite q hq hqvalid
        rw [hbest, Option.elim_some] at hnearest
        simp only [rangeOf, srcAngleOf, Option.elim_some, if_neg hfull,
          moreClose_eq hpi isClockwise d p q, except_ok_bind, decide_eq_true_eq]
        split_ifs at hnearest ⊢ with hcloser
        · exact congrArg Except.ok (resampled_set hnearest hother)
        · refine congrArg Except.ok (resampled_ext fun i _ => ?_)
          by_cases hi : i = d
          · rw [hi, hnearest, hbest]
          · exact (hother i hi).symm
  · have hsame : resampled pi isClockwise (points ++ [p]) = resampled pi isClockwise points :=
      resampled_ext fun i _ => nearest_concat_of_other fun h => hvalid h.1
    rw [hsame]
    simp only [compensateAndfillRangeInMsg, if_neg hvalid]
    rfl

theorem foldlM_eq {pi : K} (hpi : 0 < pi) (isClockwise : Bool)
    {done points : List (LaserPoint K)}
    (hfinite : ∀ q ∈ done ++ points, q.valid = true → q.distance ≠ ⊤) :
    points.foldlM (compensateAndfillRangeInMsg pi isClockwise) (resampled pi isClockwise done) =
      .ok (resampled pi isClockwise (done ++ points)) := by
  induction points generalizing done with
  | nil =>
      rw [List.append_nil]
      rfl
  | cons p points ih =>
      have hdone : ∀ q ∈ done, q.valid = true → q.distance ≠ ⊤ :=
        fun q hq => hfinite q (List.mem_append_left _ hq)
      rw [List.foldlM_cons, compensateAndfillRangeInMsg_eq hpi isClockwise p hdone,
        except_ok_bind]
      rw [List.append_cons done p points] at hfinite ⊢
      exact ih hfinite

/-- The loop computes the message that describes all points, in the order of the loop. -/
theorem compensateAndfillRangesInMsg_eq {pi : K} (hpi : 0 < pi) {points : List (LaserPoint K)}
    (hlength : 2 ≤ points.length) (isClockwise isLaserDataReverse : Bool)
    (hfinite : ∀ q ∈ points, q.valid = true → q.distance ≠ ⊤) :
    compensateAndfillRangesInMsg pi points isClockwise isLaserDataReverse =
      .ok (resampled pi isClockwise (processed points isLaserDataReverse)).1 := by
  have hempty : (initialScan pi isClockwise, List.replicate compensatedAngleCnt (0 : K)) =
      resampled pi isClockwise [] := by
    have hnone : ∀ i, nearest pi isClockwise [] i = none := fun _ => rfl
    simp [resampled, hnone, rangeOf, intensityOf, srcAngleOf, bins, initialScan,
      List.map_const']
  have hall : ∀ q ∈ [] ++ processed points isLaserDataReverse, q.valid = true →
      q.distance ≠ ⊤ := by
    intro q hq
    refine hfinite q ?_
    cases isLaserDataReverse with
    | false => exact hq
    | true => exact List.mem_reverse.mp hq
  unfold compensateAndfillRangesInMsg
  simp only [boostAssert_of hlength, except_ok_bind, hempty, foldlM_eq hpi isClockwise hall,
    List.nil_append]
  rfl

/-! ## What the bins hold -/

theorem mapsTo_iff {pi : K} (hpi : 0 < pi) {isClockwise : Bool} {i : ℕ} {p : LaserPoint K} :
    MapsTo pi isClockwise i p ↔ p.valid = true ∧
      binIndex pi (calcAngleInNegativePiToPi pi p.angle) isClockwise = i := by
  obtain ⟨-, -, hlo, hhi⟩ := calcAngle_spec hpi p.angle
  rw [MapsTo, calcIndex_eq hlo hhi, Except.ok.injEq]

theorem mem_binPoints {pi : K} (hpi : 0 < pi) {isClockwise : Bool}
    {points : List (LaserPoint K)} {i : ℕ} {p : LaserPoint K} :
    p ∈ binPoints pi isClockwise points i ↔ p ∈ points ∧ MapsTo pi isClockwise i p := by
  rw [mapsTo_iff hpi]
  simp [binPoints]

theorem nearest_eq_none {pi : K} (hpi : 0 < pi) {isClockwise : Bool}
    {points : List (LaserPoint K)} {i : ℕ} :
    nearest pi isClockwise points i = none ↔ ∀ p ∈ points, ¬MapsTo pi isClockwise i p := by
  rw [nearest, List.argmin_eq_none, List.eq_nil_iff_forall_not_mem]
  simp only [mem_binPoints hpi, not_and]

/-- `p` is the first of the points that map to the bin and are nearest to its angle. -/
def FirstNearest (pi : K) (isClockwise : Bool) (i : ℕ) (points : List (LaserPoint K))
    (p : LaserPoint K) : Prop :=
  ∃ earlier later, points = earlier ++ p :: later ∧ MapsTo pi isClockwise i p ∧
    (∀ q ∈ earlier, MapsTo pi isClockwise i q →
      offGrid pi isClockwise i p < offGrid pi isClockwise i q) ∧
    ∀ q ∈ later, MapsTo pi isClockwise i q →
      offGrid pi isClockwise i p ≤ offGrid pi isClockwise i q

theorem firstNearest_of_nearest {pi : K} (hpi : 0 < pi) {isClockwise : Bool}
    {points : List (LaserPoint K)} {i : ℕ} {p : LaserPoint K}
    (h : nearest pi isClockwise points i = some p) :
    FirstNearest pi isClockwise i points p := by
  obtain ⟨before, after, hsplit, hbefore, hafter⟩ := List.exists_split_of_argmin h
  have hp : MapsTo pi isClockwise i p :=
    ((mem_binPoints hpi).mp (List.argmin_mem h)).2
  obtain ⟨front, back, rfl, hfront, hback⟩ := List.filter_eq_append_iff.mp hsplit
  obtain ⟨skipped, later, rfl, hskipped, -, hlater⟩ := List.filter_eq_cons_iff.mp hback
  refine ⟨front ++ skipped, later, (List.append_assoc ..).symm, hp, ?_, ?_⟩
  · intro q hq hmaps
    have hin := (mapsTo_iff hpi).mp hmaps
    rcases List.mem_append.mp hq with hq | hq
    · refine hbefore q ?_
      rw [← hfront]
      exact (mem_binPoints hpi).mpr ⟨hq, hmaps⟩
    · exact absurd (by simpa using hin) (hskipped q hq)
  · intro q hq hmaps
    refine hafter q ?_
    rw [← hlater]
    exact (mem_binPoints hpi).mpr ⟨hq, hmaps⟩

/-- Without ties in the bin the order of the points does not matter. -/
theorem nearest_perm {pi : K} (hpi : 0 < pi) {isClockwise : Bool}
    {points points' : List (LaserPoint K)} (hperm : points.Perm points') {i : ℕ}
    (hties : points.Pairwise fun p q => MapsTo pi isClockwise i p → MapsTo pi isClockwise i q →
      offGrid pi isClockwise i p ≠ offGrid pi isClockwise i q) :
    nearest pi isClockwise points i = nearest pi isClockwise points' i := by
  refine List.argmin_perm (hperm.filter _) ?_
  rw [List.nodup_iff_pairwise_ne, List.pairwise_map]
  refine List.Pairwise.imp_of_mem ?_ (hties.filter _)
  intro p q hp hq hne
  exact hne ((mem_binPoints hpi).mp hp).2 ((mem_binPoints hpi).mp hq).2

omit [Field K] [LinearOrder K] [FloorRing K] [IsStrictOrderedRing K] in
theorem processed_perm (points : List (LaserPoint K)) (isLaserDataReverse : Bool) :
    points.Perm (processed points isLaserDataReverse) := by
  cases isLaserDataReverse with
  | false => exact List.Perm.refl _
  | true => exact (List.reverse_perm _).symm

theorem resampled_bin {pi : K} (hpi : 0 < pi) (isClockwise : Bool) {points : List (LaserPoint K)}
    (hfinite : ∀ p ∈ points, p.valid = true → p.distance ≠ ⊤) {i : ℕ}
    (hi : i < compensatedAngleCnt) :
    let msg := (resampled pi isClockwise points).1
    (msg.ranges[i]? = some ⊤ ↔ ∀ p ∈ points, ¬MapsTo pi isClockwise i p) ∧
      (msg.ranges[i]? ≠ some ⊤ → ∃ p, FirstNearest pi isClockwise i points p ∧
        msg.ranges[i]? = some p.distance ∧
        msg.intensities[i]? = some (p.quality.toNat : K)) := by
  intro msg
  obtain ⟨hrange, hintensity, -⟩ := resampled_getElem? pi isClockwise points hi
  rw [hrange, hintensity, ← nearest_eq_none hpi]
  cases hbest : nearest pi isClockwise points i with
  | none => exact ⟨iff_of_true rfl rfl, fun h => absurd rfl h⟩
  | some p =>
      obtain ⟨hp, hvalid⟩ := mem_of_nearest hbest
      have hfull : p.distance ≠ ⊤ := hfinite p hp hvalid
      refine ⟨iff_of_false (fun h => hfull (Option.some.inj h)) nofun, fun _ => ?_⟩
      exact ⟨p, firstNearest_of_nearest hpi hbest, rfl, rfl⟩

omit [IsStrictOrderedRing K] in
/-- Fewer than two points fail the assertion. -/
theorem compensate_of_short (pi : K) {points : List (LaserPoint K)}
    (hlength : ¬2 ≤ points.length) (isClockwise isLaserDataReverse : Bool) :
    compensateAndfillRangesInMsg pi points isClockwise isLaserDataReverse =
      .error (.assertion "2 <= laserPoints.size()") := by
  unfold compensateAndfillRangesInMsg boostAssert
  rw [if_neg hlength, except_error_bind]

/-- Each of the 360 bins holds the first nearest of its points, or infinity if it has none;
without ties the order of the points does not matter. -/
theorem compensated_bins {pi : K} (hpi : 0 < pi) (points : List (LaserPoint K))
    (hfinite : ∀ p ∈ points, p.valid = true → p.distance ≠ ⊤)
    (isClockwise isLaserDataReverse : Bool) :
    ((∃ msg, compensateAndfillRangesInMsg pi points isClockwise isLaserDataReverse = .ok msg) ↔
      2 ≤ points.length) ∧
    (∀ msg, compensateAndfillRangesInMsg pi points isClockwise isLaserDataReverse = .ok msg →
      msg.ranges.length = compensatedAngleCnt ∧ msg.intensities.length = compensatedAngleCnt ∧
      ∀ i < compensatedAngleCnt,
        (msg.ranges[i]? = some ⊤ ↔ ∀ p ∈ points, ¬MapsTo pi isClockwise i p) ∧
        (msg.ranges[i]? ≠ some ⊤ → ∃ p,
          FirstNearest pi isClockwise i (processed points isLaserDataReverse) p ∧
            msg.ranges[i]? = some p.distance ∧
            msg.intensities[i]? = some (p.quality.toNat : K))) ∧
    ((∀ i < compensatedAngleCnt, points.Pairwise fun p q => MapsTo pi isClockwise i p →
        MapsTo pi isClockwise i q →
          offGrid pi isClockwise i p ≠ offGrid pi isClockwise i q) →
      ∀ points' isLaserDataReverse', points.Perm points' →
        compensateAndfillRangesInMsg pi points' isClockwise isLaserDataReverse' =
          compensateAndfillRangesInMsg pi points isClockwise isLaserDataReverse) := by
  by_cases hlength : 2 ≤ points.length
  · have hperm := processed_perm points isLaserDataReverse
    have heq := compensateAndfillRangesInMsg_eq hpi hlength isClockwise isLaserDataReverse hfinite
    refine ⟨iff_of_true ⟨_, heq⟩ hlength, ?_, ?_⟩
    · intro msg hmsg
      rw [heq, Except.ok.injEq] at hmsg
      subst hmsg
      refine ⟨by simp [resampled, bins], by simp [resampled, bins], fun i hi => ?_⟩
      have hbin := resampled_bin hpi isClockwise
        (fun p hp => hfinite p (hperm.mem_iff.mpr hp)) hi
      refine ⟨hbin.1.trans ?_, hbin.2⟩
      exact forall_congr' fun p => by rw [hperm.mem_iff]
    · intro hties points' isLaserDataReverse' hperm'
      have hfinite' : ∀ p ∈ points', p.valid = true → p.distance ≠ ⊤ :=
        fun p hp => hfinite p (hperm'.mem_iff.mpr hp)
      rw [heq, compensateAndfillRangesInMsg_eq hpi (hlength.trans_eq hperm'.length_eq) isClockwise
        isLaserDataReverse' hfinite']
      have hnearest : ∀ i < compensatedAngleCnt,
          nearest pi isClockwise (processed points' isLaserDataReverse') i =
            nearest pi isClockwise (processed points isLaserDataReverse) i := fun i hi =>
        (nearest_perm hpi (hperm'.trans (processed_perm points' isLaserDataReverse'))
          (hties i hi)).symm.trans (nearest_perm hpi hperm (hties i hi))
      rw [resampled_ext hnearest]
  · have hshort := compensate_of_short pi hlength isClockwise isLaserDataReverse
    refine ⟨iff_of_false ?_ hlength, ?_, ?_⟩
    · rintro ⟨msg, hmsg⟩
      rw [hshort] at hmsg
      cases hmsg
    · intro msg hmsg
      rw [hshort] at hmsg
      cases hmsg
    · intro _ points' isLaserDataReverse' hperm'
      rw [hshort, compensate_of_short pi (by rwa [← hperm'.length_eq])]

/-- Two points near the angle 0 and one that is not valid. -/
theorem compensated_bins_three : ∃ msg, compensateAndfillRangesInMsg (13176795 / 4194304 : ℚ)
      [⟨(2 : ℚ), 0, true, 7⟩, ⟨(5 : ℚ), 1 / 1000, true, 9⟩, ⟨⊤, -3, false, 0⟩] false true =
        .ok msg ∧
    msg.ranges[8]? = some ⊤ ∧ msg.ranges[180]? ≠ some ⊤ := by
  have hpi : (0 : ℚ) < 13176795 / 4194304 := by norm_num
  obtain ⟨hreturns, hbins, -⟩ := compensated_bins hpi
    [⟨(2 : ℚ), 0, true, 7⟩, ⟨(5 : ℚ), 1 / 1000, true, 9⟩, ⟨⊤, -3, false, 0⟩]
    (by simp) false true
  obtain ⟨msg, hmsg⟩ := hreturns.mpr (by decide)
  obtain ⟨-, -, hbin⟩ := hbins msg hmsg
  refine ⟨msg, hmsg, (hbin 8 (by decide)).1.mpr ?_, fun hempty => ?_⟩
  · unfold MapsTo
    decide +kernel
  · have hall := (hbin 180 (by decide)).1.mp hempty _ List.mem_cons_self
    revert hall
    unfold MapsTo
    decide +kernel

end Ros2WsDemo.ServerLaserScanWorker
