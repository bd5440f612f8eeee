import Ros2WsDemo.Laser.Bins
import Ros2WsDemo.Lib.ExceptState

/-!
# The published laser scan

`ServerLaserScanWorker::doPerform`: the bounds of the ranges are accumulated over the valid
points in one pass, the ranges are filled in another.
-/

namespace Ros2WsDemo

/-- `rpos::core::Pose`, as far as the transform of the laser uses it. -/
structure LaserPose (K : Type) where
  x : K
  y : K
  yaw : K

/-- `rpos::features::system_resource::LaserScan` -/
structure SystemScan (K : Type) where
  laserPoints : List (LaserPoint K)
  startTimestamp : UInt64
  endTimestamp : UInt64
  laserPointsPose : Option (LaserPose K)

/-- `builtin_interfaces::msg::Time` -/
structure TimeMsg where
  sec : Int32
  nanosec : UInt32
  deriving DecidableEq

namespace TimeMsg

/-- The conversion of an `rclcpp::Time`, which cuts the seconds to 32 bits. -/
def ofTime (time : Int64) : TimeMsg where
  sec := Int32.ofInt (time.toInt / 10 ^ 9)
  nanosec := UInt32.ofNat (time.toInt % 10 ^ 9).toNat

def nanoseconds (stamp : TimeMsg) : ℤ := stamp.sec.toInt * 10 ^ 9 + stamp.nanosec.toNat

theorem nanoseconds_ofTime {time : Int64} (hlow : -2 ^ 31 * 10 ^ 9 ≤ time.toInt)
    (hhigh : time.toInt < 2 ^ 31 * 10 ^ 9) : (ofTime time).nanoseconds = time.toInt := by
  have hsec : (Int32.ofInt (time.toInt / 10 ^ 9)).toInt = time.toInt / 10 ^ 9 :=
    Int32.toInt_ofInt_of_le (by omega) (by omega)
  have hnanosec : (UInt32.ofNat (time.toInt % 10 ^ 9).toNat).toNat = (time.toInt % 10 ^ 9).toNat :=
    UInt32.toNat_ofNat_of_lt (by rw [UInt32.size]; omega)
  rw [nanoseconds, ofTime, hsec, hnanosec]
  omega

end TimeMsg

/-- `sensor_msgs::msg::LaserScan` -/
structure LaserScanMsg (K : Type) where
  stamp : TimeMsg
  frameId : String
  scan : LaserScan K
  rangeMin : WithTop K
  rangeMax : WithTop K
  scanTime : K
  timeIncrement : K

/-- `geometry_msgs::msg::TransformStamped` -/
structure TransformStamped (K Q : Type) where
  stamp : TimeMsg
  frameId : String
  childFrameId : String
  x : K
  y : K
  z : K
  rotation : Q

namespace ServerLaserScanWorker

/-- The parameters the worker reads. -/
structure Params where
  rawLadarData : Bool
  ladarDataClockwise : Bool
  angleCompensate : Bool
  laserFrame : String
  mapFrame : String

variable {K : Type} [Field K] [LinearOrder K]

/-! ## Filling the message -/

/-- `range_min` and `range_max` after one more point. -/
def widenRange (range : WithTop K × WithTop K) (p : LaserPoint K) : WithTop K × WithTop K :=
  if p.valid then
    (if p.distance < range.1 then max 0 p.distance else range.1,
      if range.2 < p.distance then p.distance else range.2)
  else range

def fillRangeMinMaxInMsg (laserPoints : List (LaserPoint K)) : WithTop K × WithTop K :=
  laserPoints.foldl widenRange (⊤, 0)

def fillOriginalRangesInMsg (laserPoints : List (LaserPoint K)) (isLaserDataReverse : Bool) :
    Except Exn (LaserScan K) :=
  let points := processed laserPoints isLaserDataReverse
  match points.head?, points.getLast? with
  | some first, some last => .ok {
      angleMin := first.angle
      angleMax := last.angle
      angleIncrement := (last.angle - first.angle) / ((points.length - 1 : ℕ) : K)
      ranges := points.map fun p => if p.valid then p.distance else ⊤
      intensities := points.map fun p => if p.valid then (p.quality.toNat : K) else 0 }
  | _, _ => .error .outOfRange

def isLaserDataReverse (laserPoints : List (LaserPoint K)) (isClockwise : Bool) : Bool :=
  match laserPoints.head?, laserPoints.getLast? with
  | some front, some back =>
      (back.angle < front.angle && !isClockwise) || (front.angle < back.angle && isClockwise)
  | _, _ => false

/-! ## Performing -/

/-- `(end - start).seconds()`; a difference that does not fit is a `std::overflow_error`. -/
def seconds (startTime endTime : Int64) : Except Exn K :=
  let diff := endTime.toInt - startTime.toInt
  if -2 ^ 63 ≤ diff ∧ diff < 2 ^ 63 then .ok ((diff : K) / (10 ^ 9 : ℕ)) else .error .otherStd

/-- `rclcpp::Time(timestamp * 1000)` -/
def timeOfMicros (timestamp : UInt64) : Int64 := (timestamp * 1000).toInt64

section Perform

variable [FloorRing K] {Q : Type} (pi : K) (quaternionOfYaw : K → Q) (params : Params)

/-- The end of `doPerform`: what is broadcast and published, if there are enough points. -/
def publishScan (robotPose : LaserPose K) (startScanTime endScanTime : Int64)
    (tLs : SystemScan K) : Except Exn (Option (TransformStamped K Q × LaserScanMsg K)) := do
  let dblScanDur ← seconds startScanTime endScanTime
  let points := tLs.laserPoints
  if points.length < 2 then
    return none
  let laserPose := tLs.laserPointsPose.getD robotPose
  let (rangeMin, rangeMax) := fillRangeMinMaxInMsg points
  let reverse := isLaserDataReverse points params.ladarDataClockwise
  let scan ← if params.angleCompensate
    then compensateAndfillRangesInMsg pi points params.ladarDataClockwise reverse
    else fillOriginalRangesInMsg points reverse
  boostAssert (2 ≤ scan.ranges.length) "2 <= msgScan.ranges.size()"
  return some ({
      stamp := .ofTime startScanTime
      frameId := params.mapFrame
      childFrameId := params.laserFrame
      x := laserPose.x
      y := laserPose.y
      z := 0
      rotation := quaternionOfYaw laserPose.yaw },
    { stamp := .ofTime startScanTime
      frameId := params.laserFrame
      scan := scan
      rangeMin := rangeMin
      rangeMax := rangeMax
      scanTime := dblScanDur
      timeIncrement := dblScanDur / ((scan.ranges.length - 1 : ℕ) : K) })

/-- `clock` is read before and after a scan that is not raw; the state is
`latestLidarStartTimestamp_`. -/
def doPerform (robotPose : LaserPose K) (clock : Int64 × Int64) (tLs : SystemScan K)
    (latestLidarStartTimestamp : UInt64) :
    Except Exn (Option (TransformStamped K Q × LaserScanMsg K)) × UInt64 :=
  if !params.rawLadarData then
    (publishScan pi quaternionOfYaw params robotPose clock.1 clock.2 tLs, latestLidarStartTimestamp)
  else if latestLidarStartTimestamp = tLs.startTimestamp then
    (.ok none, latestLidarStartTimestamp)
  else
    (publishScan pi quaternionOfYaw params robotPose (timeOfMicros tLs.startTimestamp)
      (timeOfMicros tLs.endTimestamp) tLs, tLs.startTimestamp)

end Perform

/-! ## The bounds -/

/-- `range_min` does not exceed `range_max`, and the finite ranges lie between them. -/
def WellFormed (msg : LaserScanMsg K) : Prop :=
  msg.rangeMin ≤ msg.rangeMax ∧
    ∀ r ∈ msg.scan.ranges, r ≠ ⊤ → msg.rangeMin ≤ r ∧ r ≤ msg.rangeMax

theorem widenRange_mono (range : WithTop K × WithTop K) {p : LaserPoint K} (hp : 0 ≤ p.distance) :
    (widenRange range p).1 ≤ range.1 ∧ range.2 ≤ (widenRange range p).2 ∧
      (p.valid = true → (widenRange range p).1 ≤ p.distance ∧
        p.distance ≤ (widenRange range p).2) := by
  unfold widenRange
  by_cases hvalid : p.valid = true
  · simp only [hvalid, if_true, forall_const, max_eq_right hp]
    refine ⟨?_, ?_, ?_, ?_⟩
    · split_ifs with h
      · exact h.le
      · exact le_rfl
    · split_ifs with h
      · exact h.le
      · exact le_rfl
    · split_ifs with h
      · exact le_rfl
      · exact not_lt.1 h
    · split_ifs with h
      · exact le_rfl
      · exact not_lt.1 h
  · simp only [hvalid]
    exact ⟨le_rfl, le_rfl, fun h => (Bool.false_ne_true h).elim⟩

theorem foldl_widenRange {points : List (LaserPoint K)} (hdist : ∀ p ∈ points, 0 ≤ p.distance)
    (range : WithTop K × WithTop K) :
    (points.foldl widenRange range).1 ≤ range.1 ∧ range.2 ≤ (points.foldl widenRange range).2 ∧
      ∀ p ∈ points, p.valid = true → (points.foldl widenRange range).1 ≤ p.distance ∧
        p.distance ≤ (points.foldl widenRange range).2 := by
  induction points generalizing range with
  | nil => exact ⟨le_rfl, le_rfl, nofun⟩
  | cons p points ih =>
      rw [List.forall_mem_cons] at hdist
      obtain ⟨hmin, hmax, hbetween⟩ := widenRange_mono range hdist.1
      obtain ⟨ihmin, ihmax, ihbetween⟩ := ih hdist.2 (widenRange range p)
      rw [List.foldl_cons, List.forall_mem_cons]
      refine ⟨ihmin.trans hmin, hmax.trans ihmax, fun hvalid => ?_, ihbetween⟩
      exact ⟨ihmin.trans (hbetween hvalid).1, (hbetween hvalid).2.trans ihmax⟩

/-- Without a valid point the initial values stay, infinity below zero. -/
theorem foldl_widenRange_of_invalid {points : List (LaserPoint K)}
    (hinvalid : ∀ p ∈ points, ¬ p.valid = true) (range : WithTop K × WithTop K) :
    points.foldl widenRange range = range := by
  induction points with
  | nil => rfl
  | cons p points ih =>
      rw [List.forall_mem_cons] at hinvalid
      rw [List.foldl_cons, widenRange, if_neg hinvalid.1]
      exact ih hinvalid.2

/-! ## The ranges -/

/-- A range of the message is empty, or the distance of a valid point. -/
def FromPoints (points : List (LaserPoint K)) (ranges : List (WithTop K)) : Prop :=
  ∀ r ∈ ranges, r ≠ ⊤ → ∃ p ∈ points, p.valid = true ∧ r = p.distance

omit [LinearOrder K] in
theorem fillOriginalRangesInMsg_ranges {laserPoints : List (LaserPoint K)}
    (hlength : 2 ≤ laserPoints.length) (reverse : Bool) :
    ∃ scan, fillOriginalRangesInMsg laserPoints reverse = .ok scan ∧
      2 ≤ scan.ranges.length ∧ FromPoints laserPoints scan.ranges := by
  have hperm := processed_perm laserPoints reverse
  have hne : processed laserPoints reverse ≠ [] := by
    intro hnil
    have hzero := hperm.length_eq
    rw [hnil, List.length_nil] at hzero
    omega
  unfold fillOriginalRangesInMsg
  simp only [List.head?_eq_some_head hne, List.getLast?_eq_some_getLast hne]
  refine ⟨_, rfl, ?_, ?_⟩
  · rw [List.length_map, ← hperm.length_eq]
    exact hlength
  · intro r hr hfinite
    obtain ⟨p, hp, rfl⟩ := List.mem_map.1 hr
    split_ifs at hfinite ⊢ with hvalid
    · exact ⟨p, hperm.mem_iff.2 hp, hvalid, rfl⟩
    · exact (hfinite rfl).elim

/-- What the loop over the points keeps: 360 bins, angles in one period, and ranges that
come from points. -/
structure Filling (pi : K) (points : List (LaserPoint K)) (msg : LaserScan K × List K) :
    Prop where
  ranges_length : msg.1.ranges.length = compensatedAngleCnt
  angles_length : msg.2.length = compensatedAngleCnt
  angles : ∀ a ∈ msg.2, -pi ≤ a ∧ a < pi
  ranges : FromPoints points msg.1.ranges

section Loop

variable {pi : K} {points : List (LaserPoint K)} {msg : LaserScan K × List K}

theorem Filling.write (h : Filling pi points msg) {p : LaserPoint K} (hp : p ∈ points)
    (hvalid : p.valid = true) (d : ℕ) (intensity : K) {srcAngle : K} (hlo : -pi ≤ srcAngle)
    (hhi : srcAngle < pi) :
    Filling pi points ({ msg.1 with
      ranges := msg.1.ranges.set d p.distance
      intensities := msg.1.intensities.set d intensity }, msg.2.set d srcAngle) where
  ranges_length := by rw [List.length_set, h.ranges_length]
  angles_length := by rw [List.length_set, h.angles_length]
  angles := by
    intro a ha
    rcases List.mem_or_eq_of_mem_set ha with ha | rfl
    · exact h.angles a ha
    · exact ⟨hlo, hhi⟩
  ranges := by
    intro r hr hfinite
    rcases List.mem_or_eq_of_mem_set hr with hr | rfl
    · exact h.ranges r hr hfinite
    · exact ⟨p, hp, hvalid, rfl⟩

theorem isMoreClose_ok {a b c : K} (ha : -pi ≤ a ∧ a < pi) (hb : -pi ≤ b ∧ b < pi)
    (hc : -pi ≤ c ∧ c < pi) :
    ∃ closer, isSrcAngleMoreCloseThanOldSrcAngle pi a b c = .ok closer := by
  unfold isSrcAngleMoreCloseThanOldSrcAngle
  rw [boostAssert_of ha, boostAssert_of hb, boostAssert_of hc]
  exact ⟨_, rfl⟩

variable [IsStrictOrderedRing K] [FloorRing K]

theorem Filling.step (hpi : 0 < pi) (isClockwise : Bool) (h : Filling pi points msg)
    {p : LaserPoint K} (hp : p ∈ points) :
    ∃ next, compensateAndfillRangeInMsg pi isClockwise msg p = .ok next ∧
      Filling pi points next := by
  unfold compensateAndfillRangeInMsg
  by_cases hvalid : p.valid = true
  · obtain ⟨-, -, hlo, hhi⟩ := calcAngle_spec hpi p.angle
    set d := binIndex pi (calcAngleInNegativePiToPi pi p.angle) isClockwise with hd
    have hlt : d < compensatedAngleCnt := binIndex_lt _ _ isClockwise
    obtain ⟨range, hrange⟩ : ∃ range, msg.1.ranges[d]? = some range :=
      ⟨_, List.getElem?_eq_getElem (h.ranges_length ▸ hlt)⟩
    obtain ⟨old, hold⟩ : ∃ old, msg.2[d]? = some old :=
      ⟨_, List.getElem?_eq_getElem (h.angles_length ▸ hlt)⟩
    simp only [hvalid, if_true, calcIndex_eq hlo hhi, ← hd, except_ok_bind, boostAssert_of hlt,
      hrange, hold]
    have hwritten := h.write hp hvalid d (p.quality.toNat : K) hlo hhi
    by_cases hempty : range = ⊤
    · simp only [hempty, if_true]
      exact ⟨_, rfl, hwritten⟩
    · obtain ⟨-, -, hdest⟩ :=
        calcAngle_spec hpi (msg.1.angleMin + msg.1.angleIncrement * (d : ℕ))
      obtain ⟨closer, hcloser⟩ := isMoreClose_ok ⟨hlo, hhi⟩ hdest
        (h.angles old (List.mem_of_getElem? hold))
      simp only [hempty, if_false, hcloser, except_ok_bind]
      split_ifs
      · exact ⟨_, rfl, hwritten⟩
      · exact ⟨msg, rfl, h⟩
  · simp only [hvalid]
    exact ⟨msg, rfl, h⟩

theorem Filling.foldlM (hpi : 0 < pi) (isClockwise : Bool) (h : Filling pi points msg)
    {visited : List (LaserPoint K)} (hvisited : ∀ p ∈ visited, p ∈ points) :
    ∃ last, visited.foldlM (compensateAndfillRangeInMsg pi isClockwise) msg = .ok last ∧
      Filling pi points last := by
  induction visited generalizing msg with
  | nil => exact ⟨msg, rfl, h⟩
  | cons p visited ih =>
      rw [List.forall_mem_cons] at hvisited
      obtain ⟨next, hstep, hnext⟩ := h.step hpi isClockwise hvisited.1
      rw [List.foldlM_cons, hstep, except_ok_bind]
      exact ih hnext hvisited.2

theorem compensateAndfillRangesInMsg_ranges (hpi : 0 < pi) (hlength : 2 ≤ points.length)
    (isClockwise reverse : Bool) :
    ∃ scan, compensateAndfillRangesInMsg pi points isClockwise reverse = .ok scan ∧
      2 ≤ scan.ranges.length ∧ FromPoints points scan.ranges := by
  have hinit : Filling pi points
      (initialScan pi isClockwise, List.replicate compensatedAngleCnt (0 : K)) := by
    refine ⟨List.length_replicate, List.length_replicate, fun a ha => ?_, fun r hr hfinite => ?_⟩
    · rw [List.eq_of_mem_replicate ha]
      exact ⟨neg_nonpos.2 hpi.le, hpi⟩
    · exact (hfinite (List.eq_of_mem_replicate hr)).elim
  obtain ⟨last, hloop, hlast⟩ := hinit.foldlM hpi isClockwise
    (fun p hp => (processed_perm points reverse).mem_iff.2 hp)
  unfold compensateAndfillRangesInMsg
  rw [boostAssert_of hlength]
  simp only [except_ok_bind, hloop]
  refine ⟨last.1, rfl, ?_, hlast.ranges⟩
  rw [hlast.ranges_length]
  decide

/-! ## The published message -/

variable {Q : Type} {quaternionOfYaw : K → Q} {params : Params} {robotPose : LaserPose K}
  {tLs : SystemScan K} {out : TransformStamped K Q × LaserScanMsg K}

theorem exists_publishScan {startScanTime endScanTime : Int64} {dblScanDur : K} (hpi : 0 < pi)
    (htime : seconds startScanTime endScanTime = .ok dblScanDur)
    (hlength : 2 ≤ tLs.laserPoints.length) :
    ∃ out, publishScan pi quaternionOfYaw params robotPose startScanTime endScanTime tLs =
      .ok (some out) := by
  unfold publishScan
  rw [htime, except_ok_bind]
  dsimp only
  rw [if_neg (not_lt.2 hlength)]
  split_ifs with hcompensate
  · obtain ⟨scan, hscan, hranges, -⟩ := compensateAndfillRangesInMsg_ranges hpi hlength
      params.ladarDataClockwise (isLaserDataReverse tLs.laserPoints params.ladarDataClockwise)
    rw [hscan, except_ok_bind, boostAssert_of hranges]
    exact ⟨_, rfl⟩
  · obtain ⟨scan, hscan, hranges, -⟩ := fillOriginalRangesInMsg_ranges hlength
      (isLaserDataReverse tLs.laserPoints params.ladarDataClockwise)
    rw [hscan, except_ok_bind, boostAssert_of hranges]
    exact ⟨_, rfl⟩

omit [IsStrictOrderedRing K] in
/-- What a message is made of. -/
theorem publishScan_inv {startScanTime endScanTime : Int64}
    (h : publishScan pi quaternionOfYaw params robotPose startScanTime endScanTime tLs =
      .ok (some out)) :
    2 ≤ tLs.laserPoints.length ∧ out.2.stamp = .ofTime startScanTime ∧
      (if params.angleCompensate then
          compensateAndfillRangesInMsg pi tLs.laserPoints params.ladarDataClockwise
            (isLaserDataReverse tLs.laserPoints params.ladarDataClockwise)
        else fillOriginalRangesInMsg tLs.laserPoints
          (isLaserDataReverse tLs.laserPoints params.ladarDataClockwise)) = .ok out.2.scan := by
  unfold publishScan at h
  obtain ⟨dblScanDur, -, h⟩ := ExceptState.ok_bind h
  dsimp only at h
  by_cases hfew : tLs.laserPoints.length < 2
  · rw [if_pos hfew] at h
    cases h
  · rw [if_neg hfew] at h
    refine ⟨not_lt.mp hfew, ?_⟩
    split_ifs at h ⊢ with hcompensate
    all_goals
      obtain ⟨scan, hscan, h⟩ := ExceptState.ok_bind h
      obtain ⟨_, -, h⟩ := ExceptState.ok_bind h
      cases h
      exact ⟨rfl, hscan⟩

theorem published_cases {startScanTime endScanTime : Int64} (hpi : 0 < pi)
    (h : publishScan pi quaternionOfYaw params robotPose startScanTime endScanTime tLs =
      .ok (some out)) :
    (out.2.rangeMin, out.2.rangeMax) = fillRangeMinMaxInMsg tLs.laserPoints ∧
      FromPoints tLs.laserPoints out.2.scan.ranges := by
  unfold publishScan at h
  cases htime : (seconds startScanTime endScanTime : Except Exn K) with
  | error e =>
      rw [htime] at h
      cases h
  | ok dblScanDur =>
      rw [htime, except_ok_bind] at h
      dsimp only at h
      split_ifs at h with hfew
      · cases h
      · obtain ⟨scan, hscan, hlength, hranges⟩ := compensateAndfillRangesInMsg_ranges hpi
          (not_lt.1 hfew) params.ladarDataClockwise
          (isLaserDataReverse tLs.laserPoints params.ladarDataClockwise)
        rw [hscan, except_ok_bind, boostAssert_of hlength] at h
        cases h
        exact ⟨rfl, hranges⟩
      · obtain ⟨scan, hscan, hlength, hranges⟩ := fillOriginalRangesInMsg_ranges (not_lt.1 hfew)
          (isLaserDataReverse tLs.laserPoints params.ladarDataClockwise)
        rw [hscan, except_ok_bind, boostAssert_of hlength] at h
        cases h
        exact ⟨rfl, hranges⟩

/-- A published message is well formed exactly if some point of the scan is valid. -/
theorem published_wellFormed_iff {clock : Int64 × Int64} {latest : UInt64} (hpi : 0 < pi)
    (hdist : ∀ p ∈ tLs.laserPoints, 0 ≤ p.distance)
    (h : (doPerform pi quaternionOfYaw params robotPose clock tLs latest).1 = .ok (some out)) :
    WellFormed out.2 ↔ ∃ p ∈ tLs.laserPoints, p.valid = true := by
  obtain ⟨hbounds, hranges⟩ : (out.2.rangeMin, out.2.rangeMax) =
      fillRangeMinMaxInMsg tLs.laserPoints ∧ FromPoints tLs.laserPoints out.2.scan.ranges := by
    unfold doPerform at h
    split_ifs at h
    · exact published_cases hpi h
    · cases h
    · exact published_cases hpi h
  have hmin : out.2.rangeMin = (fillRangeMinMaxInMsg tLs.laserPoints).1 :=
    congrArg Prod.fst hbounds
  have hmax : out.2.rangeMax = (fillRangeMinMaxInMsg tLs.laserPoints).2 :=
    congrArg Prod.snd hbounds
  obtain ⟨-, -, hbetween⟩ := foldl_widenRange hdist (⊤, 0)
  constructor
  · rintro ⟨hle, -⟩
    by_contra hnone
    have hinitial : fillRangeMinMaxInMsg tLs.laserPoints = (⊤, 0) :=
      foldl_widenRange_of_invalid (fun p hp hvalid => hnone ⟨p, hp, hvalid⟩) (⊤, 0)
    rw [hmin, hmax, hinitial] at hle
    exact WithTop.zero_ne_top (top_le_iff.1 hle)
  · rintro ⟨p, hp, hvalid⟩
    obtain ⟨hlo, hhi⟩ := hbetween p hp hvalid
    refine ⟨hmin ▸ hmax ▸ hlo.trans hhi, fun r hr hfinite => ?_⟩
    obtain ⟨q, hq, hqvalid, rfl⟩ := hranges r hr hfinite
    rw [hmin, hmax]
    exact hbetween q hq hqvalid

end Loop

/-! ## Two scans -/

def exampleParams : Params := ⟨false, false, true, "laser", "map"⟩

def exampleScan (valid : Bool) : SystemScan ℚ :=
  ⟨[⟨1, -1, valid, 0⟩, ⟨1, 1, valid, 0⟩], 0, 0, none⟩

theorem exists_published (valid : Bool) : ∃ out,
    (doPerform (3 : ℚ) id exampleParams ⟨0, 0, 0⟩ (0, 0) (exampleScan valid) 0).1 =
      .ok (some out) := by
  have htime : (seconds 0 0 : Except Exn ℚ) = .ok 0 := by simp [seconds]
  exact exists_publishScan (by norm_num) htime (by simp [exampleScan])

theorem wellFormed_two_points : ∃ out,
    (doPerform (3 : ℚ) id exampleParams ⟨0, 0, 0⟩ (0, 0) (exampleScan true) 0).1 =
      .ok (some out) ∧
        (WellFormed out.2 ↔ ∃ p ∈ (exampleScan true).laserPoints, p.valid = true) := by
  obtain ⟨out, h⟩ := exists_published true
  exact ⟨out, h, published_wellFormed_iff (by norm_num) (by simp [exampleScan]) h⟩

/-- Two invalid points: the smallest range is infinite and the largest is zero. -/
theorem published_inverted : ¬ ∀ (tLs : SystemScan ℚ) (out : TransformStamped ℚ ℚ × LaserScanMsg ℚ),
    2 ≤ tLs.laserPoints.length → (∀ p ∈ tLs.laserPoints, 0 ≤ p.distance) →
      (doPerform 3 id exampleParams ⟨0, 0, 0⟩ (0, 0) tLs 0).1 = .ok (some out) →
        WellFormed out.2 := by
  intro hall
  obtain ⟨out, h⟩ := exists_published false
  obtain ⟨hle, -⟩ := hall (exampleScan false) out (by simp [exampleScan]) (by simp [exampleScan]) h
  have hbounds : (out.2.rangeMin, out.2.rangeMax) = fillRangeMinMaxInMsg _ :=
    (published_cases (by norm_num) h).1
  have hinitial : fillRangeMinMaxInMsg (exampleScan false).laserPoints = (⊤, 0) :=
    foldl_widenRange_of_invalid (by simp [exampleScan]) (⊤, 0)
  rw [hinitial, Prod.mk.injEq] at hbounds
  rw [hbounds.1, hbounds.2] at hle
  exact WithTop.zero_ne_top (top_le_iff.1 hle)

end ServerLaserScanWorker

end Ros2WsDemo
