import Mathlib.Order.WithBot
import Ros2WsDemo.Rpos.Basic

/-!
# Resampling a laser scan

`ServerLaserScanWorker` with `angle_compensate`: the points of a scan are put into 360
bins of equal angle.  Arithmetic is exact; `pi` is the constant `C_FLT_PI` of the code,
whatever its value, and `⊤` is the infinity that marks an empty bin.
-/

namespace Ros2WsDemo

/-- `rpos::core::LaserPoint` -/
structure LaserPoint (K : Type) where
  distance : WithTop K
  angle : K
  valid : Bool
  quality : UInt8

/-- The fields of `sensor_msgs::msg::LaserScan` that depend on the angles. -/
structure LaserScan (K : Type) where
  angleMin : K
  angleMax : K
  angleIncrement : K
  ranges : List (WithTop K)
  intensities : List K

namespace ServerLaserScanWorker

variable {K : Type} [Field K] [LinearOrder K] [IsStrictOrderedRing K] [FloorRing K]

def compensatedAngleCnt : ℕ := 360

/-- `C_FLT_2PI`. -/
def twoPi (pi : K) : K := pi * (2 : ℕ)

omit [LinearOrder K] [IsStrictOrderedRing K] [FloorRing K] in
@[simp] theorem twoPi_eq (pi : K) : twoPi pi = 2 * pi := by
  rw [twoPi, Nat.cast_ofNat, mul_comm]

def absAngleIncrement (pi : K) : K := twoPi pi / (compensatedAngleCnt : ℕ)

/-- `std::fmod`: the quotient is rounded towards zero. -/
def fmod (a b : K) : K := a - b * (if 0 ≤ a / b then ⌊a / b⌋ else ⌈a / b⌉ : ℤ)

def calcAngleInNegativePiToPi (pi angle : K) : K :=
  let fRes := fmod (angle + pi) (twoPi pi)
  let fRes := if fRes < 0 then fRes + twoPi pi else fRes
  let fRes := fRes - pi
  if fRes < -pi then -pi else if pi ≤ fRes then -pi else fRes

def calcCompensateDestIndexBySrcAngle (pi srcAngle : K) (isAnglesReverse : Bool) :
    Except Exn ℕ := do
  boostAssert (-pi ≤ srcAngle ∧ srcAngle < pi) "-C_FLT_PI <= srcAngle && srcAngle < C_FLT_PI"
  let fDiff := if isAnglesReverse then pi - srcAngle else srcAngle + pi
  let fDiff := max 0 fDiff
  let fDiff := min fDiff (twoPi pi)
  let destIdx := (roundHalfAway (fDiff / absAngleIncrement pi)).toNat
  return if compensatedAngleCnt ≤ destIdx then 0 else destIdx

/-- What `isSrcAngleMoreCloseThanOldSrcAngle_` computes for the new and for the old angle. -/
def angleDiff (pi destAngle angle : K) : K :=
  let diff := |destAngle - angle|
  if twoPi pi ≤ diff then 0 else if pi < diff then twoPi pi - diff else diff

def isSrcAngleMoreCloseThanOldSrcAngle (pi srcAngle destAngle oldSrcAngle : K) :
    Except Exn Bool := do
  boostAssert (-pi ≤ srcAngle ∧ srcAngle < pi) "-C_FLT_PI <= srcAngle && srcAngle < C_FLT_PI"
  boostAssert (-pi ≤ destAngle ∧ destAngle < pi) "-C_FLT_PI <= destAngle && destAngle < C_FLT_PI"
  boostAssert (-pi ≤ oldSrcAngle ∧ oldSrcAngle < pi)
    "-C_FLT_PI <= oldSrcAngle && oldSrcAngle < C_FLT_PI"
  let newDiff := angleDiff pi destAngle srcAngle
  let oldDiff := angleDiff pi destAngle oldSrcAngle
  return newDiff < oldDiff

/-- `tmpSrcAngles` holds the angle of the point a bin was filled from. -/
def compensateAndfillRangeInMsg (pi : K) (isClockwise : Bool)
    (msg : LaserScan K × List K) (laserPoint : LaserPoint K) :
    Except Exn (LaserScan K × List K) := do
  let (msgScan, tmpSrcAngles) := msg
  if laserPoint.valid then
    let srcAngle := calcAngleInNegativePiToPi pi laserPoint.angle
    let destIdx ← calcCompensateDestIndexBySrcAngle pi srcAngle isClockwise
    boostAssert (destIdx < compensatedAngleCnt) "destIdx < compensatedAngleCnt_"
    let destAngle :=
      calcAngleInNegativePiToPi pi (msgScan.angleMin + msgScan.angleIncrement * (destIdx : ℕ))
    match msgScan.ranges[destIdx]?, tmpSrcAngles[destIdx]? with
    | some range, some oldSrcAngle =>
        let shouldWrite ← if range = ⊤ then pure true
          else isSrcAngleMoreCloseThanOldSrcAngle pi srcAngle destAngle oldSrcAngle
        if shouldWrite then
          return ({ msgScan with
            ranges := msgScan.ranges.set destIdx laserPoint.distance
            intensities := msgScan.intensities.set destIdx (laserPoint.quality.toNat : K) },
            tmpSrcAngles.set destIdx srcAngle)
        else
          return (msgScan, tmpSrcAngles)
    | _, _ => throw .outOfRange
  else
    return (msgScan, tmpSrcAngles)

/-- The message before the first point. -/
def initialScan (pi : K) (isClockwise : Bool) : LaserScan K where
  angleMin := if isClockwise then pi else -pi
  angleMax := if isClockwise then -pi + absAngleIncrement pi else pi - absAngleIncrement pi
  angleIncrement := if isClockwise then -absAngleIncrement pi else absAngleIncrement pi
  ranges := List.replicate compensatedAngleCnt ⊤
  intensities := List.replicate compensatedAngleCnt 0

/-- The points in the order in which the loop visits them. -/
def processed (laserPoints : List (LaserPoint K)) (isLaserDataReverse : Bool) :
    List (LaserPoint K) :=
  if isLaserDataReverse then laserPoints.reverse else laserPoints

def compensateAndfillRangesInMsg (pi : K) (laserPoints : List (LaserPoint K))
    (isClockwise isLaserDataReverse : Bool) : Except Exn (LaserScan K) := do
  boostAssert (2 ≤ laserPoints.length) "2 <= laserPoints.size()"
  let tmpSrcAngles := List.replicate compensatedAngleCnt (0 : K)
  let (msgScan, _) ← (processed laserPoints isLaserDataReverse).foldlM
    (compensateAndfillRangeInMsg pi isClockwise) (initialScan pi isClockwise, tmpSrcAngles)
  return msgScan

end ServerLaserScanWorker

end Ros2WsDemo
