import Ros2WsDemo.Laser.Published

/-!
# Polling raw scans

With `raw_ladar_data` the worker asks more often than the lidar turns, and recognizes a scan it
has seen by its start time.  Where the times of the lidar do not run backwards, every scan is
published once.
-/

namespace Ros2WsDemo.ServerLaserScanWorker

variable {K : Type} [Field K] [LinearOrder K] [FloorRing K] {Q : Type}

/-- What one call of `doPerform` finds. -/
structure Poll (K : Type) where
  robotPose : LaserPose K
  clock : Int64 × Int64
  tLs : SystemScan K

/-- The start time of its scan, in microseconds. -/
def Poll.started (poll : Poll K) : ℕ := poll.tLs.startTimestamp.toNat

section Model

variable (pi : K) (quaternionOfYaw : K → Q) (params : Params)

abbrev Result (K Q : Type) := Except Exn (Option (TransformStamped K Q × LaserScanMsg K))

/-- One call after the other, from the start time that was seen last. -/
def performAll : List (Poll K) → UInt64 → List (Result K Q)
  | [], _ => []
  | poll :: polls, latest =>
      let performed := doPerform pi quaternionOfYaw params poll.robotPose poll.clock poll.tLs latest
      performed.1 :: performAll polls performed.2

def sent : Result K Q → Option (TransformStamped K Q × LaserScanMsg K)
  | .ok out => out
  | .error _ => none

/-- What has been sent to the topics. -/
def published (results : List (Result K Q)) : List (TransformStamped K Q × LaserScanMsg K) :=
  results.filterMap sent

/-- Publishing the scan of a poll, at the times of the lidar. -/
def publishRaw (poll : Poll K) : Result K Q :=
  publishScan pi quaternionOfYaw params poll.robotPose (timeOfMicros poll.tLs.startTimestamp)
    (timeOfMicros poll.tLs.endTimestamp) poll.tLs

end Model

/-- The polls that find another start time than the poll before. -/
def fresh : List (Poll K) → UInt64 → List (Poll K)
  | [], _ => []
  | poll :: polls, latest =>
      if latest = poll.tLs.startTimestamp then fresh polls latest
      else poll :: fresh polls poll.tLs.startTimestamp

section Fresh

omit [Field K] [LinearOrder K] [FloorRing K]

theorem fresh_subset (polls : List (Poll K)) (latest : UInt64) : fresh polls latest ⊆ polls := by
  induction polls generalizing latest with
  | nil => exact List.Subset.refl _
  | cons poll polls ih =>
      rw [fresh]
      split_ifs
      · exact List.subset_cons_of_subset _ (ih latest)
      · exact List.cons_subset_cons _ (ih _)

/-- Every start time but the latest one is found by some fresh poll. -/
theorem exists_fresh {polls : List (Poll K)} {latest : UInt64} {poll : Poll K} (h : poll ∈ polls)
    (hnew : latest ≠ poll.tLs.startTimestamp) :
    ∃ found ∈ fresh polls latest, found.tLs.startTimestamp = poll.tLs.startTimestamp := by
  induction polls generalizing latest with
  | nil => cases h
  | cons first polls ih =>
      rw [fresh]
      rcases List.mem_cons.mp h with rfl | h
      · rw [if_neg hnew]
        exact ⟨poll, List.mem_cons_self, rfl⟩
      · split_ifs with hseen
        · exact ih h hnew
        · by_cases hfirst : first.tLs.startTimestamp = poll.tLs.startTimestamp
          · exact ⟨first, List.mem_cons_self, hfirst⟩
          · obtain ⟨found, hfound, heq⟩ := ih h hfirst
            exact ⟨found, List.mem_cons_of_mem _ hfound, heq⟩

/-- Times that do not run backwards are found in order, each once. -/
theorem fresh_increasing {polls : List (Poll K)} {latest : UInt64}
    (hlatest : ∀ poll ∈ polls, latest.toNat ≤ poll.started)
    (hmono : polls.Pairwise fun a b => a.started ≤ b.started) :
    (fresh polls latest).Pairwise (fun a b => a.started < b.started) ∧
      ∀ poll ∈ fresh polls latest, latest.toNat < poll.started := by
  induction polls generalizing latest with
  | nil => exact ⟨List.Pairwise.nil, nofun⟩
  | cons poll polls ih =>
      rw [List.forall_mem_cons] at hlatest
      rw [List.pairwise_cons] at hmono
      rw [fresh]
      split_ifs with hseen
      · exact ih hlatest.2 hmono.2
      · have hlt : latest.toNat < poll.started :=
          lt_of_le_of_ne hlatest.1 fun h => hseen (UInt64.toNat_inj.mp h)
        obtain ⟨hincreasing, hafter⟩ := ih hmono.1 hmono.2
        refine ⟨List.pairwise_cons.mpr ⟨hafter, hincreasing⟩, ?_⟩
        exact List.forall_mem_cons.mpr ⟨hlt, fun found hfound => hlt.trans (hafter found hfound)⟩

end Fresh

/-! ## Results -/

section Published

omit [Field K] [LinearOrder K] [FloorRing K]

theorem published_cons (result : Result K Q) (results : List (Result K Q)) :
    published (result :: results) = (sent result).toList ++ published results := by
  rw [published, List.filterMap_cons]
  cases sent result <;> rfl

theorem mem_published {results : List (Result K Q)} {out : TransformStamped K Q × LaserScanMsg K} :
    out ∈ published results ↔ .ok (some out) ∈ results := by
  rw [published, List.mem_filterMap]
  constructor
  · rintro ⟨result, hresult, hsent⟩
    cases result with
    | ok message => exact (show message = some out from hsent) ▸ hresult
    | error e => cases hsent
  · exact fun h => ⟨_, h, rfl⟩

end Published

section Results

variable {pi : K} {quaternionOfYaw : K → Q} {params : Params}

/-- The worker publishes the fresh polls, and only those. -/
theorem published_performAll (hraw : params.rawLadarData = true) (polls : List (Poll K))
    (latest : UInt64) :
    published (performAll pi quaternionOfYaw params polls latest) =
      published ((fresh polls latest).map (publishRaw pi quaternionOfYaw params)) := by
  induction polls generalizing latest with
  | nil => rfl
  | cons poll polls ih =>
      rw [performAll, fresh, doPerform, hraw, published_cons]
      simp only [Bool.not_true, Bool.false_eq_true, if_false]
      split_ifs with hseen
      · exact ih latest
      · rw [List.map_cons, published_cons, ← ih]
        rfl

theorem mem_performAll (hraw : params.rawLadarData = true) {polls : List (Poll K)}
    {latest : UInt64} {result : Result K Q}
    (h : result ∈ performAll pi quaternionOfYaw params polls latest) :
    result = .ok none ∨ ∃ poll ∈ polls, result = publishRaw pi quaternionOfYaw params poll := by
  induction polls generalizing latest with
  | nil => cases h
  | cons poll polls ih =>
      rw [performAll, doPerform, hraw] at h
      simp only [Bool.not_true, Bool.false_eq_true, if_false] at h
      rcases List.mem_cons.mp h with rfl | h
      · split_ifs
        · exact Or.inl rfl
        · exact Or.inr ⟨poll, List.mem_cons_self, rfl⟩
      · refine (ih h).imp_right ?_
        rintro ⟨found, hfound, hresult⟩
        exact ⟨found, List.mem_cons_of_mem _ hfound, hresult⟩

/-! ## Times -/

/-- The seconds of the start fit into a stamp, the nanoseconds of the end into a time. -/
def Poll.Fits (poll : Poll K) : Prop :=
  poll.started < 2 ^ 31 * 10 ^ 6 ∧ poll.tLs.endTimestamp.toNat * 1000 < 2 ^ 63

theorem timeOfMicros_toInt {timestamp : UInt64} (h : timestamp.toNat * 1000 < 2 ^ 63) :
    (timeOfMicros timestamp).toInt = timestamp.toNat * 1000 := by
  have hmul : (timestamp * 1000).toNat = timestamp.toNat * 1000 := by
    rw [UInt64.toNat_mul]
    exact Nat.mod_eq_of_lt (by change timestamp.toNat * 1000 < _; omega)
  have htop : 2 * (timestamp * 1000).toBitVec.toNat < 2 ^ 64 := by
    rw [UInt64.toNat_toBitVec, hmul]
    omega
  change (timestamp * 1000).toBitVec.toInt = _
  rw [BitVec.toInt_eq_toNat_of_lt htop, UInt64.toNat_toBitVec, hmul]
  push_cast
  rfl

theorem sent_publishRaw {poll : Poll K} {out : TransformStamped K Q × LaserScanMsg K}
    (h : sent (publishRaw pi quaternionOfYaw params poll) = some out) :
    out.2.stamp = .ofTime (timeOfMicros poll.tLs.startTimestamp) := by
  cases hresult : publishRaw pi quaternionOfYaw params poll with
  | error e =>
      rw [hresult] at h
      cases h
  | ok message =>
      rw [hresult] at h
      have hmessage : message = some out := h
      rw [hmessage] at hresult
      exact (publishScan_inv hresult).2.1

omit [Field K] [LinearOrder K] [FloorRing K] in
theorem Poll.Fits.time {poll : Poll K} (h : poll.Fits) :
    (timeOfMicros poll.tLs.startTimestamp).toInt = poll.started * 1000 := by
  obtain ⟨hstart, -⟩ := h
  unfold Poll.started at hstart ⊢
  exact timeOfMicros_toInt (by omega)

omit [Field K] [LinearOrder K] [FloorRing K] in
theorem Poll.Fits.stamp {poll : Poll K} (h : poll.Fits) :
    (TimeMsg.ofTime (timeOfMicros poll.tLs.startTimestamp)).nanoseconds = poll.started * 1000 := by
  have htime := h.time
  obtain ⟨hstart, -⟩ := h
  rw [TimeMsg.nanoseconds_ofTime (by omega) (by omega), htime]

theorem published_increasing (hraw : params.rawLadarData = true) (quaternionOfYaw : K → Q)
    {polls : List (Poll K)} {latest : UInt64}
    (hlatest : ∀ poll ∈ polls, latest.toNat < poll.started)
    (hmono : polls.Pairwise fun a b => a.started ≤ b.started)
    (hfits : ∀ poll ∈ polls, poll.Fits) :
    (published (performAll pi quaternionOfYaw params polls latest)).Pairwise
      fun a b => a.2.stamp.nanoseconds < b.2.stamp.nanoseconds := by
  have hsubset := fresh_subset polls latest
  rw [published_performAll hraw polls latest, published, List.pairwise_filterMap,
    List.pairwise_map]
  refine (fresh_increasing (fun poll hpoll => (hlatest poll hpoll).le) hmono).1.imp_of_mem ?_
  intro a b ha hb hlt outa houta outb houtb
  rw [sent_publishRaw houta, sent_publishRaw houtb, (hfits a (hsubset ha)).stamp,
    (hfits b (hsubset hb)).stamp]
  omega

variable [IsStrictOrderedRing K]

/-- A scan whose times fit is published, unless it has too few points. -/
theorem publishRaw_cases (hpi : 0 < pi) (quaternionOfYaw : K → Q) (params : Params) {poll : Poll K}
    (hfits : poll.Fits) :
    (poll.tLs.laserPoints.length < 2 ∧ publishRaw pi quaternionOfYaw params poll = .ok none) ∨
      ∃ out, publishRaw pi quaternionOfYaw params poll = .ok (some out) := by
  have htime : ∃ dblScanDur : K, seconds (timeOfMicros poll.tLs.startTimestamp)
      (timeOfMicros poll.tLs.endTimestamp) = .ok dblScanDur := by
    have hstart := hfits.time
    have hend := timeOfMicros_toInt hfits.2
    obtain ⟨hstarted, hended⟩ := hfits
    unfold seconds
    dsimp only
    rw [hstart, hend, if_pos (by omega)]
    exact ⟨_, rfl⟩
  obtain ⟨dblScanDur, htime⟩ := htime
  by_cases hfew : poll.tLs.laserPoints.length < 2
  · refine Or.inl ⟨hfew, ?_⟩
    unfold publishRaw publishScan
    rw [htime, except_ok_bind]
    exact if_pos hfew
  · exact Or.inr (exists_publishScan hpi htime (not_lt.mp hfew))

/-- A scan with enough points goes out at one of its polls. -/
theorem exists_published_of_length (hpi : 0 < pi) (quaternionOfYaw : K → Q)
    (hraw : params.rawLadarData = true) {polls : List (Poll K)} {latest : UInt64}
    (hlatest : ∀ poll ∈ polls, latest.toNat < poll.started)
    (hscan : ∀ a ∈ polls, ∀ b ∈ polls, a.started = b.started → a.tLs = b.tLs)
    (hfits : ∀ poll ∈ polls, poll.Fits) {poll : Poll K} (hpoll : poll ∈ polls)
    (hlength : 2 ≤ poll.tLs.laserPoints.length) :
    ∃ out ∈ published (performAll pi quaternionOfYaw params polls latest),
      ∃ found ∈ polls, found.tLs = poll.tLs ∧
        publishRaw pi quaternionOfYaw params found = .ok (some out) := by
  have hsubset := fresh_subset polls latest
  have hnew : latest ≠ poll.tLs.startTimestamp := by
    rintro rfl
    exact lt_irrefl _ (hlatest poll hpoll)
  obtain ⟨found, hfound, hstart⟩ := exists_fresh hpoll hnew
  have hsame : found.tLs = poll.tLs :=
    hscan found (hsubset hfound) poll hpoll (congrArg UInt64.toNat hstart)
  rcases publishRaw_cases hpi quaternionOfYaw params
    (hfits found (hsubset hfound)) with ⟨hfew, -⟩ | ⟨out, hout⟩
  · rw [hsame] at hfew
    omega
  · refine ⟨out, ?_, found, hsubset hfound, hsame, hout⟩
    rw [published_performAll hraw polls latest, mem_published, ← hout]
    exact List.mem_map_of_mem hfound

/-- Where the lidar's times do not run backwards and each belongs to one scan, every scan with
enough points is published, in the order of the times and never twice. -/
theorem raw_published_once (hpi : 0 < pi) (quaternionOfYaw : K → Q)
    (hraw : params.rawLadarData = true) {polls : List (Poll K)} {latest : UInt64}
    (hlatest : ∀ poll ∈ polls, latest.toNat < poll.started)
    (hmono : polls.Pairwise fun a b => a.started ≤ b.started)
    (hscan : ∀ a ∈ polls, ∀ b ∈ polls, a.started = b.started → a.tLs = b.tLs)
    (hfits : ∀ poll ∈ polls, poll.Fits) :
    let results := performAll pi quaternionOfYaw params polls latest
    (∀ result ∈ results, ∃ out, result = .ok out) ∧
      ((published results).Pairwise fun a b => a.2.stamp.nanoseconds < b.2.stamp.nanoseconds) ∧
      (∀ out ∈ published results, ∃ poll ∈ polls,
        publishRaw pi quaternionOfYaw params poll = .ok (some out)) ∧
      ∀ poll ∈ polls, 2 ≤ poll.tLs.laserPoints.length → ∃ out ∈ published results,
        ∃ found ∈ polls, found.tLs = poll.tLs ∧
          publishRaw pi quaternionOfYaw params found = .ok (some out) := by
  intro results
  refine ⟨fun result hresult => ?_, published_increasing hraw quaternionOfYaw hlatest hmono hfits,
    fun out hout => ?_, fun poll hpoll hlength => ?_⟩
  · rcases mem_performAll hraw hresult with rfl | ⟨poll, hpoll, rfl⟩
    · exact ⟨none, rfl⟩
    · rcases publishRaw_cases hpi quaternionOfYaw params (hfits poll hpoll) with
        ⟨-, hnone⟩ | ⟨out, hout⟩
      · exact ⟨none, hnone⟩
      · exact ⟨some out, hout⟩
  · rw [published_performAll hraw polls latest, mem_published] at hout
    obtain ⟨poll, hpoll, hraw⟩ := List.mem_map.mp hout
    exact ⟨poll, fresh_subset polls latest hpoll, hraw⟩
  · exact exists_published_of_length hpi quaternionOfYaw hraw hlatest hscan hfits hpoll hlength

end Results

/-! ## Three polls of two scans -/

def scanAt (timestamp : UInt64) : SystemScan ℚ :=
  { exampleScan true with startTimestamp := timestamp, endTimestamp := timestamp + 90 }

def rawParams : Params := ⟨true, false, true, "laser", "map"⟩

def twicePolled : List (Poll ℚ) :=
  [1000, 1000, 1100].map fun timestamp => ⟨⟨0, 0, 0⟩, (0, 0), scanAt timestamp⟩

theorem raw_published_once_twicePolled :
    let results := performAll (3 : ℚ) id rawParams twicePolled 0
    ((published results).Pairwise fun a b => a.2.stamp.nanoseconds < b.2.stamp.nanoseconds) ∧
      ∀ poll ∈ twicePolled, ∃ out ∈ published results, ∃ found ∈ twicePolled,
        found.tLs = poll.tLs ∧
          publishRaw 3 id rawParams found = .ok (some out) := by
  have hpi : (0 : ℚ) < 3 := by norm_num
  have hraw : rawParams.rawLadarData = true := rfl
  have hlatest : ∀ poll ∈ twicePolled, (0 : UInt64).toNat < poll.started := by decide
  have hmono : twicePolled.Pairwise fun a b => a.started ≤ b.started := by decide
  have hscan : ∀ a ∈ twicePolled, ∀ b ∈ twicePolled, a.started = b.started → a.tLs = b.tLs := by
    intro a ha b hb h
    obtain ⟨i, -, rfl⟩ := List.mem_map.mp ha
    obtain ⟨j, -, rfl⟩ := List.mem_map.mp hb
    exact congrArg scanAt (UInt64.toNat_inj.mp h)
  have hfits : ∀ poll ∈ twicePolled, poll.Fits := by
    unfold Poll.Fits
    decide
  obtain ⟨-, hordered, -, hall⟩ := raw_published_once hpi id hraw hlatest hmono hscan hfits
  refine ⟨hordered, fun poll hpoll => hall poll hpoll ?_⟩
  obtain ⟨i, -, rfl⟩ := List.mem_map.mp hpoll
  exact le_rfl

end Ros2WsDemo.ServerLaserScanWorker
