import Ros2WsDemo.MapHolder.BoundingCells
import Ros2WsDemo.MapUpdate.WholeSync

/-!
# An update near the robot

With a platform that answers exactly what it is asked for, a successful update around
the robot makes one request: known cells only, and among them every one that the square
around the robot overlaps.  The cells of the request show what was fetched, all others
what they showed before.
-/

namespace Ros2WsDemo.ServerExploreMapUpdateWorker

open Effect ServerMapHolder StridedCopy

variable {K J : Type} [Field K] [LinearOrder K] [IsStrictOrderedRing K] [FloorRing K]

/-! ## The cells around the robot -/

/-- Some point of the cell, without its right and lower edge, lies within `half` of the
position on both axes. -/
def Overlaps (resolution : K) (position : K × K) (half : K) (x y : ℤ) : Prop :=
  position.1 - half < resolution * ((x + 1 : ℤ) : K) ∧ resolution * (x : K) ≤ position.1 + half ∧
    position.2 - half < resolution * ((y + 1 : ℤ) : K) ∧
      resolution * (y : K) ≤ position.2 + half

/-- One axis: the cells that meet an interval lie between the floors of its ends. -/
theorem floor_le_of_overlap {resolution a b : K} (hres : 0 < resolution) {n : ℤ}
    (hlo : a < resolution * ((n + 1 : ℤ) : K)) (hhi : resolution * (n : K) ≤ b) :
    ⌊a / resolution⌋ ≤ n ∧ n ≤ ⌊b / resolution⌋ := by
  refine ⟨Int.lt_add_one_iff.mp ?_, (mul_le_iff_le_floor hres n).mp hhi⟩
  rw [Int.floor_lt, div_lt_iff₀ hres, mul_comm]
  exact hlo

/-- The area near the robot in exact arithmetic. -/
theorem nearRobotArea_eq (fVal : K) (robotPose : K × K) :
    nearRobotArea fVal robotPose = ⟨robotPose.1 - max 2 fVal, robotPose.2 - max 2 fVal,
      max 2 fVal + max 2 fVal, max 2 fVal + max 2 fVal⟩ := by
  have htwo : (FloatArith.ofInt 2 : K) = 2 := Int.cast_ofNat 2
  have hmax : FloatArith.max (FloatArith.ofInt 2) fVal = max 2 fVal := by rw [htwo, exact_max]
  unfold nearRobotArea
  rw [hmax]
  rfl

/-- The bounding rectangle of the area near the robot holds every cell that the square
around the robot overlaps. -/
theorem contain_of_overlaps {resolution fVal : K} {robotPose : K × K} {near : RectangleI}
    (hres : FloatArith.lt FloatArith.epsilon resolution = true)
    (hnear : sfCalcMinBoundingCellIdxRect resolution (nearRobotArea fVal robotPose) = .ok near)
    {x y : ℤ} (hxy : Overlaps resolution robotPose (max 2 fVal) x y) :
    sfDoesCellIdxRectContain near x y := by
  have hpos := exact_pos hres
  obtain ⟨hx, hx', hy, hy'⟩ := hxy
  have harea := nearRobotArea_eq fVal robotPose
  have hhalf : (0 : K) < max 2 fVal := lt_of_lt_of_le two_pos (le_max_left _ _)
  obtain ⟨hxlo, hxhi⟩ := floor_le_of_overlap hpos hx hx'
  obtain ⟨hylo, hyhi⟩ := floor_le_of_overlap hpos hy hy'
  have hend : ∀ p : K, p - max 2 fVal + (max 2 fVal + max 2 fVal) = p + max 2 fVal := by
    intro p
    ring
  rw [harea, minBounding_eq hres hpos (add_pos hhalf hhalf) (add_pos hhalf hhalf)] at hnear
  simp only [hend] at hnear
  cases hnear
  unfold sfDoesCellIdxRectContain
  simp only
  omega

/-! ## The request -/

/-- The platform of an exact sync, for one pose of the robot. -/
def posedPlatform (resolution fVal : K) (robotPose : K × K) (knownArea : RectangleF K) :
    (o : Op K) → Ret K o → Prop
  | .readRobotPose, (r : K × K) => r = robotPose
  | o, r => exactPlatform resolution fVal knownArea o r

/-- The holder is still `h`; `fetched` are the fetches so far. -/
structure Fetched (h : ServerMapHolder K) (fetched : List (RectangleF K × Except Exn (Map K)))
    (s : State K) (tr : List (Event (Ret K) Act J)) : Prop where
  holder_eq : s.exploreMapHolder = h
  fetches_eq : mapFetches tr = fetched

/-- One map was fetched, for the cells of `req`, and written. -/
structure Refreshed (h : ServerMapHolder K) (req : RectangleI) (m : MapData K) (s : State K)
    (tr : List (Event (Ret K) Act J)) : Prop where
  covers : CoversExactly h.resolution req m
  written : WrittenTo req (ofList m.mapData) h s.exploreMapHolder
  fetches_eq : mapFetches tr = [(cellArea h.resolution req, .ok (some m))]

section Update

variable {h : ServerMapHolder K} {fetched : List (RectangleF K × Except Exn (Map K))}
  {fVal : K} {robotPose : K × K} {knownArea : RectangleF K} {s : State K}
  {tr : List (Event (Ret K) Act J)} {req : RectangleI} {m : MapData K}

omit [Field K] [LinearOrder K] [IsStrictOrderedRing K] [FloorRing K] in
theorem holderOnly_fetched : HolderOnly fun s (tr : List (Event (Ret K) Act J)) =>
    Fetched h fetched s tr :=
  fun _ _ tr _ hs hholder he =>
    ⟨hholder.trans hs.holder_eq, (mapFetches_snoc tr he).trans hs.fetches_eq⟩

theorem holderOnly_refreshed : HolderOnly fun s (tr : List (Event (Ret K) Act J)) =>
    Refreshed h req m s tr :=
  fun _ _ tr _ hs hholder he =>
    ⟨hs.covers, hholder ▸ hs.written, (mapFetches_snoc tr he).trans hs.fetches_eq⟩

theorem wp_updateMapInCellIdxRect_refreshed (hI : Inv h) (hreq : ¬sfIsCellIdxRectEmpty req)
    (hs : Fetched h [] s tr) :
    wp (system (posedPlatform h.resolution fVal robotPose knownArea)) (fun _ _ _ => True)
      (fun ok s tr => ok = true → ∃ m, Refreshed h req m s tr)
      (fun _ _ _ => True) (updateMapInCellIdxRect req) s tr := by
  apply wp_seq (wp_readExploreMapHolder holderOnly_fetched hs)
  rintro holder s tr ⟨rfl, hs⟩
  rw [hs.holder_eq, calcArea_eq hI.resolution_valid]
  apply wp_seq (wp_getMapByPltfm_of (Q := fun m s tr => CoversExactly h.resolution req m ∧
    Fetched h [(cellArea h.resolution req, .ok (some m))] s tr) _ holderOnly_fetched hs ?_)
  · intro hMap s tr hfetched
    cases hMap with
    | none => exact nofun
    | some m =>
        obtain ⟨hm, hs⟩ := hfetched m rfl
        apply wp_seq (wp_idle holderOnly_fetched (idle_checkRecvResolution m.mapResolution.1) hs)
        intro ok s tr hs
        cases ok with
        | false => exact nofun
        | true =>
            refine wp_seq (wp_callHolder_ok (.setMapDataOfMap (some m)) holderOnly_fetched hs
              (Q := Refreshed h req m) ?_) fun _ s tr hs _ => ⟨m, hs⟩
            intro s tr alloc holder hs hrun
            have hrect := hm.cellIdxRectToUp_eq hI.resolution_valid
            have hexec : (setMapDataOfMap alloc (some m)).run h = .ok () holder :=
              hs.holder_eq ▸ hrun
            rcases setMapDataOfMap_spec hI alloc m with ⟨h', hok, hwritten, -⟩ | ⟨e, herr, -⟩
            · cases hok.symm.trans hexec
              rw [hrect] at hwritten
              exact ⟨hm, hwritten, (mapFetches_snoc tr rfl).trans hs.fetches_eq⟩
            · cases herr.symm.trans hexec
  · intro s tr m hs hanswer
    refine ⟨hanswer m req rfl hreq (calcArea_eq hI.resolution_valid req), hs.holder_eq, ?_⟩
    rw [mapFetches_snoc_getMap, hs.fetches_eq, List.nil_append]

/-- The request of a successful update: the known cells among the bounding cells of the
square around the robot. -/
def Updated (h : ServerMapHolder K) (fVal : K) (robotPose : K × K) (knownArea : RectangleF K)
    (s : State K) (tr : List (Event (Ret K) Act J)) : Prop :=
  ∃ near known m,
    sfCalcMinBoundingCellIdxRect h.resolution (nearRobotArea fVal robotPose) = .ok near ∧
    sfCalcRoundedCellIdxRect h.resolution knownArea = .ok known ∧
    ¬sfIsCellIdxRectEmpty known ∧
    ¬sfIsCellIdxRectEmpty (sfIntersectionOfCellIdxRect near known) ∧
    Refreshed h (sfIntersectionOfCellIdxRect near known) m s tr

theorem wp_updateMapNearRobot_updated (hI : Inv h) (hs : Fetched h [] s tr) :
    wp (system (posedPlatform h.resolution fVal robotPose knownArea)) (fun _ _ _ => True)
      (fun ok s tr => ok = true → Updated h fVal robotPose knownArea s tr)
      (fun _ _ _ => True) updateMapNearRobot s tr := by
  apply wp_seq (wp_idle_answer holderOnly_fetched (o := .getParameter _) trivial hs)
  rintro v s tr ⟨hs, s₀, -, hv, -⟩
  rw [show v = fVal from hv]
  apply wp_seq (wp_idle_answer holderOnly_fetched (o := .readRobotPose) trivial hs)
  rintro pose s tr ⟨hs, s₀, -, hpose, -⟩
  rw [show pose = robotPose from hpose]
  apply wp_seq (wp_readExploreMapHolder holderOnly_fetched hs)
  rintro holder s tr ⟨rfl, hs⟩
  rw [hs.holder_eq]
  cases hnear : sfCalcMinBoundingCellIdxRect h.resolution (nearRobotArea fVal robotPose) with
  | error e => trivial
  | ok near =>
      apply wp_seq (R := fun area s tr => area = knownArea ∧ Fetched h [] s tr)
      · apply wp_seq (wp_idle_answer holderOnly_fetched (o := .getKnownArea) trivial hs)
        rintro ans s tr ⟨hs, s₀, -, hans, -⟩
        cases ans with
        | ok area => exact ⟨hans area rfl, hs⟩
        | error e => trivial
      rintro area s tr ⟨rfl, hs⟩
      cases hknown : sfCalcRoundedCellIdxRect h.resolution area with
      | error e => trivial
      | ok known =>
          simp only [Prog.ofExcept_ok, Prog.ret_bind]
          split_ifs with hempty hdisjoint
          · apply wp_seq (wp_idle_answer holderOnly_fetched (o := .requestSyncMap) trivial hs)
            exact fun _ s tr _ hok => absurd hok Bool.false_ne_true
          · exact fun hok => absurd hok Bool.false_ne_true
          · refine wp_mono (wp_updateMapInCellIdxRect_refreshed hI hdisjoint hs) ?_
              fun _ _ _ h => h
            intro ok s tr hdone hok
            obtain ⟨m, hs⟩ := hdone hok
            exact ⟨near, known, m, hnear, hknown, hempty, hdisjoint, hs⟩

/-! ## The holder after an update -/

/-- The byte stored for a fetched cell. -/
theorem Refreshed.stored (hs : Refreshed h req m s tr) (hreq : ¬sfIsCellIdxRectEmpty req) {x y : ℤ}
    (hxy : sfDoesCellIdxRectContain req x y) :
    ∃ b, ofList m.mapData (cellOffset req x y) = some b ∧
      ofList s.exploreMapHolder.mapDat
        (cellOffset s.exploreMapHolder.availCellIdxRect x y) = some b := by
  have hvalid : sfDoesCellIdxRectContain s.exploreMapHolder.validCellIdxRect x y := by
    rw [hs.written.valid_eq]
    exact (within_merge_right hreq).contain hxy
  obtain ⟨b, hb⟩ := Option.isSome_iff_exists.mp (ofList_isSome_of_contain hs.covers.size.ge hxy)
  have hbyte := hs.written.byteAt_eq x y
  rw [if_pos hxy, hb, Option.getD_some] at hbyte
  exact ⟨b, hb, hbyte ▸ hs.written.inv.stored (hs.written.inv.contain_avail hvalid)⟩

/-- A cell that was not fetched shows what it showed before. -/
theorem Refreshed.unchanged (hI : Inv h) (hs : Refreshed h req m s tr) {r : RectangleI} {x y : ℤ}
    (hxy : sfDoesCellIdxRectContain r x y) (hout : ¬sfDoesCellIdxRectContain req x y) :
    ∃ msg msg' v, fillRosMapMsg h r = .ok (r, msg) ∧
      fillRosMapMsg s.exploreMapHolder r = .ok (r, msg') ∧
      ofList msg.data (cellOffset r x y) = some v ∧
      ofList msg'.data (cellOffset r x y) = some v := by
  have hr := not_empty_of_contain hxy
  obtain ⟨msg, hmsg, -, -, -, -, -, -, hdata⟩ := fillRosMapMsg_spec hI hr
  obtain ⟨msg', hmsg', -, -, -, -, -, -, hdata'⟩ := fillRosMapMsg_spec hs.written.inv hr
  refine ⟨msg, msg', _, hmsg, hmsg', hdata x y hxy, ?_⟩
  rw [hdata' x y hxy, hs.written.byteAt_eq, if_neg hout]

end Update

/-- On an exact platform an update near the robot that succeeds has made one request: known
cells, with every known cell that the square around the robot overlaps.  The cells of the
request hold the bytes fetched, and all others show what they showed before. -/
theorem updateMapNearRobot_exact (calls : List ((ℕ → Bool) × HolderCall K)) (s : State K)
    (fVal : K) (robotPose : K × K) (knownArea : RectangleF K) {s' : State K}
    {tr : List (Event (Ret K) Act Empty)}
    (h : Reachable (system (posedPlatform (runCalls new calls).resolution fVal robotPose knownArea))
      (fun j : Empty => (j.elim : Worker K Bool))
      ⟨updateMapNearRobot, { s with exploreMapHolder := runCalls new calls }, []⟩
      ⟨.ret true, s', tr⟩) :
    let before := runCalls (new : ServerMapHolder K) calls
    let after := s'.exploreMapHolder
    ∃ (known req : RectangleI) (m : MapData K),
      sfCalcRoundedCellIdxRect before.resolution knownArea = .ok known ∧
      mapFetches tr = [(cellArea before.resolution req, .ok (some m))] ∧
      CoversExactly before.resolution req m ∧ ¬sfIsCellIdxRectEmpty req ∧ Within req known ∧
      (∀ x y, sfDoesCellIdxRectContain known x y →
        Overlaps before.resolution robotPose (max 2 fVal) x y →
          sfDoesCellIdxRectContain req x y) ∧
      (∀ x y, sfDoesCellIdxRectContain req x y →
        ∃ b, ofList m.mapData (cellOffset req x y) = some b ∧
          ofList after.mapDat (cellOffset after.availCellIdxRect x y) = some b) ∧
      ∀ r x y, sfDoesCellIdxRectContain r x y → ¬sfDoesCellIdxRectContain req x y →
        ∃ msg msg' v, fillRosMapMsg before r = .ok (r, msg) ∧
          fillRosMapMsg after r = .ok (r, msg') ∧
          ofList msg.data (cellOffset r x y) = some v ∧
          ofList msg'.data (cellOffset r x y) = some v := by
  intro before after
  have hI : Inv before := runCalls_inv inv_new calls
  have hstart : Fetched before [] { s with exploreMapHolder := before }
      ([] : List (Event (Ret K) Act Empty)) := ⟨rfl, rfl⟩
  have hupdated : Updated before fVal robotPose knownArea s' tr := by
    refine wp_reachable ?_ (fun _ _ _ _ _ h _ => h) (fun j => j.elim)
      (wp_updateMapNearRobot_updated hI hstart) h rfl
    rintro ok s tr a s' hok hact rfl
    obtain ⟨near, known, m, hnear, hknown, hempty, hreq, hs⟩ := hok rfl
    exact ⟨near, known, m, hnear, hknown, hempty, hreq,
      holderOnly_refreshed.stable s tr a s' hs hact⟩
  obtain ⟨near, known, m, hnear, hknown, -, hreq, hs⟩ := hupdated
  refine ⟨known, sfIntersectionOfCellIdxRect near known, m, hknown, hs.fetches_eq, hs.covers,
    hreq, intersection_within_right hreq, ?_, ?_, ?_⟩
  · intro x y hxy hoverlaps
    exact contain_intersection_iff.mpr
      ⟨contain_of_overlaps hI.resolution_valid hnear hoverlaps, hxy⟩
  · exact fun x y hxy => hs.stored hreq hxy
  · exact fun r x y hxy hout => hs.unchanged hI hxy hout

/-! ## An update over old content -/

theorem fixedAnswer_posed (o : Op ℚ) :
    posedPlatform 4 0 (0, 0) ⟨0, 0, 20, 16⟩ o (fixedAnswer o) := by
  cases o with
  | readRobotPose => rfl
  | getMap area => exact fixedAnswer_exact (.getMap area)
  | getKnownArea => exact fixedAnswer_exact .getKnownArea
  | getParameter name => rfl
  | _ => trivial

theorem cellArea_injective {resolution : K} (hres : resolution ≠ 0) {r r' : RectangleI}
    (h : cellArea resolution r = cellArea resolution r') : r = r' := by
  have hcancel : ∀ {a b : ℤ}, resolution * (a : K) = resolution * (b : K) → a = b := fun heq =>
    Int.cast_injective (mul_left_cancel₀ hres heq)
  obtain ⟨hx, hy, hw, hh⟩ := RectangleF.mk.inj h
  cases r
  cases r'
  rw [RectangleI.mk.injEq]
  exact ⟨hcancel hx, hcancel hy, hcancel hw, hcancel hh⟩

def updateOver : Config (Ret ℚ) Act Empty (State ℚ) Exn Bool :=
  ⟨updateMapNearRobot, { (State.init : State ℚ) with exploreMapHolder := runCalls new oldContent },
    []⟩

def updateOverRun : ℕ → Config (Ret ℚ) Act Empty (State ℚ) Exn Bool :=
  updateOver.runOf (handler fixedAnswer) (fun _ => action) (fun j => j.elim) (List.replicate 8 .op)

theorem isRun_updateOverRun :
    IsRun (system (posedPlatform 4 0 (0, 0) ⟨0, 0, 20, 16⟩)) (fun j => j.elim) updateOverRun 8 :=
  isRun_runOf (handle_handler fixedAnswer_posed) (fun _ _ => rfl) (by decide +kernel)

/-- The robot stands at the corner of the known area: one cell is fetched, and the old cell
further away stays. -/
theorem updateMapNearRobot_exact_old :
    ∃ (s' : State ℚ) (tr : List (Event (Ret ℚ) Act Empty)) (m : MapData ℚ),
      mapFetches tr = [(⟨0, 0, 4, 4⟩, .ok (some m))] ∧
      (∃ b, m.mapData[0]? = some b ∧ ofList s'.exploreMapHolder.mapDat
        (cellOffset s'.exploreMapHolder.availCellIdxRect 0 0) = some b) ∧
      ∃ msg msg' v, fillRosMapMsg (runCalls new oldContent) ⟨5, 0, 1, 1⟩ =
          .ok (⟨5, 0, 1, 1⟩, msg) ∧
        fillRosMapMsg s'.exploreMapHolder ⟨5, 0, 1, 1⟩ = .ok (⟨5, 0, 1, 1⟩, msg') ∧
        ofList msg.data 0 = some v ∧ ofList msg'.data 0 = some v := by
  have hreach := isRun_updateOverRun.reachable (i := 8) le_rfl
  have hresult : (updateOverRun 8).prog.result = some true := by decide +kernel
  have hres : (runCalls (new : ServerMapHolder ℚ) oldContent).resolution = 4 := by decide +kernel
  have hareas : (mapFetches (updateOverRun 8).trace).map Prod.fst = [⟨0, 0, 4, 4⟩] := by
    decide +kernel
  rw [show updateOverRun 0 = updateOver from rfl] at hreach
  generalize updateOverRun 8 = c at hreach hresult hareas
  obtain ⟨p, s', tr⟩ := c
  have hp : p = .ret true := Prog.eq_ret_of_result hresult
  subst hp
  rw [← hres] at hreach
  obtain ⟨known, req, m, -, hfetch, -, -, -, -, hfresh, hold⟩ :=
    updateMapNearRobot_exact oldContent State.init 0 (0, 0) ⟨0, 0, 20, 16⟩ hreach
  rw [hres] at hfetch
  rw [hfetch] at hareas
  have hreq : req = ⟨0, 0, 1, 1⟩ := cellArea_injective (by norm_num : (4 : ℚ) ≠ 0)
    ((List.cons.inj hareas).1.trans (by decide +kernel))
  subst hreq
  have harea : cellArea (4 : ℚ) ⟨0, 0, 1, 1⟩ = ⟨0, 0, 4, 4⟩ := by decide +kernel
  rw [harea] at hfetch
  exact ⟨s', tr, m, hfetch, hfresh 0 0 (by decide), hold ⟨5, 0, 1, 1⟩ 5 0 (by decide) (by decide)⟩

end Ros2WsDemo.ServerExploreMapUpdateWorker
