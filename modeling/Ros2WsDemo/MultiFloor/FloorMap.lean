import Ros2WsDemo.Lib.ExactFloat
import Ros2WsDemo.Planner.Robot
import Ros2WsDemo.Stcm.Backup

/-!
# Loading the map of a floor

The interactive run sends the file of a floor to the map service, waits for ten seconds at most
and relocalizes the base in any case.  A request that has timed out is not withdrawn: the
server, which takes the requests in turn, carries it out later, while the base may be driving.
-/

namespace Ros2WsDemo.FloorMap

open Python Effect Stcm
open Planner (GeoPose)

/-! ## The script -/

def floorMapsDict : List (Str × Str) :=
  [("1", "/home/yofo/ros2_ws_demo/src/slamware_ros_sdk/maps/floor1 5.12_1.stcm"),
    ("2", "/home/yofo/ros2_ws_demo/src/slamware_ros_sdk/maps/floor2-5.12_1.stcm"),
    ("3", "/home/yofo/ros2_ws_demo/src/slamware_ros_sdk/maps/floor3_1207.stcm")]

/-- `disk` has the files that exist and can be read. -/
def readFloorMap (disk : Str → Option (List UInt8)) (floorKeyStr : Str) : Option (List UInt8) :=
  (floorMapsDict.lookup floorKeyStr).bind disk

inductive BaseCall (F : Type) where
  | recLoc (x y width height : F)
  | navToPose (pose : GeoPose F)

/-- Where the script is: `loading` waits for the response to the request of that number, and
`call` comes after it. -/
inductive Phase (F : Type) where
  | reading
  | loading (request : ℕ) (call : BaseCall F)
  | loaded (call : BaseCall F)

/-- What a key does. -/
inductive KeyAction (F : Type) where
  | load (floorKeyStr : Str) (call : BaseCall F)
  | navigate (pose : GeoPose F)
  | nothing

section Model

variable {F M P ρ : Type} [Arithmetic F]

def keyAction (key : ℕ) : KeyAction F :=
  if key = 48 then .load "1" (.recLoc (-5.00) 0.00 8.00 (-8.00))
  else if key = 49 then
    .navigate ⟨⟨1.69, -4.08, 0.03⟩, ⟨0.000000, 0.000000, -0.718337, 0.695695⟩⟩
  else if key = 50 then
    .navigate ⟨⟨-3.22, -4.52, -3.14⟩, ⟨0.000000, 0.000000, -0.718337, 0.695695⟩⟩
  else .nothing

def startPose : GeoPose F := ⟨⟨0.0, 0.0, 0.0⟩, ⟨0.0, 0.0, 0.0, 1.0⟩⟩

/-! ## Script and server -/

/-- `served` has the requests that the server is done with, with the results of the callback. -/
structure System (F ρ : Type) where
  server : State ρ
  pending : List (List UInt8)
  served : List (List UInt8 × Bool)
  phase : Phase F
  re : Option Bool

def System.init (server : State ρ) : System F ρ := ⟨server, [], [], .reading, none⟩

inductive Event (ρ : Type) where
  | key (key : ℕ) (disk : Str → Option (List UInt8))
  | respond
  | timeOut
  | recLoc
  | serve
  | elsewhere (step : State ρ → State ρ)

/-- The call to the base that an event makes. -/
def System.call (s : System F ρ) : Event ρ → Option (BaseCall F)
  | .key key _ =>
      match (keyAction key : KeyAction F) with
      | .navigate pose => some (.navToPose pose)
      | _ => none
  | .recLoc =>
      match s.phase with
      | .loaded call => some call
      | _ => none
  | _ => none

/-- The first half of `_load_map_for_floor`, up to the wait. -/
def System.beginLoad (s : System F ρ) (disk : Str → Option (List UInt8)) (floorKeyStr : Str)
    (call : BaseCall F) : System F ρ :=
  match readFloorMap disk floorKeyStr with
  | none => { s with phase := .loaded call, re := some false }
  | some rawStcm =>
      { s with
        phase := .loading (s.served.length + s.pending.length) call
        pending := s.pending ++ [rawStcm] }

def System.press (s : System F ρ) (key : ℕ) (disk : Str → Option (List UInt8)) : System F ρ :=
  match (keyAction key : KeyAction F) with
  | .load floorKeyStr call => s.beginLoad disk floorKeyStr call
  | .navigate _ => s
  | .nothing => s

/-- The second half of `_load_map_for_floor`. -/
def System.endLoad (s : System F ρ) (result : Bool) : System F ρ :=
  match s.phase with
  | .loading _ call => { s with phase := .loaded call, re := some result }
  | _ => s

variable (R : Robot M P ρ) (format : StcmFormat M) (rosMsgToSltc : GeoPose F → P)

/-- The server takes the next request. -/
def System.serve (s : System F ρ) : System F ρ :=
  match s.pending with
  | [] => s
  | rawStcm :: pending =>
      let req : SyncSetStcm.Request (GeoPose F) := ⟨rawStcm, startPose⟩
      match (srvCbWrapperFun (srvCbSyncSetStcm format rosMsgToSltc req) {}).eval (handler R)
        s.server with
      | (.ok (b, _), server) =>
          { s with server := server, pending := pending, served := s.served ++ [(rawStcm, b)] }
      | (.error _, server) => { s with server := server, pending := pending }

def System.next (s : System F ρ) : Event ρ → System F ρ
  | .key key disk => s.press key disk
  | .respond => s.endLoad true
  | .timeOut => s.endLoad false
  | .recLoc => { s with phase := .reading }
  | .serve => s.serve R format rosMsgToSltc
  | .elsewhere step => { s with server := step s.server }

variable {R} (K : R.KeepsMap)

/-- Nothing but the map service changes the robot's map. -/
def System.Enabled (s : System F ρ) : Event ρ → Prop
  | .key _ _ => s.phase = .reading
  | .respond => ∃ n call, s.phase = .loading n call ∧ n < s.served.length
  | .timeOut => ∃ n call, s.phase = .loading n call
  | .recLoc => ∃ call, s.phase = .loaded call
  | .serve => s.pending ≠ []
  | .elsewhere step => ∀ server, K.map (step server).robot = K.map server.robot

/-- The events lead from a start of the script to the state. -/
inductive System.Reachable : List (Event ρ) → System F ρ → Prop
  | init (server : State ρ) : Reachable [] (System.init server)
  | next {events : List (Event ρ)} {s : System F ρ} (h : Reachable events s) (e : Event ρ)
      (he : s.Enabled K e) : Reachable (events ++ [e]) (s.next R format rosMsgToSltc e)

/-! ## The file of the last load -/

variable (F) in
/-- What the file has when a key is pressed that loads it. -/
def Event.read : Event ρ → Option (Option (List UInt8))
  | .key pressed disk =>
      match (keyAction pressed : KeyAction F) with
      | .load floorKeyStr _ => some (readFloorMap disk floorKeyStr)
      | _ => none
  | _ => none

variable (F) in
/-- What the file had when such a key was pressed last. -/
def lastRead (events : List (Event ρ)) : Option (List UInt8) :=
  (events.reverse.findSome? (Event.read F)).join

theorem lastRead_of_some {e : Event ρ} {file : Option (List UInt8)} (events : List (Event ρ))
    (h : e.read F = some file) : lastRead F (events ++ [e]) = file := by
  simp [lastRead, h]

theorem lastRead_of_none {e : Event ρ} (events : List (Event ρ)) (h : e.read F = none) :
    lastRead F (events ++ [e]) = lastRead F events := by
  simp [lastRead, h]

/-! ## What stays true -/

/-- A request on its way is the last one while the script waits for it, and there is none once a
load has succeeded; `read` is what the file had when the last load began. -/
structure System.Valid (read : Option (List UInt8)) (s : System F ρ) : Prop where
  loading : ∀ n call, s.phase = .loading n call →
    n + 1 = s.served.length + s.pending.length ∧ read.isSome
  last : ∀ rawStcm, read = some rawStcm →
    (s.served.map Prod.fst ++ s.pending).getLast? = some rawStcm
  loaded : (∀ n call, s.phase ≠ .loading n call) → s.re = some true →
    s.pending = [] ∧ read.isSome
  map : ∀ rawStcm b, s.served.getLast? = some (rawStcm, b) →
    (b = true → format.loadStream rawStcm = some (K.map s.server.robot)) ∧
      (format.loadStream rawStcm = none → b = false)

variable {format rosMsgToSltc K} {read : Option (List UInt8)} {s : System F ρ}

omit [Arithmetic F] in
theorem valid_init (server : State ρ) :
    (System.init server : System F ρ).Valid format K none where
  loading _ _ h := by cases h
  last _ h := by cases h
  loaded _ h := by cases h
  map _ _ h := by cases h

omit [Arithmetic F] in
theorem System.Valid.beginLoad (h : s.Valid format K read) (disk : Str → Option (List UInt8))
    (floorKeyStr : Str) (call : BaseCall F) :
    (s.beginLoad disk floorKeyStr call).Valid format K (readFloorMap disk floorKeyStr) := by
  unfold System.beginLoad
  cases readFloorMap disk floorKeyStr with
  | none =>
      exact ⟨fun _ _ hphase => (by cases hphase), fun _ hread => (by cases hread),
        fun _ hre => (by cases hre), h.map⟩
  | some rawStcm =>
      refine ⟨fun n call' hphase => ?_, fun bytes hread => ?_, fun hphase => ?_, h.map⟩
      · cases hphase
        exact ⟨by simp [Nat.add_assoc], rfl⟩
      · cases hread
        rw [← List.append_assoc]
        exact List.getLast?_concat
      · exact absurd rfl (hphase _ _)

omit [Arithmetic F] in
/-- The response to the last request comes after all others have been carried out. -/
theorem System.Valid.endLoad (h : s.Valid format K read) {n : ℕ} {call : BaseCall F}
    (hphase : s.phase = .loading n call) {result : Bool}
    (hresult : result = true → n < s.served.length) : (s.endLoad result).Valid format K read := by
  obtain ⟨hnumber, hread⟩ := h.loading n call hphase
  rw [System.endLoad, hphase]
  refine ⟨fun _ _ hphase => (by cases hphase), h.last, fun _ hre => ⟨?_, hread⟩, h.map⟩
  have hserved := hresult (Option.some.inj hre)
  exact List.eq_nil_of_length_eq_zero (by dsimp only; omega)

theorem System.Valid.serve (h : s.Valid format K read) (hpending : s.pending ≠ []) :
    (s.serve R format rosMsgToSltc).Valid format K read := by
  obtain ⟨rawStcm, pending, heq⟩ := List.exists_cons_of_ne_nil hpending
  let req : SyncSetStcm.Request (GeoPose F) := ⟨rawStcm, startPose⟩
  obtain ⟨b, hreturns, -⟩ := srvCbSyncSetStcm_returns R format rosMsgToSltc req {} s.server
  have hmap := map_srvCbSyncSetStcm K format rosMsgToSltc req {} s.server
  cases heval : (srvCbWrapperFun (srvCbSyncSetStcm format rosMsgToSltc req) {}).eval (handler R)
    s.server with
  | mk r server =>
  simp only [heval] at hreturns hmap
  have hserve : s.serve R format rosMsgToSltc =
      { s with server := server, pending := pending, served := s.served ++ [(rawStcm, b)] } := by
    unfold System.serve
    rw [heq]
    dsimp only
    rw [heval, hreturns]
  rw [hserve]
  refine ⟨fun n call hphase => ?_, fun bytes hread => ?_, fun hphase hre => ?_, ?_⟩
  · obtain ⟨hnumber, hread⟩ := h.loading n call hphase
    rw [heq, List.length_cons] at hnumber
    refine ⟨?_, hread⟩
    simp only [List.length_append, List.length_singleton]
    omega
  · have hlast := h.last bytes hread
    rw [heq] at hlast
    simpa using hlast
  · exact absurd (h.loaded hphase hre).1 hpending
  · intro bytes b' hlast
    rw [List.getLast?_concat] at hlast
    cases hlast
    refine ⟨fun hb => hmap.1 ?_, fun hload => ?_⟩
    · rw [hreturns, hb]
    · have hfalse := (hmap.2 hload).1
      rw [hreturns] at hfalse
      cases hfalse
      rfl

theorem System.Valid.press {events : List (Event ρ)} (h : s.Valid format K (lastRead F events))
    (key : ℕ) (disk : Str → Option (List UInt8)) :
    (s.press key disk).Valid format K (lastRead F (events ++ [.key key disk])) := by
  unfold System.press
  cases hkey : (keyAction key : KeyAction F) with
  | load floorKeyStr call =>
      rw [lastRead_of_some events (by rw [Event.read, hkey])]
      exact h.beginLoad disk floorKeyStr call
  | navigate pose => rwa [lastRead_of_none events (by rw [Event.read, hkey])]
  | nothing => rwa [lastRead_of_none events (by rw [Event.read, hkey])]

theorem System.Valid.next {events : List (Event ρ)} (h : s.Valid format K (lastRead F events))
    {e : Event ρ} (he : s.Enabled K e) :
    (s.next R format rosMsgToSltc e).Valid format K (lastRead F (events ++ [e])) := by
  cases e with
  | key key disk => exact h.press key disk
  | respond =>
      obtain ⟨n, call, hphase, hserved⟩ := he
      rw [lastRead_of_none events rfl]
      exact h.endLoad hphase fun _ => hserved
  | timeOut =>
      obtain ⟨n, call, hphase⟩ := he
      rw [lastRead_of_none events rfl]
      exact h.endLoad hphase fun hfalse => absurd hfalse Bool.false_ne_true
  | recLoc =>
      obtain ⟨call, hphase⟩ := he
      rw [lastRead_of_none events rfl]
      refine ⟨fun _ _ hphase => (by cases hphase), h.last, fun _ hre => h.loaded ?_ hre, h.map⟩
      rw [hphase]
      exact fun _ _ heq => by cases heq
  | serve =>
      rw [lastRead_of_none events rfl]
      exact h.serve he
  | elsewhere step =>
      rw [lastRead_of_none events rfl]
      refine ⟨h.loading, h.last, h.loaded, fun bytes b hlast => ?_⟩
      rw [System.next, show K.map (step s.server).robot = K.map s.server.robot from he s.server]
      exact h.map bytes b hlast

theorem System.Reachable.valid {events : List (Event ρ)}
    (h : s.Reachable format rosMsgToSltc K events) : s.Valid format K (lastRead F events) := by
  induction h with
  | init server => exact valid_init server
  | next _ e he ih => exact ih.next he

/-- Whenever the base is sent somewhere after a load that returned `True`, no request is on its
way any more, also none that had timed out, and the server was last asked to set what the file
had when the last load key was pressed.  If its callback returned `true`, the robot has that map. -/
theorem drives_in_loaded_map {events : List (Event ρ)}
    (h : s.Reachable format rosMsgToSltc K events) {e : Event ρ} (he : s.Enabled K e)
    (hcall : (s.call e).isSome) (hre : s.re = some true) :
    s.pending = [] ∧ ∃ rawStcm b, lastRead F events = some rawStcm ∧
      s.served.getLast? = some (rawStcm, b) ∧
      (b = true → format.loadStream rawStcm = some (K.map s.server.robot)) ∧
      (format.loadStream rawStcm = none → b = false) := by
  have hvalid := h.valid
  have hphase : ∀ n call, s.phase ≠ .loading n call := by
    intro n call hphase
    cases e with
    | key key disk => cases hphase.symm.trans he
    | recLoc =>
        obtain ⟨call', hloaded⟩ := he
        cases hphase.symm.trans hloaded
    | respond => cases hcall
    | timeOut => cases hcall
    | serve => cases hcall
    | elsewhere step => cases hcall
  obtain ⟨hpending, hread⟩ := hvalid.loaded hphase hre
  obtain ⟨rawStcm, hread⟩ := Option.isSome_iff_exists.mp hread
  have hlast := hvalid.last rawStcm hread
  rw [hpending, List.append_nil, List.getLast?_map] at hlast
  obtain ⟨⟨bytes, b⟩, hserved, hbytes⟩ := Option.map_eq_some_iff.mp hlast
  cases hbytes
  exact ⟨hpending, bytes, b, hread, hserved, hvalid.map bytes b hserved⟩

end Model

/-! ### A late upload -/

/-- `0` is pressed twice, with another file the second time; the first request is carried out
when the second is already on its way. -/
def late : List (Event (Settings UInt8)) :=
  [.key 48 fun _ => some [1], .timeOut, .recLoc, .key 48 fun _ => some [2], .serve, .serve,
    .respond]

def lateStates (n : ℕ) : System Exact (Settings UInt8) :=
  (late.take n).foldl (System.next steadyRobot oneByte fun _ => ())
    (System.init ⟨some false, ⟨9, true, true⟩⟩)

theorem late_reachable :
    (lateStates 7).Reachable oneByte (fun _ => ()) steadyRobot_keepsMap (late.take 7) := by
  have h₀ : (lateStates 0).Reachable oneByte (fun _ => ()) steadyRobot_keepsMap (late.take 0) :=
    .init _
  have h₁ : (lateStates 1).Reachable oneByte (fun _ => ()) steadyRobot_keepsMap (late.take 1) :=
    .next h₀ (.key 48 fun _ => some [1]) rfl
  have h₃ : (lateStates 3).Reachable oneByte (fun _ => ()) steadyRobot_keepsMap (late.take 3) :=
    .next (.next h₁ .timeOut ⟨0, _, rfl⟩) .recLoc ⟨_, rfl⟩
  have h₄ : (lateStates 4).Reachable oneByte (fun _ => ()) steadyRobot_keepsMap (late.take 4) :=
    .next h₃ (.key 48 fun _ => some [2]) rfl
  have h₆ : (lateStates 6).Reachable oneByte (fun _ => ()) steadyRobot_keepsMap (late.take 6) :=
    .next (.next h₄ .serve (List.cons_ne_nil _ _)) .serve (List.cons_ne_nil _ _)
  exact .next h₆ .respond ⟨1, _, rfl, by decide⟩

theorem drives_in_loaded_map_late : steadyRobot_keepsMap.map (lateStates 7).server.robot = 2 := by
  obtain ⟨-, rawStcm, b, hread, hserved, hmap, -⟩ :=
    drives_in_loaded_map late_reachable (e := .recLoc) ⟨_, rfl⟩ rfl rfl
  have hbytes : rawStcm = [2] := by cases hread; rfl
  have hb : b = true := by cases hserved; rfl
  have hload := hmap hb
  rw [hbytes] at hload
  exact (Option.some.inj hload).symm

end Ros2WsDemo.FloorMap
