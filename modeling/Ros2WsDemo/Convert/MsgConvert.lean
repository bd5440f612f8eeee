import Ros2WsDemo.Lib.SortedMap
import Ros2WsDemo.Rpos.Basic

/-!
# Conversion of messages

The templates of `MsgConvert`: a conversion overwrites what it knows of its destination,
whatever that contained before, and vectors, maps and optional values are converted element
by element.
-/

namespace Ros2WsDemo

/-- A specialization of `MsgConvert`; the second argument is the destination before the
call. -/
structure MsgConvert (Ros Sltc : Type) where
  toRos : Sltc → Ros → Ros
  toSltc : Ros → Sltc → Except Exn Sltc

/-- A message with the flag `is_valid`. -/
structure OptionalMsg (α : Type) where
  isValid : Bool
  value : α

instance {α : Type} [Inhabited α] : Inhabited (OptionalMsg α) := ⟨⟨false, default⟩⟩

variable {Ros Sltc : Type}

/-! ## Loops in which no element fails -/

theorem foldlM_ok {α β : Type} {f : β → α → Except Exn β} {g : β → α → β} {xs : List α}
    (h : ∀ b, ∀ a ∈ xs, f b a = .ok (g b a)) (b : β) : xs.foldlM f b = .ok (xs.foldl g b) := by
  induction xs generalizing b with
  | nil => rfl
  | cons a xs ih =>
      rw [List.foldlM_cons, h b a List.mem_cons_self, except_ok_bind, List.foldl_cons]
      exact ih (fun b a ha => h b a (List.mem_cons_of_mem _ ha)) (g b a)

theorem mapM_ok {α β : Type} {f : α → Except Exn β} {g : α → β} {xs : List α}
    (h : ∀ a ∈ xs, f a = .ok (g a)) : xs.mapM f = .ok (xs.map g) := by
  induction xs with
  | nil => rfl
  | cons a xs ih =>
      rw [List.forall_mem_cons] at h
      rw [List.mapM_cons, h.1, except_ok_bind, ih h.2]
      rfl

/-! ## Optional values without a conversion -/

def optionalToRosMsg {α : Type} [Inhabited α] (optVal : Option α) (rosMsg : OptionalMsg α) :
    OptionalMsg α :=
  match optVal with
  | some v => { rosMsg with isValid := true, value := v }
  | none => default

def rosMsgToOptional {α : Type} (rosMsg : OptionalMsg α) : Option α :=
  if rosMsg.isValid then some rosMsg.value else none

theorem rosMsgToOptional_optionalToRosMsg {α : Type} [Inhabited α] (optVal : Option α)
    (rosMsg : OptionalMsg α) : rosMsgToOptional (optionalToRosMsg optVal rosMsg) = optVal := by
  cases optVal <;> rfl

namespace MsgConvert

/-- There and back the value becomes `f v`, whatever is in the destinations. -/
def RoundTrips (c : MsgConvert Ros Sltc) (f : Sltc → Sltc) (v : Sltc) : Prop :=
  ∀ ros sltc, c.toSltc (c.toRos v ros) sltc = .ok (f v)

section Templates

variable [Inhabited Ros] [Inhabited Sltc] (c : MsgConvert Ros Sltc)

/-! ## Optional values -/

def toRosOptionalMsg (optVal : Option Sltc) (rosMsg : OptionalMsg Ros) : OptionalMsg Ros :=
  match optVal with
  | some v => { rosMsg with isValid := true, value := c.toRos v rosMsg.value }
  | none => default

def fromRosOptionalMsg (rosMsg : OptionalMsg Ros) : Except Exn (Option Sltc) :=
  if rosMsg.isValid then some <$> c.toSltc rosMsg.value default else .ok none

variable {c} in
theorem RoundTrips.optional {f : Sltc → Sltc} {optVal : Option Sltc}
    (h : ∀ v ∈ optVal, c.RoundTrips f v) (rosMsg : OptionalMsg Ros) :
    c.fromRosOptionalMsg (c.toRosOptionalMsg optVal rosMsg) = .ok (optVal.map f) := by
  cases optVal with
  | none => rfl
  | some v =>
      have hv := h v rfl rosMsg.value default
      simp only [toRosOptionalMsg, fromRosOptionalMsg, if_true, hv, except_map_ok, Option.map_some]

/-! ## Vectors -/

/-- `std::vector::resize` -/
def resize {α : Type} [Inhabited α] (xs : List α) (n : ℕ) : List α :=
  xs.take n ++ List.replicate (n - xs.length) default

omit [Inhabited Ros] [Inhabited Sltc] in
theorem resize_length {α : Type} [Inhabited α] (xs : List α) (n : ℕ) :
    (resize xs n).length = n := by
  simp only [resize, List.length_append, List.length_take, List.length_replicate]
  omega

def vector : MsgConvert (List Ros) (List Sltc) where
  toRos vSltcVal vRosMsg := List.zipWith c.toRos vSltcVal (resize vRosMsg vSltcVal.length)
  toSltc vRosMsg vSltcVal :=
    (vRosMsg.zip (resize vSltcVal vRosMsg.length)).mapM fun e => c.toSltc e.1 e.2

variable {c} in
omit [Inhabited Ros] [Inhabited Sltc] in
theorem RoundTrips.zip {f : Sltc → Sltc} {vs : List Sltc} (h : ∀ v ∈ vs, c.RoundTrips f v)
    {ros : List Ros} {sltc : List Sltc} (hros : ros.length = vs.length)
    (hsltc : sltc.length = vs.length) :
    ((List.zipWith c.toRos vs ros).zip sltc).mapM (fun e => c.toSltc e.1 e.2) =
      .ok (vs.map f) := by
  induction vs generalizing ros sltc with
  | nil => rfl
  | cons v vs ih =>
      obtain ⟨r, ros, rfl⟩ := List.exists_cons_of_length_eq_add_one hros
      obtain ⟨s, sltc, rfl⟩ := List.exists_cons_of_length_eq_add_one hsltc
      rw [List.forall_mem_cons] at h
      have hrest := ih h.2 (Nat.succ.inj hros) (Nat.succ.inj hsltc)
      simp only [List.zipWith_cons_cons, List.zip_cons_cons, List.mapM_cons, h.1 r s, hrest,
        except_ok_bind]
      rfl

variable {c} in
theorem RoundTrips.vector {f : Sltc → Sltc} {vs : List Sltc} (h : ∀ v ∈ vs, c.RoundTrips f v) :
    c.vector.RoundTrips (List.map f) vs := by
  intro ros sltc
  have hlength := resize_length ros vs.length
  refine RoundTrips.zip h hlength ?_
  rw [resize_length]
  simp [MsgConvert.vector, hlength]

variable {c} in
/-- A conversion that overwrites its destination converts vectors element by element. -/
theorem vector_toSltc {f : Ros → Sltc} (h : ∀ ros sltc, c.toSltc ros sltc = .ok (f ros))
    (vRosMsg : List Ros) (vSltcVal : List Sltc) :
    c.vector.toSltc vRosMsg vSltcVal = .ok (vRosMsg.map f) := by
  have hfst := List.map_fst_zip (resize_length vSltcVal vRosMsg.length).ge
  simp only [MsgConvert.vector]
  rw [mapM_ok (g := fun e => f e.1) fun e _ => h e.1 e.2]
  conv_rhs => rw [← hfst, List.map_map]
  rfl

/-! ## Maps -/

variable {κ : Type} [LinearOrder κ]

def map : MsgConvert (SortedMap κ Ros) (SortedMap κ Sltc) where
  toRos mapSltcVal _ := mapSltcVal.entries.foldl
    (fun mapRosMsg e => mapRosMsg.alter e.1 fun o => c.toRos e.2 (o.getD default)) .empty
  toSltc mapRosMsg _ := mapRosMsg.entries.foldlM
    (fun mapSltcVal e => do
      let v ← c.toSltc e.2 ((mapSltcVal.find? e.1).getD default)
      return mapSltcVal.alter e.1 fun _ => v) .empty

theorem map_toRos (mapSltcVal : SortedMap κ Sltc) (mapRosMsg : SortedMap κ Ros) :
    (c.map).toRos mapSltcVal mapRosMsg = mapSltcVal.mapVal fun v => c.toRos v default :=
  SortedMap.foldl_alter_empty (fun v o => c.toRos v (o.getD default)) mapSltcVal

variable {c} in
theorem RoundTrips.map {f : Sltc → Sltc} {m : SortedMap κ Sltc}
    (h : ∀ k v, m.find? k = some v → c.RoundTrips f v) :
    (c.map (κ := κ)).RoundTrips (SortedMap.mapVal f) m := by
  intro ros sltc
  rw [map_toRos, ← SortedMap.foldl_alter_empty (fun v _ => f v)]
  simp only [MsgConvert.map, SortedMap.mapVal, List.foldlM_map]
  refine foldlM_ok (fun b e he => ?_) _
  have hfind : m.find? e.1 = some e.2 := SortedMap.find?_eq_some_iff.2 he
  rw [h e.1 e.2 hfind]
  rfl

end Templates

end MsgConvert

end Ros2WsDemo
