import Mathlib.Algebra.Order.Floor.Ring
import Mathlib.Algebra.Order.Round
import Mathlib.Tactic.FieldSimp

/-!
# The `rpos` values the server works with

Rectangles, maps and exceptions of the robot SDK.  Integers are mathematical
integers here.  What the code does with `float` values is a class of operations,
`FloatArith`, so that results about cells hold for every arithmetic without
`NaN`; the exact arithmetic of an ordered field is one instance, used where areas
and cells are converted into each other.
-/

namespace Ros2WsDemo

/-! ## `float` -/

/-- The `float` operations of the modelled code; `floor` and `round` include the
conversion to `int`, `epsilon` is `FLT_EPSILON`, `resolution005` the literal `0.05f`. -/
class FloatArith (F : Type) where
  ofInt : ℤ → F
  add : F → F → F
  sub : F → F → F
  mul : F → F → F
  div : F → F → F
  abs : F → F
  le : F → F → Bool
  floor : F → ℤ
  round : F → ℤ
  epsilon : F
  resolution005 : F
  resolution005_valid : le resolution005 epsilon = false

namespace FloatArith

variable {F : Type} [FloatArith F]

def lt (a b : F) : Bool := !le b a

/-- `std::max<float>(a, b)` -/
def max (a b : F) : F := if lt a b then b else a

/-- `rpos::system::types::fequal` -/
def fequal (a b : F) : Bool := lt (abs (sub a b)) epsilon

end FloatArith

section Exact

variable {K : Type} [Field K] [LinearOrder K] [IsStrictOrderedRing K] [FloorRing K]

/-- `std::round`: halfway cases are rounded away from zero. -/
def roundHalfAway (x : K) : ℤ := if 0 ≤ x then ⌊x + 1 / 2⌋ else ⌈x - 1 / 2⌉

@[simp] theorem roundHalfAway_intCast (n : ℤ) : roundHalfAway (n : K) = n := by
  unfold roundHalfAway
  split_ifs
  · rw [Int.floor_intCast_add, Int.floor_eq_zero_iff.mpr ⟨by positivity, by norm_num⟩, add_zero]
  · rw [sub_eq_add_neg, Int.ceil_intCast_add]
    have hceil : ⌈-(1 / 2 : K)⌉ = 0 := by
      rw [Int.ceil_eq_zero_iff]
      constructor <;> norm_num
    rw [hceil, add_zero]

theorem abs_sub_roundHalfAway_le (x : K) : |x - roundHalfAway x| ≤ 1 / 2 := by
  unfold roundHalfAway
  split_ifs
  · have hlo := Int.floor_le (x + 1 / 2)
    have hhi := Int.lt_floor_add_one (x + 1 / 2)
    rw [abs_le]
    constructor <;> linarith
  · have hlo := Int.le_ceil (x - 1 / 2)
    have hhi := Int.ceil_lt_add_one (x - 1 / 2)
    rw [abs_le]
    constructor <;> linarith

theorem roundHalfAway_nonneg {x : K} (hx : 0 ≤ x) : 0 ≤ roundHalfAway x := by
  rw [roundHalfAway, if_pos hx]
  exact Int.floor_nonneg.mpr (by linarith)

theorem roundHalfAway_le {x : K} (hx : 0 ≤ x) {n : ℤ} (hn : x ≤ n) : roundHalfAway x ≤ n := by
  rw [roundHalfAway, if_pos hx, ← Int.lt_add_one_iff, Int.floor_lt]
  push_cast
  linarith

/-- Exact arithmetic: every operation has its mathematical value, and the two
literals the values of their single-precision representations. -/
instance (priority := low) exactArith : FloatArith K where
  ofInt n := n
  add a b := a + b
  sub a b := a - b
  mul a b := a * b
  div a b := a / b
  abs a := |a|
  le a b := decide (a ≤ b)
  floor a := ⌊a⌋
  round a := roundHalfAway a
  epsilon := 1 / 8388608
  resolution005 := 13421773 / 268435456
  resolution005_valid := by
    rw [decide_eq_false_iff_not, not_le]
    norm_num

theorem exact_lt_iff {a b : K} : FloatArith.lt a b = true ↔ a < b := by
  simp [FloatArith.lt, FloatArith.le]

theorem exact_max (a b : K) : FloatArith.max a b = max a b := by
  rw [FloatArith.max]
  split_ifs with hlt
  · exact (max_eq_right (exact_lt_iff.mp hlt).le).symm
  · exact (max_eq_left (not_lt.mp fun h => hlt (exact_lt_iff.mpr h))).symm

/-- A valid resolution is positive. -/
theorem exact_pos {a : K} (h : FloatArith.lt FloatArith.epsilon a = true) : 0 < a := by
  have heps : (0 : K) < FloatArith.epsilon := by
    change (0 : K) < 1 / 8388608
    norm_num
  exact heps.trans (exact_lt_iff.mp h)

end Exact

/-! ## Rectangles -/

/-- `rpos::core::RectangleI`; the default is the empty rectangle at the origin. -/
structure RectangleI where
  x : ℤ := 0
  y : ℤ := 0
  width : ℤ := 0
  height : ℤ := 0
  deriving DecidableEq, Repr

structure RectangleF (F : Type) where
  x : F
  y : F
  width : F
  height : F
  deriving DecidableEq, Repr

section RectangleF

variable {F : Type} [FloatArith F]

def RectangleF.zero : RectangleF F where
  x := FloatArith.ofInt 0
  y := FloatArith.ofInt 0
  width := FloatArith.ofInt 0
  height := FloatArith.ofInt 0

/-- `_Rectangle::empty`: only when both sides vanish. -/
def RectangleF.empty (r : RectangleF F) : Bool :=
  FloatArith.le r.width FloatArith.epsilon && FloatArith.le r.height FloatArith.epsilon

end RectangleF

/-! ## Maps and exceptions -/

structure MapData (F : Type) where
  mapPosition : F × F
  mapDimension : ℤ × ℤ
  mapResolution : F × F
  mapData : List UInt8
  deriving DecidableEq, Repr

/-- `rpos::features::location_provider::Map` is a handle and may be empty. -/
abbrev Map (F : Type) := Option (MapData F)

/-- The exceptions the modelled code tells apart.  `unknown` is anything not
derived from `std::exception`.  The last two are no exceptions: a failed
`BOOST_ASSERT` ends the process, and an access outside a buffer is undefined. -/
inductive Exn where
  | connectionLost
  | connectionTimeOut
  | connectionFail
  | operationFail
  | unsupportedCommand
  | runtimeError (what : String)
  | badAlloc
  | otherStd
  | unknown
  | assertion (expr : String)
  | outOfRange
  deriving DecidableEq, Repr

namespace Exn

/-- What `catch (const std::exception&)` catches. -/
def isStd : Exn → Bool
  | .unknown | .assertion _ | .outOfRange => false
  | _ => true

/-- The three exceptions after which the server reconnects. -/
def isConnection : Exn → Bool
  | .connectionLost | .connectionTimeOut | .connectionFail => true
  | _ => false

def isFault : Exn → Bool
  | .assertion _ | .outOfRange => true
  | _ => false

end Exn

section Except

variable {ε α β : Type}

@[simp] theorem except_ok_bind (a : α) (f : α → Except ε β) :
    ((Except.ok a : Except ε α) >>= f) = f a := rfl

@[simp] theorem except_error_bind (e : ε) (f : α → Except ε β) :
    ((Except.error e : Except ε α) >>= f) = .error e := rfl

@[simp] theorem except_map_ok (f : α → β) (a : α) :
    (f <$> (Except.ok a : Except ε α)) = .ok (f a) := rfl

end Except

/-- `BOOST_ASSERT` -/
def boostAssert (p : Prop) [Decidable p] (expr : String) : Except Exn Unit :=
  if p then .ok () else .error (.assertion expr)

theorem boostAssert_of {p : Prop} [Decidable p] (h : p) (expr : String) :
    boostAssert p expr = .ok () := if_pos h

end Ros2WsDemo
