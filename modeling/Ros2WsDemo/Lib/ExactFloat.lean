import Ros2WsDemo.Lib.JsonLoads

/-!
# Exact numbers

Rational numbers with the three special values, as a `float` that never rounds.
The text functions cover ASCII.
-/

namespace Python

open Json

inductive Exact where
  | rat (q : ℚ)
  | infinity
  | negInfinity
  | nan
  deriving DecidableEq

namespace Exact

/-! ## Arithmetic -/

instance : Neg Exact where
  neg
    | rat q => rat (-q)
    | infinity => negInfinity
    | negInfinity => infinity
    | nan => nan

instance : Add Exact where
  add
    | rat a, rat b => rat (a + b)
    | nan, _ | _, nan | infinity, negInfinity | negInfinity, infinity => nan
    | infinity, _ | _, infinity => infinity
    | negInfinity, _ | _, negInfinity => negInfinity

instance : Sub Exact where
  sub a b := a + -b

/-- The infinity with the sign of `q`. -/
def infinityOfSign (q : ℚ) : Exact := if q = 0 then nan else if 0 < q then infinity else negInfinity

instance : Mul Exact where
  mul
    | rat a, rat b => rat (a * b)
    | nan, _ | _, nan => nan
    | infinity, infinity | negInfinity, negInfinity => infinity
    | infinity, negInfinity | negInfinity, infinity => negInfinity
    | rat q, infinity | infinity, rat q => infinityOfSign q
    | rat q, negInfinity | negInfinity, rat q => infinityOfSign (-q)

instance : OfScientific Exact where
  ofScientific m s e := rat (OfScientific.ofScientific m s e)

/-! ## Text -/

/-- The value of a number literal. -/
def ofLiteral (s : Str) : ℚ :=
  let negative := s.head? = some 45
  let s := if negative then s.drop 1 else s
  let digits := s.takeWhile isDigit
  let fraction := (fractionPart (s.dropWhile isDigit)).1.drop 1
  let exponent := (exponentPart (fractionPart (s.dropWhile isDigit)).2).1.drop 1
  let shift : ℤ := match exponent with
    | 45 :: e => -(digitsValue e : ℤ)
    | 43 :: e => digitsValue e
    | e => digitsValue e
  let q : ℚ := digitsValue (digits ++ fraction) * (10 : ℚ) ^ (shift - fraction.length)
  if negative then -q else q

def ofInt (n : ℤ) : Option Exact := if n.natAbs < 2 ^ 1024 then some (rat n) else none

/-- Decimal numbers in the form of JSON, with white space around them. -/
def ofStr (s : Str) : Option Exact :=
  let s := s.strip
  let digits := if s.head? = some 45 then s.drop 1 else s
  match integerPart digits with
  | some (_, rest) =>
      if (exponentPart (fractionPart rest).2).2 = [] then some (rat (ofLiteral s)) else none
  | none => none

/-- The integer next to zero. -/
def toInt : Exact → Except Exn ℤ
  | rat q => .ok (q.num.tdiv q.den)
  | nan => .error .valueError
  | _ => .error .overflowError

def eq : Exact → Exact → Bool
  | nan, _ => false
  | a, b => a = b

def lower (s : Str) : Str := s.map fun c => if 65 ≤ c ∧ c ≤ 90 then c + 32 else c

mutual

def repr : Value Exact → Str
  | .none => "None"
  | .bool true => "True"
  | .bool false => "False"
  | .int n => Str.ofInt n
  | .float (.rat q) => Str.ofString (toString q)
  | .float .infinity => "inf"
  | .float .negInfinity => "-inf"
  | .float .nan => "nan"
  | .str s => [39] ++ s ++ [39]
  | .list xs => [91] ++ reprItems xs ++ [93]
  | .dict entries => [123] ++ reprEntries entries ++ [125]

def reprItems : List (Value Exact) → Str
  | [] => []
  | [v] => repr v
  | v :: vs => repr v ++ [44, 32] ++ reprItems vs

def reprEntries : List (Str × Value Exact) → Str
  | [] => []
  | [(key, v)] => [39] ++ key ++ [39, 58, 32] ++ repr v
  | (key, v) :: es => [39] ++ key ++ [39, 58, 32] ++ repr v ++ [44, 32] ++ reprEntries es

end

instance : Builtins Exact where
  ofInt := ofInt
  ofStr := ofStr
  ofLiteral s := rat (ofLiteral s)
  nan := nan
  infinity := infinity
  negInfinity := negInfinity
  toInt := toInt
  isZero x := x = rat 0
  eq := eq
  eqInt x n := x = rat n
  lower := lower
  repr := repr

instance : Arithmetic Exact where

end Exact

end Python
