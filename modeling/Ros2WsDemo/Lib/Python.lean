import Mathlib.Data.Rat.Floor

/-!
# Python values

The built-in values that JSON texts are decoded into, and the built-in functions
the scripts apply to them.  A `str` is its list of code points, unpaired
surrogates included.  What depends on the floating-point format and on the
Unicode tables is a class of operations.
-/

namespace Python

/-! ## Text -/

abbrev Str := List ℕ

def Str.ofString (s : String) : Str := s.toList.map Char.toNat

instance : Coe String Str := ⟨Str.ofString⟩

/-- `str.isspace` of one character. -/
def isSpace (c : ℕ) : Bool :=
  (9 ≤ c && c ≤ 13) || (28 ≤ c && c ≤ 32) || c == 0x85 || c == 0xa0 || c == 0x1680 ||
    (0x2000 ≤ c && c ≤ 0x200a) || c == 0x2028 || c == 0x2029 || c == 0x202f || c == 0x205f ||
    c == 0x3000

def Str.strip (s : Str) : Str := ((s.dropWhile isSpace).reverse.dropWhile isSpace).reverse

/-- `s.find(c)`, with `none` for -1. -/
def Str.find (s : Str) (c : ℕ) : Option ℕ := s.findIdx? (· == c)

/-- `s.rfind(c)`. -/
def Str.rfind (s : Str) (c : ℕ) : Option ℕ :=
  (s.reverse.findIdx? (· == c)).map fun i => s.length - 1 - i

/-- `s[start:stop]` for positions that are not negative. -/
def Str.slice (s : Str) (start stop : ℕ) : Str := (s.take stop).drop start

/-- `s.replace(old, new)` for single characters. -/
def Str.replace (s : Str) (old new : ℕ) : Str := s.map fun c => if c = old then new else c

/-- `str(n)` -/
def Str.ofInt (n : ℤ) : Str := Str.ofString (toString n)

/-! ## Searching in a text -/

theorem find_append_cons {p t : Str} {c : ℕ} (h : c ∉ p) :
    (p ++ c :: t).find c = some p.length := by
  have hnone : p.findIdx? (· == c) = none := by
    simp only [List.findIdx?_eq_none_iff, beq_eq_false_iff_ne]
    rintro x hx rfl
    exact h hx
  simp [Str.find, List.findIdx?_append, hnone, List.findIdx?_cons]

theorem rfind_append_cons {p t : Str} {c : ℕ} (h : c ∉ t) :
    (p ++ c :: t).rfind c = some p.length := by
  have hnone : t.reverse.findIdx? (· == c) = none := by
    simp only [List.findIdx?_eq_none_iff, List.mem_reverse, beq_eq_false_iff_ne]
    rintro x hx rfl
    exact h hx
  simp [Str.rfind, List.findIdx?_append, hnone, List.findIdx?_cons]

theorem slice_append (p m t : Str) : (p ++ m ++ t).slice p.length (p.length + m.length) = m := by
  rw [Str.slice, ← List.length_append, List.take_left, List.drop_left]

theorem dropWhile_append_cons {p : ℕ → Bool} {c : ℕ} (hc : p c = false) (s t : Str) :
    (s ++ c :: t).dropWhile p = s.dropWhile p ++ c :: t := by
  induction s with
  | nil => simp [hc]
  | cons x s ih =>
      rw [List.cons_append, List.dropWhile_cons, List.dropWhile_cons]
      split_ifs
      · exact ih
      · rfl

/-- Stripping keeps what lies between two characters that are no blanks. -/
theorem strip_around {c d : ℕ} (hc : isSpace c = false) (hd : isSpace d = false)
    (p m t : Str) :
    (p ++ (c :: m ++ [d]) ++ t).strip =
      p.dropWhile isSpace ++ (c :: m ++ [d]) ++ (t.reverse.dropWhile isSpace).reverse := by
  have hleft : (p ++ (c :: m ++ [d]) ++ t).dropWhile isSpace =
      p.dropWhile isSpace ++ (c :: m ++ [d]) ++ t := by
    simpa using dropWhile_append_cons hc p (m ++ [d] ++ t)
  have hright : (p.dropWhile isSpace ++ (c :: m ++ [d]) ++ t).reverse.dropWhile isSpace =
      t.reverse.dropWhile isSpace ++ (p.dropWhile isSpace ++ (c :: m ++ [d])).reverse := by
    simpa using dropWhile_append_cons hd t.reverse
      (m.reverse ++ [c] ++ (p.dropWhile isSpace).reverse)
  rw [Str.strip, hleft, hright, List.reverse_append, List.reverse_reverse]

/-! ## Exceptions -/

inductive Exn where
  | attributeError
  | typeError
  | valueError
  | jsonDecodeError (msg : String)
  | overflowError
  | recursionError
  | indexError
  | unicodeEncodeError
  | runtimeError (msg : String)
  | other (text : Str)
  deriving DecidableEq, Repr

namespace Exn

/-- What `except json.JSONDecodeError` catches. -/
def isJsonDecodeError : Exn → Bool
  | .jsonDecodeError _ => true
  | _ => false

/-- What `except (TypeError, ValueError)` catches. -/
def isTypeOrValueError : Exn → Bool
  | .typeError | .valueError | .jsonDecodeError _ | .unicodeEncodeError => true
  | _ => false

end Exn

/-! ## Values -/

/-- What `json.loads` returns; the keys of a dictionary are distinct. -/
inductive Value (F : Type) : Type
  | none
  | bool (b : Bool)
  | int (n : ℤ)
  | float (x : F)
  | str (s : Str)
  | list (xs : List (Value F))
  | dict (entries : List (Str × Value F))

/-- The operations on `float` and the text functions that need the Unicode tables. -/
class Builtins (F : Type) where
  /-- `float(n)`, without a value for an `OverflowError` -/
  ofInt : ℤ → Option F
  /-- `float(s)`, without a value for a `ValueError` -/
  ofStr : Str → Option F
  /-- The value of a number literal with a fraction or an exponent. -/
  ofLiteral : Str → F
  nan : F
  infinity : F
  negInfinity : F
  /-- `int(x)` -/
  toInt : F → Except Exn ℤ
  isZero : F → Bool
  eq : F → F → Bool
  eqInt : F → ℤ → Bool
  lower : Str → Str
  /-- `repr(v)` -/
  repr : Value F → Str

/-- The built-in functions with the arithmetic of `float`. -/
class Arithmetic (F : Type) extends Builtins F, Add F, Sub F, Mul F, Neg F, OfScientific F

variable {F : Type}

namespace Value

def truthy [Builtins F] : Value F → Bool
  | none => false
  | bool b => b
  | int n => n ≠ 0
  | float x => !Builtins.isZero x
  | str s => s ≠ []
  | list xs => !xs.isEmpty
  | dict entries => !entries.isEmpty

/-- `a or b` -/
def orElse [Builtins F] (a b : Value F) : Value F := if a.truthy then a else b

/-- Lists and dictionaries cannot be looked up in a dictionary or a set. -/
def hashable : Value F → Bool
  | list _ | dict _ => false
  | _ => true

/-- `v.get(key)`; only a dictionary has this method. -/
def get (v : Value F) (key : Str) : Except Exn (Value F) :=
  match v with
  | dict entries => .ok ((entries.lookup key).getD none)
  | _ => .error .attributeError

/-- `v.get(key, default)` -/
def getOr (v : Value F) (key : Str) (default : Value F) : Except Exn (Value F) :=
  match v with
  | dict entries => .ok ((entries.lookup key).getD default)
  | _ => .error .attributeError

/-- `float(v)` -/
def toFloat [Builtins F] : Value F → Except Exn F
  | none => .error .typeError
  | bool b => (Builtins.ofInt (if b then 1 else 0)).elim (.error .overflowError) .ok
  | int n => (Builtins.ofInt n).elim (.error .overflowError) .ok
  | float x => .ok x
  | str s => (Builtins.ofStr s).elim (.error .valueError) .ok
  | list _ => .error .typeError
  | dict _ => .error .typeError

/-- `str(v)` -/
def toStr [Builtins F] : Value F → Str
  | str s => s
  | v => Builtins.repr v

/-- `a == b` for numbers, with `True` and `False` as 1 and 0. -/
def numEq [Builtins F] : Value F → Value F → Bool
  | float x, float y => Builtins.eq x y
  | float x, int n | int n, float x => Builtins.eqInt x n
  | float x, bool b | bool b, float x => Builtins.eqInt x b.toInt
  | int m, int n => m == n
  | int n, bool b | bool b, int n => n == b.toInt
  | bool a, bool b => a == b
  | _, _ => false

def bothNan [Builtins F] : Value F → Value F → Bool
  | float x, float y => !Builtins.eq x x && !Builtins.eq y y
  | _, _ => false

mutual

/-- `a == b` -/
def eq [Builtins F] : Value F → Value F → Bool
  | none, none => true
  | str s, str t => s == t
  | list xs, list ys => eqItems xs ys
  | dict es, dict es' => es.length == es'.length && eqEntries es es'
  | a, b => numEq a b

/-- Items that are one object count as equal, and the decoder knows only one NaN. -/
def eqItems [Builtins F] : List (Value F) → List (Value F) → Bool
  | [], [] => true
  | x :: xs, y :: ys => (bothNan x y || eq x y) && eqItems xs ys
  | _, _ => false

def eqEntries [Builtins F] : List (Str × Value F) → List (Str × Value F) → Bool
  | [], _ => true
  | (key, x) :: es, es' =>
      (match es'.lookup key with
        | some y => bothNan x y || eq x y
        | Option.none => false) && eqEntries es es'

end

end Value

/-- `entries[key] = v` -/
def setItem (entries : List (Str × Value F)) (key : Str) (v : Value F) : List (Str × Value F) :=
  if entries.any fun e => e.1 == key then
    entries.map fun e => if e.1 == key then (key, v) else e
  else entries ++ [(key, v)]

/-- A value is smaller than a dictionary it is looked up in. -/
theorem sizeOf_lookup_lt {entries : List (Str × Value F)} {key : Str} {v : Value F}
    (h : entries.lookup key = some v) : sizeOf v < sizeOf (Value.dict entries) := by
  have hlt : sizeOf v < sizeOf entries := by
    induction entries with
    | nil => cases h
    | cons e entries ih =>
        obtain ⟨key', v'⟩ := e
        rw [List.lookup_cons] at h
        split at h
        · cases h
          simp
          omega
        · have := ih h
          simp
          omega
  simp
  omega

/-! ## Handlers -/

/-- `try: return m` with `except (TypeError, ValueError): return None` -/
def orNone {α : Type} (m : Except Exn α) : Except Exn (Option α) :=
  match m with
  | .ok a => .ok (some a)
  | .error e => if e.isTypeOrValueError then .ok none else .error e

end Python
