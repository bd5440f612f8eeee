import Ros2WsDemo.Lib.Python

/-!
# `json.loads`

The decoder of the standard library.  Only its own error is a `JSONDecodeError`:
an integer literal with too many digits raises a plain `ValueError`, and
containers that are nested too deeply a `RecursionError`.
-/

namespace Python.Json

open Except

/-! ## White space -/

def isWhitespace (c : ℕ) : Bool := c == 32 || c == 9 || c == 10 || c == 13

def skipWhitespace (s : Str) : Str := s.dropWhile isWhitespace

/-! ## Strings -/

def hexDigit (c : ℕ) : Option ℕ :=
  if 48 ≤ c ∧ c ≤ 57 then some (c - 48)
  else if 97 ≤ c ∧ c ≤ 102 then some (c - 87)
  else if 65 ≤ c ∧ c ≤ 70 then some (c - 55)
  else none

def isHighSurrogate (c : ℕ) : Bool := 0xd800 ≤ c && c ≤ 0xdbff

def isLowSurrogate (c : ℕ) : Bool := 0xdc00 ≤ c && c ≤ 0xdfff

def joinSurrogates (high low : ℕ) : ℕ := 0x10000 + (high - 0xd800) * 0x400 + (low - 0xdc00)

/-- Where the scanner is inside a string: in plain text, after a backslash, with so
many hexadecimal digits to come, after a high surrogate, or after a high surrogate
and a backslash. -/
inductive StringState where
  | plain
  | escape
  | hex (high : Option ℕ) (left value : ℕ)
  | high (high : ℕ)
  | highEscape (high : ℕ)

/-- What one character leads to: the end of the string, an error, or some output
and the next state. -/
inductive StringStep where
  | close (output : Str)
  | fail (msg : String)
  | next (output : Str) (state : StringState)

def plainStep (output : Str) (c : ℕ) : StringStep :=
  if c = 34 then .close output
  else if c = 92 then .next output .escape
  else if c < 32 then .fail "Invalid control character at"
  else .next (output ++ [c]) .plain

def escapeStep (output : Str) (c : ℕ) : StringStep :=
  if c = 117 then .next output (.hex none 4 0)
  else if c = 34 ∨ c = 92 ∨ c = 47 then .next (output ++ [c]) .plain
  else if c = 98 then .next (output ++ [8]) .plain
  else if c = 102 then .next (output ++ [12]) .plain
  else if c = 110 then .next (output ++ [10]) .plain
  else if c = 114 then .next (output ++ [13]) .plain
  else if c = 116 then .next (output ++ [9]) .plain
  else .fail "Invalid \\escape: "

/-- A code unit has been read; it may complete a surrogate pair or begin one. -/
def unitStep (high : Option ℕ) (unit : ℕ) : StringStep :=
  match high with
  | some h =>
      if isLowSurrogate unit then .next [joinSurrogates h unit] .plain
      else if isHighSurrogate unit then .next [h] (.high unit)
      else .next [h, unit] .plain
  | none => if isHighSurrogate unit then .next [] (.high unit) else .next [unit] .plain

def stringStep (state : StringState) (c : ℕ) : StringStep :=
  match state with
  | .plain => plainStep [] c
  | .escape => escapeStep [] c
  | .hex high left value =>
      match hexDigit c with
      | some d =>
          if left = 1 then unitStep high (16 * value + d)
          else .next [] (.hex high (left - 1) (16 * value + d))
      | none => .fail "Invalid \\uXXXX escape"
  | .high h => if c = 92 then .next [] (.highEscape h) else plainStep [h] c
  | .highEscape h => if c = 117 then .next [] (.hex (some h) 4 0) else escapeStep [h] c

/-- The string whose opening quote has been read, and what follows it. -/
def scanString (state : StringState) : Str → Except Exn (Str × Str)
  | [] =>
      match state with
      | .hex _ _ _ => .error (.jsonDecodeError "Invalid \\uXXXX escape")
      | _ => .error (.jsonDecodeError "Unterminated string starting at")
  | c :: s =>
      match stringStep state c with
      | .close output => .ok (output, s)
      | .fail msg => .error (.jsonDecodeError msg)
      | .next output state' => (scanString state' s).map fun r => (output ++ r.1, r.2)

/-! ## Numbers -/

def isDigit (c : ℕ) : Bool := 48 ≤ c && c ≤ 57

def digitsValue (digits : Str) : ℕ := digits.foldl (fun n c => 10 * n + (c - 48)) 0

/-- The largest number of digits that `int` takes. -/
def maxStrDigits : ℕ := 4300

/-- The digits of the integer part: a zero, or digits that do not begin with one. -/
def integerPart : Str → Option (Str × Str)
  | [] => none
  | c :: s =>
      if c = 48 then some ([48], s)
      else if isDigit c then some (c :: s.takeWhile isDigit, s.dropWhile isDigit)
      else none

/-- The fraction, if a digit follows the point. -/
def fractionPart : Str → Str × Str
  | 46 :: c :: s =>
      if isDigit c then (46 :: c :: s.takeWhile isDigit, s.dropWhile isDigit)
      else ([], 46 :: c :: s)
  | s => ([], s)

/-- The exponent, if it has a digit. -/
def exponentPart (s : Str) : Str × Str :=
  match s with
  | e :: rest =>
      if e = 101 ∨ e = 69 then
        let sign := match rest with
          | c :: _ => if c = 43 ∨ c = 45 then [c] else []
          | [] => []
        let digits := (rest.drop sign.length).takeWhile isDigit
        if digits.isEmpty then ([], s)
        else (e :: sign ++ digits, rest.drop (sign.length + digits.length))
      else ([], s)
  | [] => ([], [])

section Numbers

variable {F : Type} [Builtins F]

def scanNumber (s : Str) : Except Exn (Value F × Str) :=
  let sign : Str := if s.head? = some 45 then [45] else []
  match integerPart (s.drop sign.length) with
  | none => .error (.jsonDecodeError "Expecting value")
  | some (digits, s) =>
      let (fraction, s) := fractionPart s
      let (exponent, s) := exponentPart s
      if fraction.isEmpty && exponent.isEmpty then
        if maxStrDigits < digits.length then .error .valueError
        else
          let n : ℤ := digitsValue digits
          .ok (.int (if sign.isEmpty then n else -n), s)
      else .ok (.float (Builtins.ofLiteral (sign ++ digits ++ fraction ++ exponent)), s)

end Numbers

/-! ## Containers -/

section Values

variable {F : Type}

abbrev Scanner (F : Type) := Str → Except Exn (Value F × Str)

/-- The items of an array from its first one on.  Every item takes a character, so
the length of the text is enough for `fuel`. -/
def scanItems (scanOnce : Scanner F) : ℕ → Str → Except Exn (List (Value F) × Str)
  | 0, _ => .error (.jsonDecodeError "Expecting value")
  | fuel + 1, s => do
      let (v, s) ← scanOnce s
      match skipWhitespace s with
      | 93 :: s => return ([v], s)
      | 44 :: s => do
          let (vs, s) ← scanItems scanOnce fuel (skipWhitespace s)
          return (v :: vs, s)
      | _ => .error (.jsonDecodeError "Expecting ',' delimiter")

def scanArray (scanOnce : Scanner F) (s : Str) : Except Exn (Value F × Str) :=
  match skipWhitespace s with
  | 93 :: s => .ok (.list [], s)
  | s => (scanItems scanOnce s.length s).map fun r => (.list r.1, r.2)

/-- The members of an object from its first one on, after those already read. -/
def scanMembers (scanOnce : Scanner F) :
    ℕ → List (Str × Value F) → Str → Except Exn (List (Str × Value F) × Str)
  | 0, _, _ => .error (.jsonDecodeError "Expecting property name enclosed in double quotes")
  | fuel + 1, entries, s =>
      match s with
      | 34 :: s => do
          let (key, s) ← scanString .plain s
          match skipWhitespace s with
          | 58 :: s => do
              let (v, s) ← scanOnce (skipWhitespace s)
              match skipWhitespace s with
              | 125 :: s => return (setItem entries key v, s)
              | 44 :: s => scanMembers scanOnce fuel (setItem entries key v) (skipWhitespace s)
              | _ => .error (.jsonDecodeError "Expecting ',' delimiter")
          | _ => .error (.jsonDecodeError "Expecting ':' delimiter")
      | _ => .error (.jsonDecodeError "Expecting property name enclosed in double quotes")

def scanObject (scanOnce : Scanner F) (s : Str) : Except Exn (Value F × Str) :=
  match skipWhitespace s with
  | 125 :: s => .ok (.dict [], s)
  | s => (scanMembers scanOnce s.length [] s).map fun r => (.dict r.1, r.2)

variable [Builtins F]

/-- The constants, with the text that stands for them. -/
def constants : List (Str × Value F) :=
  [("null", .none), ("true", .bool true), ("false", .bool false), ("NaN", .float Builtins.nan),
    ("Infinity", .float Builtins.infinity), ("-Infinity", .float Builtins.negInfinity)]

def scanWith (object array : Scanner F) (s : Str) : Except Exn (Value F × Str) :=
  match s with
  | [] => .error (.jsonDecodeError "Expecting value")
  | 34 :: s => (scanString .plain s).map fun r => (.str r.1, r.2)
  | 123 :: s => object s
  | 91 :: s => array s
  | s =>
      match constants.find? fun c => c.1.isPrefixOf s with
      | some c => .ok (c.2, s.drop c.1.length)
      | none => scanNumber s

/-- One value, with containers nested at most `limit` deep. -/
def scanOnce : ℕ → Scanner F
  | 0 => scanWith (fun _ => .error .recursionError) fun _ => .error .recursionError
  | limit + 1 => scanWith (scanObject (scanOnce limit)) (scanArray (scanOnce limit))

/-- `json.loads(s)` -/
def loads (limit : ℕ) (s : Str) : Except Exn (Value F) :=
  if s.head? = some 0xfeff then
    .error (.jsonDecodeError "Unexpected UTF-8 BOM (decode using utf-8-sig)")
  else do
    let (v, s) ← scanOnce limit (skipWhitespace s)
    if skipWhitespace s = [] then return v
    else .error (.jsonDecodeError "Extra data")

end Values

end Python.Json
