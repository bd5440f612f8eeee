import Mathlib.Data.Nat.Digits.Lemmas
import Mathlib.LinearAlgebra.Matrix.Notation
import Mathlib.Tactic.FieldSimp
import Ros2WsDemo.Grasp.Arm
import Ros2WsDemo.Lib.NumpyArray
import Ros2WsDemo.Lib.Regex

/-!
# Poses written as text

`string_to_homogeneous_matrix` picks six numbers out of a text by a regular expression and
builds a matrix from them.  The expression takes a sign only in front of a number with digits
after a point, so a negative integer is read without its sign.
-/

namespace Ros2WsDemo.ScriptUtils

open Python Regex MobileManipulator

/-! ## The functions of the script -/

structure Trigonometry (F : Type) where
  radians : F → F
  cos : F → F
  sin : F → F

section Model

variable (decimal : ℕ → Option ℕ)

/-- `\d`; `decimal` is `unicodedata.decimal`. -/
def digit (c : ℕ) : Bool := (decimal c).isSome

def sign (c : ℕ) : Bool := c = 45 ∨ c = 43

def point (c : ℕ) : Bool := c = 46

/-- `\.\d+` -/
def fractionPattern : Pattern ℕ := .seq (.one point) (.many1 (digit decimal))

/-- `\d*\.\d+` -/
def unsignedPattern : Pattern ℕ := .seq (.many (digit decimal)) (fractionPattern decimal)

/-- `[-+]?\d*\.\d+|\d+` -/
def numberPattern : Pattern ℕ :=
  .alt (.seq (.opt (.one sign)) (unsignedPattern decimal)) (.many1 (digit decimal))

/-- The number that is written with these digits before and behind the point. -/
def decimalValue (whole fraction : List ℕ) : ℚ :=
  (Nat.ofDigits 10 (whole ++ fraction).reverse : ℕ) / 10 ^ fraction.length

variable {F : Type} (nearest : ℚ → F)

/-- `float(s)` of a text without spaces, exponent and underscores.  Floats are taken as numbers:
`-0.0` is `0.0`. -/
def float (s : Str) : Except Exn F :=
  let digits := if s.head?.any sign then s.drop 1 else s
  let whole := digits.takeWhile (digit decimal)
  let rest := digits.dropWhile (digit decimal)
  let fraction := rest.drop 1
  if rest.head?.all point ∧ fraction.all (digit decimal) ∧ whole ++ fraction ≠ [] then
    let q := decimalValue (whole.filterMap decimal) (fraction.filterMap decimal)
    .ok (nearest (if s.head? = some 45 then -q else q))
  else
    .error .valueError

/-- The numbers `string_to_homogeneous_matrix` works with. -/
def poseNumbers (s : Str) : Except Exn (Pose6 F) :=
  match (numberPattern decimal).findall s with
  | [x, y, z, rx, ry, rz] => do
      let x ← float decimal nearest x
      let y ← float decimal nearest y
      let z ← float decimal nearest z
      let rx ← float decimal nearest rx
      let ry ← float decimal nearest ry
      let rz ← float decimal nearest rz
      return { x, y, z, rx, ry, rz }
  | _ => .error .valueError

variable (trig : Trigonometry F) [Zero F] [One F] [Add F] [Mul F] [Neg F]

def eulerToRotationMatrix (rx ry rz : F) : Matrix (Fin 3) (Fin 3) F :=
  let (rx, ry, rz) := (trig.radians rx, trig.radians ry, trig.radians rz)
  let Rz := !![trig.cos rz, -trig.sin rz, 0; trig.sin rz, trig.cos rz, 0; 0, 0, 1]
  let Ry := !![trig.cos ry, 0, trig.sin ry; 0, 1, 0; -trig.sin ry, 0, trig.cos ry]
  let Rx := !![1, 0, 0; 0, trig.cos rx, -trig.sin rx; 0, trig.sin rx, trig.cos rx]
  Numpy.matmul (Numpy.matmul Rz Ry) Rx

def stringToHomogeneousMatrix (s : Str) : Except Exn (Matrix (Fin 4) (Fin 4) F) := do
  let p ← poseNumbers decimal nearest s
  let R := eulerToRotationMatrix trig p.rx p.ry p.rz
  return Matrix.of fun i j =>
    if h : i.val < 3 ∧ j.val < 3 then R ⟨i, h.1⟩ ⟨j, h.2⟩
    else if h : i.val < 3 then ![p.x, p.y, p.z] ⟨i, h⟩
    else if i = j then 1 else 0

end Model

/-! ## Literals -/

inductive Sign where
  | none
  | plus
  | minus
  deriving DecidableEq

def Sign.text : Sign → Str
  | none => []
  | plus => [43]
  | minus => [45]

def digitsText (ds : List (Fin 10)) : Str := ds.map fun d => 48 + d.val

def digitsNumber (ds : List (Fin 10)) : ℕ := Nat.ofDigits 10 (ds.reverse.map Fin.val)

/-- An integer or a decimal number; `fraction` is what follows the point. -/
structure Literal where
  sign : Sign
  whole : List (Fin 10)
  fraction : Option (List (Fin 10))
  nonempty : whole ++ fraction.getD [] ≠ []

namespace Literal

def fractionText (l : Literal) : Str := l.fraction.elim [] fun ds => 46 :: digitsText ds

def text (l : Literal) : Str := l.sign.text ++ (digitsText l.whole ++ l.fractionText)

def decimals (l : Literal) : List (Fin 10) := l.fraction.getD []

def magnitude (l : Literal) : ℚ :=
  digitsNumber l.whole + (digitsNumber l.decimals : ℚ) / 10 ^ l.decimals.length

def value (l : Literal) : ℚ := if l.sign = .minus then -l.magnitude else l.magnitude

/-- A negative number without digits behind a point. -/
def IsNegativeInteger (l : Literal) : Prop := l.value < 0 ∧ l.decimals = []

/-- The literal that is read instead: without a fraction, what is in front of the digits and
behind them is lost. -/
def read (l : Literal) : Literal :=
  if h : l.decimals = [] then
    { sign := .none, whole := l.whole, fraction := none,
      nonempty := by
        have hnonempty := l.nonempty
        unfold decimals at h
        rwa [h] at hnonempty }
  else l

end Literal

@[simp] theorem digitsText_eq_nil {ds : List (Fin 10)} : digitsText ds = [] ↔ ds = [] :=
  List.map_eq_nil_iff

theorem Literal.digits_ne_nil (l : Literal) : l.whole ++ l.decimals ≠ [] := l.nonempty

theorem Literal.whole_ne_nil {l : Literal} (h : l.decimals = []) : l.whole ≠ [] := by
  have hdigits := l.digits_ne_nil
  rwa [h, List.append_nil] at hdigits

theorem Literal.fractionText_eq {l : Literal} (h : l.decimals ≠ []) :
    l.fractionText = 46 :: digitsText l.decimals := by
  obtain ⟨sg, whole, fraction, hne⟩ := l
  cases fraction with
  | none => exact absurd rfl h
  | some f => rfl

/-- `[X,Y,Z] [Rx,Ry,Rz]` -/
def poseText (p : Pose6 Literal) : Str :=
  91 :: (p.x.text ++ 44 :: (p.y.text ++ 44 :: (p.z.text ++ 93 :: 32 :: 91 ::
    (p.rx.text ++ 44 :: (p.ry.text ++ 44 :: (p.rz.text ++ [93]))))))

/-- What is done to each of the six. -/
def mapPose {α β : Type} (f : α → β) (p : Pose6 α) : Pose6 β :=
  ⟨f p.x, f p.y, f p.z, f p.rx, f p.ry, f p.rz⟩

def numbers {α : Type} (p : Pose6 α) : List α := [p.x, p.y, p.z, p.rx, p.ry, p.rz]

/-- What the documentation of `unicodedata.decimal` says about ASCII. -/
def ReadsAscii (decimal : ℕ → Option ℕ) : Prop :=
  ∀ c < 128, decimal c = if 48 ≤ c ∧ c ≤ 57 then some (c - 48) else none

section Text

variable {decimal : ℕ → Option ℕ} (hascii : ReadsAscii decimal)

include hascii

theorem decimal_digit (d : Fin 10) : decimal (48 + d.val) = some d.val := by
  rw [hascii _ (by omega), if_pos (by omega), Nat.add_sub_cancel_left]

theorem digit_digitsText {ds : List (Fin 10)} {c : ℕ} (hc : c ∈ digitsText ds) :
    digit decimal c = true := by
  obtain ⟨d, -, rfl⟩ := List.mem_map.1 hc
  rw [digit, decimal_digit hascii, Option.isSome_some]

theorem filterMap_digitsText (ds : List (Fin 10)) :
    (digitsText ds).filterMap decimal = ds.map Fin.val := by
  unfold digitsText
  rw [List.filterMap_map, ← List.filterMap_eq_map]
  exact List.filterMap_congr fun d _ => decimal_digit hascii d

theorem digit_of_ascii {c : ℕ} (hc : c < 128) (h : ¬(48 ≤ c ∧ c ≤ 57)) :
    digit decimal c = false := by
  rw [digit, hascii c hc, if_neg h, Option.isSome_none]

theorem point_of_digit {c : ℕ} (h : digit decimal c = true) : point c = false := by
  rw [point, decide_eq_false_iff_not]
  rintro rfl
  rw [digit_of_ascii hascii (by decide) (by decide)] at h
  exact Bool.false_ne_true h

theorem sign_of_digit {c : ℕ} (h : digit decimal c = true) : sign c = false := by
  rw [sign, decide_eq_false_iff_not]
  rintro (rfl | rfl)
  all_goals
    rw [digit_of_ascii hascii (by decide) (by decide)] at h
    exact Bool.false_ne_true h

end Text

/-! ## What the expression finds -/

section Found

variable {decimal : ℕ → Option ℕ}

theorem ends_fraction_of_stops {t : Str} (h : Pattern.Stops point t) :
    (fractionPattern decimal).ends t = [] := by
  rw [fractionPattern, Pattern.ends, Pattern.ends_one_of_stops h, List.flatMap_nil]

theorem ends_fraction_point (t : Str) :
    (fractionPattern decimal).ends (46 :: t) = (Pattern.many1 (digit decimal)).ends t := by
  rw [fractionPattern, Pattern.ends, Pattern.ends, if_pos (by decide), List.flatMap_singleton]

theorem ends_unsigned_run (hascii : ReadsAscii decimal) {m t : Str}
    (hm : ∀ c ∈ m, digit decimal c = true) (ht : Pattern.Stops (digit decimal) t) :
    (unsignedPattern decimal).ends (m ++ t) = (fractionPattern decimal).ends t := by
  rw [unsignedPattern, Pattern.ends, Pattern.ends]
  refine Pattern.flatMap_manyEnds_run hm ht fun c s hc => ?_
  exact ends_fraction_of_stops (Pattern.stops_cons (point_of_digit hascii hc) s)

theorem findall_other (hascii : ReadsAscii decimal) {c : ℕ} {t : Str}
    (hd : digit decimal c = false) (hs : sign c = false)
    (hfraction : (fractionPattern decimal).ends (c :: t) = []) :
    (numberPattern decimal).findall (c :: t) = (numberPattern decimal).findall t := by
  apply Pattern.findall_of_none
  have hends := ends_unsigned_run hascii (List.forall_mem_nil _) (Pattern.stops_cons hd t)
  rw [List.nil_append, hfraction] at hends
  rw [numberPattern, Pattern.ends, Pattern.ends, Pattern.ends,
    Pattern.ends_one_of_stops (Pattern.stops_cons hs t), List.nil_append, List.flatMap_singleton,
    hends, Pattern.ends_many1_of_stops (Pattern.stops_cons hd t), List.append_nil]

theorem findall_sign (hascii : ReadsAscii decimal) {c : ℕ} {t : Str}
    (hd : digit decimal c = false) (hp : point c = false)
    (ht : (unsignedPattern decimal).ends t = []) :
    (numberPattern decimal).findall (c :: t) = (numberPattern decimal).findall t := by
  apply Pattern.findall_of_none
  have hends := ends_unsigned_run hascii (List.forall_mem_nil _) (Pattern.stops_cons hd t)
  rw [List.nil_append, ends_fraction_of_stops (Pattern.stops_cons hp t)] at hends
  have hopt : ∀ r ∈ (Pattern.opt (.one sign)).ends (c :: t), r = t ∨ r = c :: t := by
    intro r hr
    rw [Pattern.ends, Pattern.ends] at hr
    split_ifs at hr
    · simpa using hr
    · exact Or.inr (by simpa using hr)
  rw [numberPattern, Pattern.ends, Pattern.ends, Pattern.ends_many1_of_stops
    (Pattern.stops_cons hd t), List.append_nil, List.flatMap_eq_nil_iff]
  intro r hr
  rcases hopt r hr with rfl | rfl
  · exact ht
  · exact hends

/-- A sign in front of a number is no part of what is found, unless the number has a fraction. -/
theorem findall_signText (hascii : ReadsAscii decimal) (sg : Sign) {t : Str}
    (ht : (unsignedPattern decimal).ends t = []) :
    (numberPattern decimal).findall (sg.text ++ t) = (numberPattern decimal).findall t := by
  have hplus : digit decimal 43 = false := digit_of_ascii hascii (by decide) (by decide)
  have hminus : digit decimal 45 = false := digit_of_ascii hascii (by decide) (by decide)
  cases sg with
  | none => rfl
  | plus => exact findall_sign hascii hplus (by decide) ht
  | minus => exact findall_sign hascii hminus (by decide) ht

theorem findall_digits (hascii : ReadsAscii decimal) {m t : Str} (hne : m ≠ [])
    (hm : ∀ c ∈ m, digit decimal c = true) (ht : Pattern.Stops (digit decimal) t)
    (hfraction : (fractionPattern decimal).ends t = []) :
    (numberPattern decimal).findall (m ++ t) = m :: (numberPattern decimal).findall t := by
  apply Pattern.findall_of_match hne
  have hsign : Pattern.Stops sign (m ++ t) := by
    obtain ⟨c, m, rfl⟩ := List.exists_cons_of_ne_nil hne
    exact Pattern.stops_cons (sign_of_digit hascii (List.forall_mem_cons.1 hm).1) _
  rw [numberPattern, Pattern.ends, Pattern.ends, Pattern.ends, Pattern.ends_one_of_stops hsign,
    List.nil_append, List.flatMap_singleton, ends_unsigned_run hascii hm ht, hfraction,
    List.nil_append]
  exact Pattern.head_many1_run hne hm ht

theorem head_ends_unsigned (hascii : ReadsAscii decimal) {m f t : Str}
    (hm : ∀ c ∈ m, digit decimal c = true) (hne : f ≠ [])
    (hf : ∀ c ∈ f, digit decimal c = true) (ht : Pattern.Stops (digit decimal) t) :
    ((unsignedPattern decimal).ends (m ++ 46 :: (f ++ t))).head? = some t := by
  have hpoint : Pattern.Stops (digit decimal) (46 :: (f ++ t)) :=
    Pattern.stops_cons (digit_of_ascii hascii (by decide) (by decide)) _
  rw [ends_unsigned_run hascii hm hpoint, ends_fraction_point]
  exact Pattern.head_many1_run hne hf ht

/-- The number with its sign, where it has one. -/
theorem head_ends_signed (sg : Sign) {u t : Str} (hsign : Pattern.Stops sign u)
    (hu : ((unsignedPattern decimal).ends u).head? = some t) :
    ((numberPattern decimal).ends (sg.text ++ u)).head? = some t := by
  have hopt : ∃ others, (Pattern.opt (.one sign)).ends (sg.text ++ u) = u :: others := by
    cases sg with
    | none => exact ⟨[], by rw [Sign.text, List.nil_append, Pattern.ends,
        Pattern.ends_one_of_stops hsign, List.nil_append]⟩
    | plus => exact ⟨[43 :: u], rfl⟩
    | minus => exact ⟨[45 :: u], rfl⟩
  obtain ⟨others, hothers⟩ := hopt
  rw [numberPattern, Pattern.ends, Pattern.ends, hothers, List.flatMap_cons, List.append_assoc,
    List.head?_append, hu, Option.some_or]

theorem findall_decimal (hascii : ReadsAscii decimal) (sg : Sign) {m f t : Str}
    (hm : ∀ c ∈ m, digit decimal c = true) (hne : f ≠ [])
    (hf : ∀ c ∈ f, digit decimal c = true) (ht : Pattern.Stops (digit decimal) t) :
    (numberPattern decimal).findall (sg.text ++ (m ++ 46 :: (f ++ t))) =
      (sg.text ++ (m ++ 46 :: f)) :: (numberPattern decimal).findall t := by
  have hsign : Pattern.Stops sign (m ++ 46 :: (f ++ t)) := by
    cases m with
    | nil => exact Pattern.stops_cons (by decide) _
    | cons c m =>
        exact Pattern.stops_cons (sign_of_digit hascii (List.forall_mem_cons.1 hm).1) _
  have hhead := head_ends_signed sg hsign (head_ends_unsigned hascii hm hne hf ht)
  have htext : sg.text ++ (m ++ 46 :: (f ++ t)) = sg.text ++ (m ++ 46 :: f) ++ t := by simp
  rw [htext] at hhead ⊢
  exact Pattern.findall_of_match (by simp) hhead

/-! ## Literals in a text -/

/-- What follows a literal in the format. -/
def Follows (decimal : ℕ → Option ℕ) (t : Str) : Prop :=
  Pattern.Stops (digit decimal) t ∧ Pattern.Stops point t

theorem Literal.findall_rest (hascii : ReadsAscii decimal) {l : Literal} (h : l.decimals = [])
    {t : Str} (ht : Follows decimal t) :
    Pattern.Stops (digit decimal) (l.fractionText ++ t) ∧
      (fractionPattern decimal).ends (l.fractionText ++ t) = [] ∧
      (numberPattern decimal).findall (l.fractionText ++ t) =
        (numberPattern decimal).findall t := by
  unfold Literal.decimals at h
  unfold Literal.fractionText
  cases hfraction : l.fraction with
  | none => exact ⟨ht.1, ends_fraction_of_stops ht.2, rfl⟩
  | some f =>
      rw [hfraction, Option.getD_some] at h
      subst h
      have hpoint : digit decimal 46 = false := digit_of_ascii hascii (by decide) (by decide)
      have hends : (fractionPattern decimal).ends (46 :: t) = [] := by
        rw [ends_fraction_point, Pattern.ends_many1_of_stops ht.1]
      exact ⟨Pattern.stops_cons hpoint _, hends, findall_other hascii hpoint (by decide) hends⟩

theorem Literal.findall_text (hascii : ReadsAscii decimal) (l : Literal) {t : Str}
    (ht : Follows decimal t) :
    (numberPattern decimal).findall (l.text ++ t) =
      l.read.text :: (numberPattern decimal).findall t := by
  have hwhole : ∀ c ∈ digitsText l.whole, digit decimal c = true :=
    fun c hc => digit_digitsText hascii hc
  unfold Literal.read
  split_ifs with h
  · obtain ⟨hstops, hends, hrest⟩ := l.findall_rest hascii h ht
    have hne : digitsText l.whole ≠ [] := mt digitsText_eq_nil.1 (Literal.whole_ne_nil h)
    have hunsigned : (unsignedPattern decimal).ends
        (digitsText l.whole ++ (l.fractionText ++ t)) = [] := by
      rw [ends_unsigned_run hascii hwhole hstops, hends]
    rw [Literal.text, List.append_assoc, List.append_assoc, findall_signText hascii _ hunsigned,
      findall_digits hascii hne hwhole hstops hends, hrest]
    simp [Literal.text, Literal.fractionText, Sign.text]
  · have hdecimal := findall_decimal hascii l.sign hwhole (mt digitsText_eq_nil.1 h)
      (fun c hc => digit_digitsText hascii hc) ht.1
    rw [Literal.text, Literal.fractionText_eq h]
    simpa using hdecimal

theorem findall_separator (hascii : ReadsAscii decimal) {c : ℕ}
    (hc : c ∈ [91, 44, 93, 32]) (t : Str) :
    (numberPattern decimal).findall (c :: t) = (numberPattern decimal).findall t := by
  have h : c < 128 ∧ ¬(48 ≤ c ∧ c ≤ 57) ∧ sign c = false ∧ point c = false := by
    revert c
    decide
  obtain ⟨hlt, hdigit, hsign, hpoint⟩ := h
  exact findall_other hascii (digit_of_ascii hascii hlt hdigit) hsign
    (ends_fraction_of_stops (Pattern.stops_cons hpoint t))

theorem follows_cons (hascii : ReadsAscii decimal) {c : ℕ} (hc : c ∈ [44, 93]) (t : Str) :
    Follows decimal (c :: t) := by
  have h : c < 128 ∧ ¬(48 ≤ c ∧ c ≤ 57) ∧ point c = false := by
    revert c
    decide
  exact ⟨Pattern.stops_cons (digit_of_ascii hascii h.1 h.2.1) t, Pattern.stops_cons h.2.2 t⟩

theorem findall_poseText (hascii : ReadsAscii decimal) (p : Pose6 Literal) :
    (numberPattern decimal).findall (poseText p) =
      [p.x.read.text, p.y.read.text, p.z.read.text, p.rx.read.text, p.ry.read.text,
        p.rz.read.text] := by
  have hcomma (l : Literal) (t : Str) : (numberPattern decimal).findall (l.text ++ 44 :: t) =
      l.read.text :: (numberPattern decimal).findall t := by
    rw [l.findall_text hascii (follows_cons hascii (by decide) t),
      findall_separator hascii (by decide)]
  have hbracket (l : Literal) (t : Str) : (numberPattern decimal).findall (l.text ++ 93 :: t) =
      l.read.text :: (numberPattern decimal).findall t := by
    rw [l.findall_text hascii (follows_cons hascii (by decide) t),
      findall_separator hascii (by decide)]
  unfold poseText
  rw [findall_separator hascii (by decide), hcomma, hcomma, hbracket,
    findall_separator hascii (by decide), findall_separator hascii (by decide), hcomma, hcomma,
    hbracket]
  rfl

end Found

/-! ## What is read -/

section Read

variable {decimal : ℕ → Option ℕ} {F : Type} (nearest : ℚ → F)

theorem decimalValue_eq (whole fraction : List (Fin 10)) :
    decimalValue (whole.map Fin.val) (fraction.map Fin.val) =
      digitsNumber whole + (digitsNumber fraction : ℚ) / 10 ^ fraction.length := by
  have hten : (10 : ℚ) ^ fraction.length ≠ 0 := pow_ne_zero _ (by norm_num)
  unfold decimalValue digitsNumber
  rw [List.reverse_append, Nat.ofDigits_append, ← List.map_reverse, ← List.map_reverse,
    List.length_map, List.length_map, List.length_reverse]
  push_cast
  field_simp
  ring

/-- Behind its sign a literal has a digit or the point. -/
theorem stops_sign_literal (hascii : ReadsAscii decimal) (l : Literal) :
    Pattern.Stops sign (digitsText l.whole ++ l.fractionText) := by
  unfold Literal.fractionText
  cases hwhole : l.whole with
  | cons d ds =>
      have hd : 48 + d.val ∈ digitsText (d :: ds) := List.mem_cons_self
      exact Pattern.stops_cons (sign_of_digit hascii (digit_digitsText hascii hd)) _
  | nil =>
      cases l.fraction with
      | none => exact Pattern.stops_nil sign
      | some f => exact Pattern.stops_cons (by decide) _

theorem drop_sign_literal (hascii : ReadsAscii decimal) (l : Literal) :
    (if l.text.head?.any sign then l.text.drop 1 else l.text) =
      digitsText l.whole ++ l.fractionText := by
  have hstops := stops_sign_literal hascii l
  unfold Literal.text
  cases l.sign with
  | plus => rfl
  | minus => rfl
  | none =>
      rw [Sign.text, List.nil_append]
      cases htext : digitsText l.whole ++ l.fractionText with
      | nil => rfl
      | cons c t =>
          rw [List.head?_cons, Option.any_some, hstops c t htext, if_neg Bool.false_ne_true]

theorem head_text_eq_minus (hascii : ReadsAscii decimal) (l : Literal) :
    l.text.head? = some 45 ↔ l.sign = .minus := by
  have hstops := stops_sign_literal hascii l
  unfold Literal.text
  cases l.sign with
  | plus => simp [Sign.text]
  | minus => simp [Sign.text]
  | none =>
      rw [Sign.text, List.nil_append]
      refine iff_of_false (fun h => ?_) (by decide)
      obtain ⟨t, ht⟩ := List.head?_eq_some_iff.1 h
      exact Bool.noConfusion (hstops 45 t ht)

/-- The number of a literal is the nearest float. -/
theorem float_text (hascii : ReadsAscii decimal) (l : Literal) :
    float decimal nearest l.text = .ok (nearest l.value) := by
  have hwhole : ∀ c ∈ digitsText l.whole, digit decimal c = true :=
    fun c hc => digit_digitsText hascii hc
  have hfraction : Pattern.Stops (digit decimal) l.fractionText ∧
      l.fractionText.head?.all point = true ∧ l.fractionText.drop 1 = digitsText l.decimals := by
    unfold Literal.fractionText Literal.decimals
    cases l.fraction with
    | none => exact ⟨Pattern.stops_nil _, rfl, rfl⟩
    | some f =>
        exact ⟨Pattern.stops_cons (digit_of_ascii hascii (by decide) (by decide)) _, rfl, rfl⟩
  obtain ⟨hstops, hpoint, hdecimals⟩ := hfraction
  have htake : (digitsText l.whole ++ l.fractionText).takeWhile (digit decimal) =
      digitsText l.whole := Pattern.takeWhile_run hwhole hstops
  have hdrop : (digitsText l.whole ++ l.fractionText).dropWhile (digit decimal) =
      l.fractionText := Pattern.dropWhile_run hwhole hstops
  have hdigits : (digitsText l.decimals).all (digit decimal) = true :=
    List.all_eq_true.2 fun c hc => digit_digitsText hascii hc
  have hnonempty : digitsText l.whole ++ digitsText l.decimals ≠ [] := by
    simpa using l.digits_ne_nil
  have hminus := head_text_eq_minus hascii l
  unfold float
  simp only [drop_sign_literal hascii, htake, hdrop, hdecimals, hpoint, hdigits, hnonempty,
    filterMap_digitsText hascii, decimalValue_eq, hminus, ne_eq, not_false_eq_true, and_self,
    if_true]
  rfl

theorem poseNumbers_poseText (hascii : ReadsAscii decimal) (p : Pose6 Literal) :
    poseNumbers decimal nearest (poseText p) =
      .ok (mapPose (fun l => nearest l.read.value) p) := by
  unfold poseNumbers
  rw [findall_poseText hascii]
  simp only [float_text nearest hascii]
  rfl

/-- What rounding cannot do: an integer keeps its sign. -/
def KeepsSign (nearest : ℚ → F) : Prop := ∀ n : ℕ, 0 < n → nearest (-n) ≠ nearest n

theorem Literal.nearest_read_iff (hsign : KeepsSign nearest) (l : Literal) :
    nearest l.read.value = nearest l.value ↔ ¬l.IsNegativeInteger := by
  unfold Literal.IsNegativeInteger
  by_cases h : l.decimals = []
  · have hmagnitude : l.magnitude = digitsNumber l.whole := by
      simp [Literal.magnitude, h, digitsNumber]
    have hread : l.read.value = digitsNumber l.whole := by
      unfold Literal.read
      rw [dif_pos h]
      simp [Literal.value, Literal.magnitude, Literal.decimals, digitsNumber]
    rw [hread]
    by_cases hminus : l.sign = .minus
    · have hvalue : l.value = -(digitsNumber l.whole : ℚ) := by
        rw [Literal.value, if_pos hminus, hmagnitude]
      rw [hvalue]
      rcases Nat.eq_zero_or_pos (digitsNumber l.whole) with hzero | hpos
      · simp [hzero]
      · refine iff_of_false (fun heq => hsign _ hpos heq.symm) fun hnot => hnot ⟨?_, h⟩
        exact neg_lt_zero.2 (Nat.cast_pos.2 hpos)
    · have hvalue : l.value = digitsNumber l.whole := by
        rw [Literal.value, if_neg hminus, hmagnitude]
      rw [hvalue]
      exact iff_of_true rfl fun hneg => absurd hneg.1 (not_lt.2 (Nat.cast_nonneg _))
  · have hread : l.read = l := dif_neg h
    rw [hread]
    exact iff_of_true rfl fun hneg => h hneg.2

/-- The six numbers of a pose are read as they are written, unless one of them is a negative
integer. -/
theorem poseNumbers_faithful_iff (hascii : ReadsAscii decimal) (hsign : KeepsSign nearest)
    (p : Pose6 Literal) :
    poseNumbers decimal nearest (poseText p) = .ok (mapPose (fun l => nearest l.value) p) ↔
      ∀ l ∈ numbers p, ¬l.IsNegativeInteger := by
  rw [poseNumbers_poseText nearest hascii, Except.ok.injEq, mapPose, mapPose, Pose6.mk.injEq]
  simp [numbers, Literal.nearest_read_iff nearest hsign]

end Read

/-! ## A pose with a negative integer -/

def asciiDecimal (c : ℕ) : Option ℕ := if 48 ≤ c ∧ c ≤ 57 then some (c - 48) else none

theorem readsAscii_asciiDecimal : ReadsAscii asciiDecimal := fun _ _ => rfl

theorem keepsSign_id : KeepsSign (id : ℚ → ℚ) := by
  intro n hn h
  have hpos : (0 : ℚ) < n := Nat.cast_pos.2 hn
  simp only [id] at h
  linarith

def zeroLiteral : Literal := ⟨.none, [0], none, by decide⟩

/-- `-5` -/
def minusFive : Literal := ⟨.minus, [5], none, by decide⟩

/-- `-1.5` -/
def minusOneAndHalf : Literal := ⟨.minus, [1], some [5], by decide⟩

theorem poseNumbers_faithful_fraction :
    poseNumbers asciiDecimal id (Str.ofString "[-1.5,0,0] [0,0,-1.5]") =
      .ok (⟨-3 / 2, 0, 0, 0, 0, -3 / 2⟩ : Pose6 ℚ) := by
  have hread := (poseNumbers_faithful_iff id readsAscii_asciiDecimal keepsSign_id
    ⟨minusOneAndHalf, zeroLiteral, zeroLiteral, zeroLiteral, zeroLiteral, minusOneAndHalf⟩).2
    (by simp [numbers, Literal.IsNegativeInteger, minusOneAndHalf, zeroLiteral, Literal.decimals,
      Literal.value, Literal.magnitude, digitsNumber])
  have hhalf : minusOneAndHalf.value = -3 / 2 := by
    norm_num [minusOneAndHalf, Literal.value, Literal.magnitude, Literal.decimals, digitsNumber]
  have hzero : zeroLiteral.value = 0 := by
    norm_num [zeroLiteral, Literal.value, Literal.magnitude, Literal.decimals, digitsNumber]
  rw [mapPose, hhalf, hzero] at hread
  exact hread

theorem poseNumbers_not_faithful :
    ¬∀ p : Pose6 Literal, poseNumbers asciiDecimal id (poseText p) =
      .ok (mapPose (fun l => l.value) p) := by
  intro h
  have hvalue := h ⟨minusFive, zeroLiteral, zeroLiteral, zeroLiteral, zeroLiteral, zeroLiteral⟩
  rw [poseNumbers_poseText id readsAscii_asciiDecimal, Except.ok.injEq, mapPose, mapPose,
    Pose6.mk.injEq] at hvalue
  have hnegative : minusFive.IsNegativeInteger := by
    refine ⟨?_, rfl⟩
    norm_num [minusFive, Literal.value, Literal.magnitude, Literal.decimals, digitsNumber]
  exact (Literal.nearest_read_iff id keepsSign_id minusFive).1 hvalue.1 hnegative

end Ros2WsDemo.ScriptUtils
