import Mathlib.Data.List.TakeWhile
import Ros2WsDemo.Lib.ExceptState
import Ros2WsDemo.Lib.JsonLoads

/-!
# The text of a JSON value

The decoder looks no further than the character after a value.  What it reads is
therefore read in the same way when the text ends earlier, and a text that is decoded
as a dictionary is, up to white space, one from a brace to a brace.
-/

namespace Python.Json

open ExceptState

/-! ## Runs of characters -/

theorem head_dropWhile {p : ℕ → Bool} {t : Str} {x : ℕ} {l : Str}
    (h : x :: l <+: t.dropWhile p) : p x = false := by
  obtain ⟨rest, hrest⟩ := h
  have hne : t.dropWhile p ≠ [] := by
    rw [← hrest]
    exact List.cons_ne_nil _ _
  have hhead := List.head_dropWhile_not p hne
  simpa [← hrest] using hhead

/-- A maximal run of characters is maximal also if the text ends earlier. -/
theorem run_front (p : ℕ → Bool) (t : Str) {r' : Str} (hr' : r' <+: t.dropWhile p) :
    (t.takeWhile p ++ r').takeWhile p = t.takeWhile p ∧
      (t.takeWhile p ++ r').dropWhile p = r' := by
  have hall : ∀ x ∈ t.takeWhile p, p x = true := fun x hx => List.mem_takeWhile_imp hx
  rw [List.takeWhile_append_of_pos hall, List.dropWhile_append_of_pos hall]
  cases r' with
  | nil => simp
  | cons x l => simp [head_dropWhile hr']

theorem drop_run (p : ℕ → Bool) (t : Str) :
    t.drop (t.takeWhile p).length = t.dropWhile p := by
  have h : (t.takeWhile p ++ t.dropWhile p).drop (t.takeWhile p).length = t.dropWhile p :=
    List.drop_left
  rwa [List.takeWhile_append_dropWhile] at h

theorem prefix_append (c : Str) {r r' : Str} (h : r' <+: r) : c ++ r' <+: c ++ r :=
  (List.prefix_append_right_inj c).mpr h

theorem prefix_append_cons (c : Str) (x : ℕ) {r r' : Str} (h : r' <+: r) :
    c ++ x :: r' <+: c ++ x :: r :=
  prefix_append c (List.cons_prefix_cons.mpr ⟨rfl, h⟩)

theorem skipWhitespace_front (t : Str) :
    ∃ c, (∀ x ∈ c, isWhitespace x = true) ∧ t = c ++ skipWhitespace t ∧
      ∀ r', r' <+: skipWhitespace t → skipWhitespace (c ++ r') = r' := by
  refine ⟨t.takeWhile isWhitespace, fun x hx => List.mem_takeWhile_imp hx, ?_, ?_⟩
  · exact List.takeWhile_append_dropWhile.symm
  · exact fun r' hr' => (run_front isWhitespace t hr').2

theorem skipWhitespace_cons_front {t s : Str} {x : ℕ} (h : skipWhitespace t = x :: s) :
    ∃ c, (∀ y ∈ c, isWhitespace y = true) ∧ t = c ++ x :: s ∧
      ∀ r', skipWhitespace (c ++ x :: r') = x :: r' := by
  obtain ⟨c, hc, ht, -⟩ := skipWhitespace_front t
  have hpre : x :: s <+: t.dropWhile isWhitespace := h ▸ List.prefix_refl _
  have hx : isWhitespace x = false := head_dropWhile hpre
  refine ⟨c, hc, by rw [← h]; exact ht, fun r' => ?_⟩
  unfold skipWhitespace
  rw [List.dropWhile_append_of_pos hc]
  simp [hx]

/-- `scan` reads a text `c` off the front, however much of the rest there is. -/
def ReadsFront {α : Type} (scan : Str → Except Exn (α × Str)) : Prop :=
  ∀ t a r, scan t = .ok (a, r) →
    ∃ c, c ≠ [] ∧ t = c ++ r ∧ ∀ r', r' <+: r → scan (c ++ r') = .ok (a, r')

/-! ## Strings -/

theorem scanString_front {state : StringState} {t out r : Str}
    (h : scanString state t = .ok (out, r)) :
    ∃ c, c ≠ [] ∧ t = c ++ r ∧ ∀ r', scanString state (c ++ r') = .ok (out, r') := by
  induction t generalizing state out with
  | nil => cases state <;> cases h
  | cons x t ih =>
      rw [scanString] at h
      cases hstep : stringStep state x with
      | close output =>
          rw [hstep] at h
          cases h
          exact ⟨[x], List.cons_ne_nil _ _, rfl, fun r' => by simp [scanString, hstep]⟩
      | fail msg =>
          rw [hstep] at h
          cases h
      | next output state' =>
          rw [hstep] at h
          obtain ⟨⟨out', r₁⟩, hrest, hout⟩ := ok_map h
          cases hout
          obtain ⟨c, -, rfl, hc⟩ := ih hrest
          refine ⟨x :: c, List.cons_ne_nil _ _, rfl, fun r' => ?_⟩
          simp only [List.cons_append, scanString, hstep, hc r', Except.map]

/-! ## Numbers -/

theorem integerPart_front {t d r : Str} (h : integerPart t = some (d, r)) :
    d ≠ [] ∧ t = d ++ r ∧ ∀ r', r' <+: r → integerPart (d ++ r') = some (d, r') := by
  cases t with
  | nil => cases h
  | cons x t =>
      rw [integerPart] at h
      split_ifs at h with hzero hdigit <;> cases h
      · exact ⟨List.cons_ne_nil _ _, by simp [hzero], fun r' _ => rfl⟩
      · refine ⟨List.cons_ne_nil _ _, by simp, fun r' hr' => ?_⟩
        obtain ⟨htake, hdrop⟩ := run_front isDigit t hr'
        simp [integerPart, hzero, hdigit, htake, hdrop]

theorem fractionPart_eq_nil {t : Str} (h : ∀ x s, t = 46 :: x :: s → isDigit x = false) :
    fractionPart t = ([], t) := by
  unfold fractionPart
  split
  · rename_i x s
    rw [h x s rfl]
    rfl
  · rfl

theorem fractionPart_front {t f r : Str} (h : fractionPart t = (f, r)) :
    t = f ++ r ∧ ∀ r', r' <+: r → fractionPart (f ++ r') = (f, r') := by
  by_cases hdigit : ∃ x s, t = 46 :: x :: s ∧ isDigit x = true
  · obtain ⟨x, s, rfl, hx⟩ := hdigit
    simp only [fractionPart, hx, if_true] at h
    cases h
    refine ⟨by simp, fun r' hr' => ?_⟩
    obtain ⟨htake, hdrop⟩ := run_front isDigit s hr'
    simp only [List.cons_append, fractionPart, hx, if_true, htake, hdrop]
  · have hnone : ∀ x s, t = 46 :: x :: s → isDigit x = false :=
      fun x s ht => Bool.eq_false_iff.mpr fun hx => hdigit ⟨x, s, ht, hx⟩
    rw [fractionPart_eq_nil hnone] at h
    cases h
    refine ⟨rfl, fun r' hr' => fractionPart_eq_nil fun x s hs => ?_⟩
    obtain ⟨rest, hrest⟩ := hr'
    rw [show r' = 46 :: x :: s from hs] at hrest
    exact hnone x (s ++ rest) hrest.symm

/-- The sign of an exponent. -/
def exponentSign : Str → Str
  | c :: _ => if c = 43 ∨ c = 45 then [c] else []
  | [] => []

theorem exponentPart_cons {e : ℕ} (he : e = 101 ∨ e = 69) (rest : Str) :
    exponentPart (e :: rest) =
      let digits := (rest.drop (exponentSign rest).length).takeWhile isDigit
      if digits.isEmpty then ([], e :: rest)
      else (e :: exponentSign rest ++ digits,
        rest.drop ((exponentSign rest).length + digits.length)) := by
  simp only [exponentPart, if_pos he]
  cases rest <;> rfl

theorem exponentPart_of_other {t : Str} (h : ∀ e rest, t = e :: rest → ¬(e = 101 ∨ e = 69)) :
    exponentPart t = ([], t) := by
  cases t with
  | nil => rfl
  | cons e rest => simp only [exponentPart, if_neg (h e rest rfl)]

theorem exponentSign_cons (c : ℕ) (rest : Str) :
    exponentSign (c :: rest) = if c = 43 ∨ c = 45 then [c] else [] := rfl

theorem exponentSign_append (rest : Str) :
    rest = exponentSign rest ++ rest.drop (exponentSign rest).length := by
  cases rest with
  | nil => rfl
  | cons c rest =>
      rw [exponentSign_cons]
      split_ifs <;> rfl

theorem exponentSign_digits {rest : Str} {d : ℕ} (hd : isDigit d = true) (v : Str) :
    exponentSign (exponentSign rest ++ d :: v) = exponentSign rest := by
  have hdigit : ¬(d = 43 ∨ d = 45) := by
    simp only [isDigit, Bool.and_eq_true, decide_eq_true_eq] at hd
    omega
  cases rest with
  | nil => simp [exponentSign, hdigit]
  | cons c rest =>
      rw [exponentSign_cons]
      split_ifs with hc
      · simp [exponentSign_cons, hc]
      · simp [exponentSign_cons, hdigit]

/-- Without digits after the letter there is no exponent, and none in a shorter text. -/
theorem exponentPart_of_empty {e : ℕ} (he : e = 101 ∨ e = 69) {rest rest' : Str}
    (hrest : rest' <+: rest)
    (hdigits : (rest.drop (exponentSign rest).length).takeWhile isDigit = []) :
    exponentPart (e :: rest') = ([], e :: rest') := by
  have hempty : (rest'.drop (exponentSign rest').length).takeWhile isDigit = [] := by
    cases rest' with
    | nil => rfl
    | cons c l =>
        obtain ⟨l', rfl⟩ := hrest
        rw [List.cons_append, exponentSign_cons] at hdigits
        rw [exponentSign_cons]
        generalize (if c = 43 ∨ c = 45 then [c] else []).length = n at hdigits ⊢
        rw [← List.cons_append] at hdigits
        cases hdrop : (c :: l).drop n with
        | nil => rfl
        | cons x v =>
            have hn : n ≤ (c :: l).length := by
              by_contra hlt
              rw [List.drop_eq_nil_of_le (not_le.mp hlt).le] at hdrop
              cases hdrop
            rw [List.drop_append_of_le_length hn, hdrop, List.cons_append,
              List.takeWhile_cons] at hdigits
            rw [List.takeWhile_cons]
            split_ifs at hdigits ⊢
            rfl
  rw [exponentPart_cons he]
  simp only [hempty, List.isEmpty_nil, if_true]

theorem exponentPart_front {t e r : Str} (h : exponentPart t = (e, r)) :
    t = e ++ r ∧ ∀ r', r' <+: r → exponentPart (e ++ r') = (e, r') := by
  by_cases hletter : ∃ x rest, t = x :: rest ∧ (x = 101 ∨ x = 69)
  · obtain ⟨x, rest, rfl, hx⟩ := hletter
    rw [exponentPart_cons hx] at h
    cases hdigits : (rest.drop (exponentSign rest).length).takeWhile isDigit with
    | nil =>
        simp only [hdigits, List.isEmpty_nil, if_true] at h
        cases h
        refine ⟨rfl, fun r' hr' => ?_⟩
        cases r' with
        | nil => rfl
        | cons y rest' =>
            obtain ⟨rfl, hrest⟩ := List.cons_prefix_cons.mp hr'
            exact exponentPart_of_empty hx hrest hdigits
    | cons d ds =>
        have hd : isDigit d = true := List.mem_takeWhile_imp (hdigits ▸ List.mem_cons_self)
        have hdrop : rest.drop ((exponentSign rest).length + (d :: ds).length) =
            (rest.drop (exponentSign rest).length).dropWhile isDigit := by
          rw [← List.drop_drop, ← hdigits, drop_run]
        simp only [hdigits, List.isEmpty_cons, Bool.false_eq_true, if_false, hdrop] at h
        cases h
        refine ⟨?_, fun r' hr' => ?_⟩
        · rw [← hdigits, List.cons_append, List.cons_append, List.append_assoc,
            List.takeWhile_append_dropWhile, ← exponentSign_append]
        · obtain ⟨htake, hdropWhile⟩ := run_front isDigit _ hr'
          rw [hdigits] at htake hdropWhile
          have hsign : exponentSign (exponentSign rest ++ (d :: ds ++ r')) = exponentSign rest :=
            exponentSign_digits hd (ds ++ r')
          rw [List.cons_append, List.cons_append, List.append_assoc, exponentPart_cons hx, hsign,
            List.drop_left, htake]
          simp only [List.isEmpty_cons, Bool.false_eq_true, if_false, ← List.drop_drop,
            List.drop_left]
          rfl
  · have hother : ∀ x rest, t = x :: rest → ¬(x = 101 ∨ x = 69) :=
      fun x rest ht hx => hletter ⟨x, rest, ht, hx⟩
    rw [exponentPart_of_other hother] at h
    cases h
    refine ⟨rfl, fun r' hr' => exponentPart_of_other fun x l hl => ?_⟩
    obtain ⟨rest, hrest⟩ := hr'
    rw [show r' = x :: l from hl] at hrest
    exact hother x (l ++ rest) hrest.symm

section Numbers

variable {F : Type} [Builtins F]

/-- The value of a number from its parts. -/
def numberValue (sign digits fraction exponent : Str) : Except Exn (Value F) :=
  if fraction.isEmpty && exponent.isEmpty then
    if maxStrDigits < digits.length then .error .valueError
    else .ok (.int (if sign.isEmpty then (digitsValue digits : ℤ) else -(digitsValue digits : ℤ)))
  else .ok (.float (Builtins.ofLiteral (sign ++ digits ++ fraction ++ exponent)))

theorem scanNumber_of_parts {s s₁ s₂ s₃ sign digits fraction exponent : Str}
    (hsign : sign = if s.head? = some 45 then [45] else [])
    (hdigits : integerPart (s.drop sign.length) = some (digits, s₁))
    (hfraction : fractionPart s₁ = (fraction, s₂))
    (hexponent : exponentPart s₂ = (exponent, s₃)) :
    (scanNumber s : Except Exn (Value F × Str)) =
      (numberValue sign digits fraction exponent).map fun v => (v, s₃) := by
  unfold scanNumber numberValue
  simp only [← hsign, hdigits, hfraction, hexponent]
  split_ifs <;> rfl

theorem scanNumber_front : ReadsFront (scanNumber : Scanner F) := by
  intro t v r h
  obtain ⟨sign, hsign⟩ : ∃ sign : Str, sign = if t.head? = some 45 then [45] else [] := ⟨_, rfl⟩
  have ht : t = sign ++ t.drop sign.length := by
    rw [hsign]
    cases t with
    | nil => rfl
    | cons x t =>
        rw [List.head?_cons]
        split_ifs with hx
        · cases hx
          rfl
        · rfl
  cases hdigits : integerPart (t.drop sign.length) with
  | none =>
      unfold scanNumber at h
      simp only [← hsign, hdigits] at h
      cases h
  | some parts =>
      obtain ⟨digits, s₁⟩ := parts
      rcases hfraction : fractionPart s₁ with ⟨fraction, s₂⟩
      rcases hexponent : exponentPart s₂ with ⟨exponent, s₃⟩
      rw [scanNumber_of_parts hsign hdigits hfraction hexponent] at h
      obtain ⟨v', hvalue, hout⟩ := ok_map h
      cases hout
      obtain ⟨hne, hs, hdigits'⟩ := integerPart_front hdigits
      obtain ⟨rfl, hfraction'⟩ := fractionPart_front hfraction
      obtain ⟨rfl, hexponent'⟩ := exponentPart_front hexponent
      refine ⟨sign ++ digits ++ fraction ++ exponent, by simp [hne], ?_, fun r' hr' => ?_⟩
      · rw [ht, hs]
        simp only [List.append_assoc]
      · have hexp := hexponent' r' hr'
        have hrest₂ : exponent ++ r' <+: exponent ++ r := prefix_append exponent hr'
        have hfrac := hfraction' (exponent ++ r') hrest₂
        have hint := hdigits' (fraction ++ (exponent ++ r')) (prefix_append fraction hrest₂)
        have hhead : ∀ u, (sign ++ digits ++ u).head? = (sign ++ digits).head? :=
          fun u => List.head?_append_of_ne_nil _ (by simp [hne])
        have hsign' : sign = if (sign ++ digits ++ (fraction ++ (exponent ++ r'))).head? =
            some 45 then [45] else [] := by
          rw [hhead, ← hhead (fraction ++ (exponent ++ r)), List.append_assoc, ← hs, ← ht]
          exact hsign
        have hscan := scanNumber_of_parts (F := F) hsign'
          (by rw [List.append_assoc, List.drop_left, hint]) hfrac hexp
        rw [hvalue, Except.map] at hscan
        simpa only [List.append_assoc] using hscan

end Numbers

/-! ## Containers -/

section Containers

variable {F : Type} {scan : Scanner F}

theorem scanItems_succ_iff {fuel : ℕ} {t r : Str} {vs : List (Value F)} :
    scanItems scan (fuel + 1) t = .ok (vs, r) ↔
      ∃ v s, scan t = .ok (v, s) ∧
        ((skipWhitespace s = 93 :: r ∧ vs = [v]) ∨
          ∃ s' vs', skipWhitespace s = 44 :: s' ∧
            scanItems scan fuel (skipWhitespace s') = .ok (vs', r) ∧ vs = v :: vs') := by
  rw [scanItems]
  constructor
  · intro h
    obtain ⟨⟨v, s⟩, hv, h⟩ := ok_bind h
    refine ⟨v, s, hv, ?_⟩
    simp only at h
    split at h
    · rename_i s' hs
      cases h
      exact Or.inl ⟨hs, rfl⟩
    · rename_i s' hs
      obtain ⟨⟨vs', s₂⟩, hvs, h⟩ := ok_bind h
      cases h
      exact Or.inr ⟨s', vs', hs, hvs, rfl⟩
    · cases h
  · rintro ⟨v, s, hv, ⟨hs, rfl⟩ | ⟨s', vs', hs, hvs, rfl⟩⟩
    · rw [hv]
      simp only [Except.bind, bind, hs]
      rfl
    · rw [hv]
      simp only [Except.bind, bind, hs, hvs]
      rfl

/-- The number of characters is fuel enough. -/
theorem scanItems_front (hscan : ReadsFront scan) {fuel : ℕ} {t r : Str} {vs : List (Value F)}
    (h : scanItems scan fuel t = .ok (vs, r)) :
    ∃ c, c ≠ [] ∧ t = c ++ r ∧ ∀ r', r' <+: r → ∀ fuel', c.length ≤ fuel' →
      scanItems scan fuel' (c ++ r') = .ok (vs, r') := by
  induction fuel generalizing t vs with
  | zero => cases h
  | succ fuel ih =>
      obtain ⟨v, s, hv, hrest⟩ := scanItems_succ_iff.mp h
      obtain ⟨c, hne, rfl, hc⟩ := hscan t v s hv
      have hpos : 0 < c.length := List.length_pos_iff.mpr hne
      rcases hrest with ⟨hs, rfl⟩ | ⟨s', vs', hs, hvs, rfl⟩
      · obtain ⟨ws, -, rfl, hws⟩ := skipWhitespace_cons_front hs
        refine ⟨c ++ (ws ++ [93]), by simp, by simp, fun r' hr' fuel' hfuel => ?_⟩
        obtain ⟨n, rfl⟩ : ∃ n, fuel' = n + 1 := ⟨fuel' - 1, by simp at hfuel; omega⟩
        refine scanItems_succ_iff.mpr ⟨v, ws ++ 93 :: r', ?_, Or.inl ⟨hws r', rfl⟩⟩
        have hpre : ws ++ 93 :: r' <+: ws ++ 93 :: r := prefix_append_cons ws 93 hr'
        simpa using hc _ hpre
      · obtain ⟨ws, -, rfl, hws⟩ := skipWhitespace_cons_front hs
        obtain ⟨ws', -, hs', hws'⟩ := skipWhitespace_front s'
        obtain ⟨c', -, hc', hitems⟩ := ih hvs
        rw [hc'] at hs' hws'
        subst hs'
        refine ⟨c ++ (ws ++ 44 :: (ws' ++ c')), by simp, by simp, fun r' hr' fuel' hfuel => ?_⟩
        obtain ⟨n, rfl⟩ : ∃ n, fuel' = n + 1 := ⟨fuel' - 1, by simp at hfuel; omega⟩
        have hpre' : c' ++ r' <+: c' ++ r := prefix_append c' hr'
        have hpre : ws ++ 44 :: (ws' ++ (c' ++ r')) <+: ws ++ 44 :: (ws' ++ (c' ++ r)) :=
          prefix_append_cons ws 44 (prefix_append ws' hpre')
        refine scanItems_succ_iff.mpr ⟨v, ws ++ 44 :: (ws' ++ (c' ++ r')), ?_,
          Or.inr ⟨ws' ++ (c' ++ r'), vs', hws _, ?_, rfl⟩⟩
        · simpa using hc _ hpre
        · rw [hws' _ hpre']
          exact hitems r' hr' n (by simp at hfuel; omega)

theorem scanMembers_succ_iff {fuel : ℕ} {entries es : List (Str × Value F)} {t r : Str} :
    scanMembers scan (fuel + 1) entries t = .ok (es, r) ↔
      ∃ t' key s s₁ v s₂, t = 34 :: t' ∧ scanString .plain t' = .ok (key, s) ∧
        skipWhitespace s = 58 :: s₁ ∧ scan (skipWhitespace s₁) = .ok (v, s₂) ∧
        ((skipWhitespace s₂ = 125 :: r ∧ es = setItem entries key v) ∨
          ∃ s₃, skipWhitespace s₂ = 44 :: s₃ ∧
            scanMembers scan fuel (setItem entries key v) (skipWhitespace s₃) = .ok (es, r)) := by
  conv_lhs => unfold scanMembers
  constructor
  · intro h
    split at h
    · rename_i t'
      obtain ⟨⟨key, s⟩, hkey, h⟩ := ok_bind h
      simp only at h
      split at h
      · rename_i s₁ hs
        obtain ⟨⟨v, s₂⟩, hv, h⟩ := ok_bind h
        refine ⟨t', key, s, s₁, v, s₂, rfl, hkey, hs, hv, ?_⟩
        simp only at h
        split at h
        · rename_i s₃ hs₂
          cases h
          exact Or.inl ⟨hs₂, rfl⟩
        · rename_i s₃ hs₂
          exact Or.inr ⟨s₃, hs₂, h⟩
        · cases h
      · cases h
    · cases h
  · rintro ⟨t', key, s, s₁, v, s₂, rfl, hkey, hs, hv, ⟨hs₂, rfl⟩ | ⟨s₃, hs₂, h⟩⟩
    · simp only [hkey, Except.bind, bind, hs, hv, hs₂]
      rfl
    · simp only [hkey, Except.bind, bind, hs, hv, hs₂, h]

/-- The last character is the brace that closes the object. -/
theorem scanMembers_front (hscan : ReadsFront scan) {fuel : ℕ} {entries es : List (Str × Value F)}
    {t r : Str} (h : scanMembers scan fuel entries t = .ok (es, r)) :
    ∃ c, t = c ++ 125 :: r ∧ ∀ r', r' <+: r → ∀ fuel', c.length ≤ fuel' →
      scanMembers scan fuel' entries (c ++ 125 :: r') = .ok (es, r') := by
  induction fuel generalizing t entries with
  | zero => cases h
  | succ fuel ih =>
      obtain ⟨t', key, s, s₁, v, s₂, rfl, hkey, hs, hv, hrest⟩ := scanMembers_succ_iff.mp h
      obtain ⟨cKey, -, rfl, hcKey⟩ := scanString_front hkey
      obtain ⟨ws, -, rfl, hws⟩ := skipWhitespace_cons_front hs
      obtain ⟨ws₁, -, hs₁, hws₁⟩ := skipWhitespace_front s₁
      obtain ⟨cVal, -, hsVal, hcVal⟩ := hscan _ v s₂ hv
      rw [hsVal] at hs₁ hws₁
      subst hs₁
      -- The part up to the value is read in the same way before any beginning of the rest.
      have hmember : ∀ u, u <+: s₂ →
          scanString .plain (cKey ++ (ws ++ 58 :: (ws₁ ++ (cVal ++ u)))) =
              .ok (key, ws ++ 58 :: (ws₁ ++ (cVal ++ u))) ∧
            skipWhitespace (ws ++ 58 :: (ws₁ ++ (cVal ++ u))) = 58 :: (ws₁ ++ (cVal ++ u)) ∧
            scan (skipWhitespace (ws₁ ++ (cVal ++ u))) = .ok (v, u) := by
        intro u hu
        refine ⟨hcKey _, hws _, ?_⟩
        rw [hws₁ _ (prefix_append cVal hu)]
        exact hcVal u hu
      rcases hrest with ⟨hs₂, rfl⟩ | ⟨s₃, hs₂, hmore⟩
      · obtain ⟨ws₂, -, rfl, hws₂⟩ := skipWhitespace_cons_front hs₂
        refine ⟨34 :: (cKey ++ (ws ++ 58 :: (ws₁ ++ (cVal ++ ws₂)))), by simp,
          fun r' hr' fuel' hfuel => ?_⟩
        obtain ⟨n, rfl⟩ : ∃ n, fuel' = n + 1 := ⟨fuel' - 1, by simp at hfuel; omega⟩
        have hpre : ws₂ ++ 125 :: r' <+: ws₂ ++ 125 :: r := prefix_append_cons ws₂ 125 hr'
        obtain ⟨hstring, hcolon, hvalue⟩ := hmember _ hpre
        exact scanMembers_succ_iff.mpr ⟨_, key, _, _, v, _, by simp, hstring, hcolon, hvalue,
          Or.inl ⟨hws₂ r', rfl⟩⟩
      · obtain ⟨ws₂, -, rfl, hws₂⟩ := skipWhitespace_cons_front hs₂
        obtain ⟨ws₃, -, hs₃, hws₃⟩ := skipWhitespace_front s₃
        obtain ⟨c, hc, hmembers⟩ := ih hmore
        rw [hc] at hs₃ hws₃
        subst hs₃
        refine ⟨34 :: (cKey ++ (ws ++ 58 :: (ws₁ ++ (cVal ++ (ws₂ ++ 44 :: (ws₃ ++ c)))))), by simp,
          fun r' hr' fuel' hfuel => ?_⟩
        obtain ⟨n, rfl⟩ : ∃ n, fuel' = n + 1 := ⟨fuel' - 1, by simp at hfuel; omega⟩
        have hpre' : c ++ 125 :: r' <+: c ++ 125 :: r := prefix_append_cons c 125 hr'
        have hpre : ws₂ ++ 44 :: (ws₃ ++ (c ++ 125 :: r')) <+:
            ws₂ ++ 44 :: (ws₃ ++ (c ++ 125 :: r)) :=
          prefix_append_cons ws₂ 44 (prefix_append ws₃ hpre')
        obtain ⟨hstring, hcolon, hvalue⟩ := hmember _ hpre
        refine scanMembers_succ_iff.mpr ⟨_, key, _, _, v, _, by simp, hstring, hcolon, hvalue,
          Or.inr ⟨_, hws₂ _, ?_⟩⟩
        rw [hws₃ _ hpre']
        exact hmembers r' hr' n (by simp at hfuel; omega)

theorem scanObject_of_members {t : Str} (h : ∀ r, skipWhitespace t ≠ 125 :: r) :
    scanObject scan t = (scanMembers scan (skipWhitespace t).length [] (skipWhitespace t)).map
      fun r => (.dict r.1, r.2) := by
  unfold scanObject
  split
  · rename_i r hr
    exact absurd hr (h r)
  · rfl

theorem scanObject_front (hscan : ReadsFront scan) {t r : Str} {v : Value F}
    (h : scanObject scan t = .ok (v, r)) :
    ∃ c, t = c ++ 125 :: r ∧ ∀ r', r' <+: r → scanObject scan (c ++ 125 :: r') = .ok (v, r') := by
  by_cases hclose : ∃ r₀, skipWhitespace t = 125 :: r₀
  · obtain ⟨r₀, hr₀⟩ := hclose
    simp only [scanObject, hr₀] at h
    cases h
    obtain ⟨ws, -, rfl, hws⟩ := skipWhitespace_cons_front hr₀
    exact ⟨ws, rfl, fun r' _ => by simp only [scanObject, hws r']⟩
  · have hopen : ∀ r₀, skipWhitespace t ≠ 125 :: r₀ := fun r₀ hr₀ => hclose ⟨r₀, hr₀⟩
    rw [scanObject_of_members hopen] at h
    obtain ⟨⟨es, r₁⟩, hm, hout⟩ := ok_map h
    cases hout
    obtain ⟨ws, -, ht, hws⟩ := skipWhitespace_front t
    obtain ⟨c, hc, hmembers⟩ := scanMembers_front hscan hm
    rw [hc] at ht hws hopen
    subst ht
    refine ⟨ws ++ c, by simp, fun r' hr' => ?_⟩
    have hskip := hws (c ++ 125 :: r') (prefix_append_cons c 125 hr')
    have hopen' : ∀ r₀, skipWhitespace (ws ++ (c ++ 125 :: r')) ≠ 125 :: r₀ := by
      intro r₀ hr₀
      rw [hskip] at hr₀
      cases c with
      | nil => exact hopen _ rfl
      | cons x c =>
          cases hr₀
          exact hopen _ rfl
    rw [List.append_assoc, scanObject_of_members hopen', hskip,
      hmembers r' hr' _ (by simp), Except.map]

theorem scanArray_of_items {t : Str} (h : ∀ r, skipWhitespace t ≠ 93 :: r) :
    scanArray scan t = (scanItems scan (skipWhitespace t).length (skipWhitespace t)).map
      fun r => (.list r.1, r.2) := by
  unfold scanArray
  split
  · rename_i r hr
    exact absurd hr (h r)
  · rfl

theorem scanArray_front (hscan : ReadsFront scan) : ReadsFront (scanArray scan) := by
  intro t v r h
  by_cases hclose : ∃ r₀, skipWhitespace t = 93 :: r₀
  · obtain ⟨r₀, hr₀⟩ := hclose
    simp only [scanArray, hr₀] at h
    cases h
    obtain ⟨ws, -, rfl, hws⟩ := skipWhitespace_cons_front hr₀
    refine ⟨ws ++ [93], by simp, by simp, fun r' _ => ?_⟩
    rw [List.append_assoc, List.singleton_append]
    simp only [scanArray, hws r']
  · have hopen : ∀ r₀, skipWhitespace t ≠ 93 :: r₀ := fun r₀ hr₀ => hclose ⟨r₀, hr₀⟩
    rw [scanArray_of_items hopen] at h
    obtain ⟨⟨vs, r₁⟩, hi, hout⟩ := ok_map h
    cases hout
    obtain ⟨ws, -, ht, hws⟩ := skipWhitespace_front t
    obtain ⟨c, hne, hc, hitems⟩ := scanItems_front hscan hi
    rw [hc] at ht hws hopen
    subst ht
    refine ⟨ws ++ c, by simp [hne], by simp, fun r' hr' => ?_⟩
    have hskip := hws (c ++ r') (prefix_append c hr')
    have hopen' : ∀ r₀, skipWhitespace (ws ++ (c ++ r')) ≠ 93 :: r₀ := by
      intro r₀ hr₀
      rw [hskip] at hr₀
      cases c with
      | nil => exact hne rfl
      | cons x c =>
          cases hr₀
          exact hopen _ rfl
    rw [List.append_assoc, scanArray_of_items hopen', hskip, hitems r' hr' _ (by simp),
      Except.map]

end Containers

/-! ## Values -/

section Values

variable {F : Type} [Builtins F]

/-- The characters that decide what is read: a quote, a brace or a bracket. -/
def IsOpening (x : ℕ) : Prop := x = 34 ∨ x = 123 ∨ x = 91

theorem scanWith_of_other (object array : Scanner F) {x : ℕ} (hx : ¬IsOpening x) (s : Str) :
    scanWith object array (x :: s) =
      ((constants.find? fun c => c.1.isPrefixOf (x :: s)).elim (scanNumber (x :: s))
        fun c => .ok (c.2, (x :: s).drop c.1.length)) := by
  unfold scanWith
  split
  · rename_i h
    cases h
  · rename_i h
    cases h
    exact absurd (Or.inl rfl) hx
  · rename_i h
    cases h
    exact absurd (Or.inr (Or.inl rfl)) hx
  · rename_i h
    cases h
    exact absurd (Or.inr (Or.inr rfl)) hx
  · cases constants.find? fun c : Str × Value F => c.1.isPrefixOf (x :: s) <;> rfl

theorem find?_constants_of_prefix {s u : Str} {c : Str × Value F} (hu : u <+: s)
    (hc : c.1 <+: u) (h : (constants.find? fun c => c.1.isPrefixOf s) = some c) :
    (constants.find? fun c => c.1.isPrefixOf u) = some c := by
  obtain ⟨-, before, after, hsplit, hbefore⟩ := List.find?_eq_some_iff_append.mp h
  refine List.find?_eq_some_iff_append.mpr
    ⟨List.isPrefixOf_iff_prefix.mpr hc, before, after, hsplit, fun a ha => ?_⟩
  have hno := hbefore a ha
  rw [Bool.not_eq_true'] at hno ⊢
  rw [Bool.eq_false_iff] at hno ⊢
  exact fun hyes => hno (List.isPrefixOf_iff_prefix.mpr
    ((List.isPrefixOf_iff_prefix.mp hyes).trans hu))

theorem find?_constants_none {s u : Str} (hu : u <+: s)
    (h : ((constants (F := F)).find? fun c => c.1.isPrefixOf s) = none) :
    ((constants (F := F)).find? fun c => c.1.isPrefixOf u) = none := by
  rw [List.find?_eq_none] at h ⊢
  exact fun a ha hyes => h a ha (List.isPrefixOf_iff_prefix.mpr
    ((List.isPrefixOf_iff_prefix.mp hyes).trans hu))

theorem constants_ne_nil {c : Str × Value F} (hc : c ∈ constants) : c.1 ≠ [] := by
  simp only [constants, List.mem_cons, List.not_mem_nil, or_false] at hc
  rcases hc with rfl | rfl | rfl | rfl | rfl | rfl <;> simp [Str.ofString]

theorem scanWith_front {object array : Scanner F} (hobject : ReadsFront object)
    (harray : ReadsFront array) : ReadsFront (scanWith object array) := by
  intro t v r h
  cases t with
  | nil => cases h
  | cons x s =>
      by_cases hx : IsOpening x
      · rcases hx with rfl | rfl | rfl
        · obtain ⟨⟨out, r₁⟩, hs, hout⟩ := ok_map h
          cases hout
          obtain ⟨c, -, rfl, hc⟩ := scanString_front hs
          refine ⟨34 :: c, List.cons_ne_nil _ _, rfl, fun r' _ => ?_⟩
          simp only [List.cons_append, scanWith, hc r', Except.map]
        · obtain ⟨c, -, rfl, hc⟩ := hobject s v r h
          exact ⟨123 :: c, List.cons_ne_nil _ _, rfl, hc⟩
        · obtain ⟨c, -, rfl, hc⟩ := harray s v r h
          exact ⟨91 :: c, List.cons_ne_nil _ _, rfl, hc⟩
      · rw [scanWith_of_other _ _ hx] at h
        cases hfind : (constants (F := F)).find? fun c => c.1.isPrefixOf (x :: s) with
        | some const =>
            rw [hfind] at h
            cases h
            have hconst : const.1.isPrefixOf (x :: s) = true := by
              have hsome := List.find?_some hfind
              exact hsome
            obtain ⟨r₁, hr₁⟩ := List.isPrefixOf_iff_prefix.mp hconst
            have hne := constants_ne_nil (List.mem_of_find?_eq_some hfind)
            rw [← hr₁, List.drop_left]
            refine ⟨const.1, hne, rfl, fun r' hr' => ?_⟩
            obtain ⟨y, l, hy⟩ := List.exists_cons_of_ne_nil hne
            have hhead : y = x := by
              rw [hy] at hr₁
              exact (List.cons.inj hr₁).1
            have hpre : const.1 ++ r' <+: x :: s :=
              hr₁ ▸ prefix_append const.1 hr'
            have hfind' := find?_constants_of_prefix hpre (List.prefix_append _ _) hfind
            rw [hy, hhead, List.cons_append] at hfind' ⊢
            rw [scanWith_of_other _ _ hx, hfind', Option.elim_some, ← List.cons_append, ← hhead,
              ← hy, List.drop_left]
        | none =>
            rw [hfind] at h
            obtain ⟨c, hne, hc, hnumber⟩ := scanNumber_front _ v r h
            refine ⟨c, hne, hc, fun r' hr' => ?_⟩
            obtain ⟨y, l, rfl⟩ := List.exists_cons_of_ne_nil hne
            obtain ⟨rfl, hs⟩ := List.cons.inj hc
            have hpre : (x :: l) ++ r' <+: x :: s := hc ▸ prefix_append (x :: l) hr'
            have hscan := hnumber r' hr'
            have hfind' := find?_constants_none hpre hfind
            rw [List.cons_append] at hfind' hscan ⊢
            rw [scanWith_of_other _ _ hx, hfind']
            exact hscan

theorem scanOnce_front (limit : ℕ) : ReadsFront (scanOnce limit : Scanner F) := by
  induction limit with
  | zero => exact scanWith_front (fun _ _ _ h => by cases h) fun _ _ _ h => by cases h
  | succ limit ih =>
      refine scanWith_front (fun t v r h => ?_) (scanArray_front ih)
      obtain ⟨c, rfl, hc⟩ := scanObject_front ih h
      refine ⟨c ++ [125], by simp, by simp, fun r' hr' => ?_⟩
      rw [List.append_assoc, List.singleton_append]
      exact hc r' hr'

/-! ## Texts -/

theorem skipWhitespace_eq_nil {t : Str} (h : skipWhitespace t = []) :
    ∀ x ∈ t, isWhitespace x = true :=
  fun x hx => List.dropWhile_eq_nil_iff.mp h x hx

theorem numberValue_ne_dict {sign digits fraction exponent : Str} {es : List (Str × Value F)} :
    numberValue sign digits fraction exponent ≠ .ok (.dict es) := by
  unfold numberValue
  split_ifs <;> exact fun h => by cases h

theorem scanNumber_ne_dict {t r : Str} {es : List (Str × Value F)} :
    scanNumber t ≠ .ok (.dict es, r) := by
  intro h
  obtain ⟨sign, hsign⟩ : ∃ sign : Str, sign = if t.head? = some 45 then [45] else [] := ⟨_, rfl⟩
  cases hdigits : integerPart (t.drop sign.length) with
  | none =>
      unfold scanNumber at h
      simp only [← hsign, hdigits] at h
      cases h
  | some parts =>
      rw [scanNumber_of_parts hsign hdigits rfl rfl] at h
      obtain ⟨v, hvalue, hout⟩ := ok_map h
      cases hout
      exact numberValue_ne_dict hvalue

omit [Builtins F] in
theorem scanArray_ne_dict {scan : Scanner F} {t r : Str} {es : List (Str × Value F)} :
    scanArray scan t ≠ .ok (.dict es, r) := by
  intro h
  unfold scanArray at h
  split at h
  · cases h
  · obtain ⟨items, -, hout⟩ := ok_map h
    cases hout

/-- Only a text that begins with a brace is read as a dictionary. -/
theorem scanWith_dict {object array : Scanner F} {t r : Str} {es : List (Str × Value F)}
    (harray : ∀ s, array s ≠ .ok (.dict es, r))
    (h : scanWith object array t = .ok (.dict es, r)) :
    ∃ s, t = 123 :: s ∧ object s = .ok (.dict es, r) := by
  cases t with
  | nil => cases h
  | cons x s =>
      by_cases hx : IsOpening x
      · rcases hx with rfl | rfl | rfl
        · obtain ⟨out, -, hout⟩ := ok_map h
          cases hout
        · exact ⟨s, rfl, h⟩
        · exact absurd h (harray s)
      · rw [scanWith_of_other _ _ hx] at h
        cases hfind : (constants (F := F)).find? fun c => c.1.isPrefixOf (x :: s) with
        | some const =>
            have hmem := List.mem_of_find?_eq_some hfind
            simp only [constants, List.mem_cons, List.not_mem_nil, or_false] at hmem
            rw [hfind] at h
            rcases hmem with rfl | rfl | rfl | rfl | rfl | rfl <;> cases h
        | none =>
            rw [hfind] at h
            exact absurd h scanNumber_ne_dict

/-- A text decoded as a dictionary is one from a brace to a brace, with white space around it. -/
theorem loads_dict {limit : ℕ} {J : Str} {es : List (Str × Value F)}
    (h : loads limit J = .ok (.dict es)) :
    ∃ ws mid ws', J = ws ++ (123 :: mid ++ [125]) ++ ws' ∧
      (∀ x ∈ ws, isWhitespace x = true) ∧ (∀ x ∈ ws', isWhitespace x = true) ∧
      loads limit (123 :: mid ++ [125]) = .ok (.dict es) := by
  unfold loads at h
  split_ifs at h
  obtain ⟨⟨v, s⟩, hscan, h⟩ := ok_bind h
  simp only at h
  split_ifs at h with hrest
  cases h
  obtain ⟨ws, hws, hJ, -⟩ := skipWhitespace_front J
  cases limit with
  | zero =>
      obtain ⟨-, -, hobject⟩ := scanWith_dict (fun _ h => by cases h) hscan
      cases hobject
  | succ limit =>
      obtain ⟨s', hs', hobject⟩ := scanWith_dict (fun _ => scanArray_ne_dict) hscan
      obtain ⟨mid, rfl, hmid⟩ := scanObject_front (scanOnce_front limit) hobject
      refine ⟨ws, mid, s, by rw [hJ, hs']; simp, hws, skipWhitespace_eq_nil hrest, ?_⟩
      have hend := hmid [] List.nil_prefix
      have hstart : skipWhitespace (123 :: (mid ++ [125])) = 123 :: (mid ++ [125]) := rfl
      have hvalue : scanOnce (limit + 1) (123 :: (mid ++ [125])) =
          (.ok (.dict es, []) : Except Exn (Value F × Str)) := hend
      rw [List.cons_append, loads, if_neg (by simp), hstart, hvalue]
      rfl

end Values

end Python.Json
