import WorkflowLint.Json.Token
import WorkflowLint.Json.Write

/-!
# `WorkflowLint.Proofs.Json.Numeral`: numbers that read back

A number reads back when its decimal text is one token and the token is the
number itself, whatever follows that does not go on with the numeral:
`Number.ReadsBack`. Two families of numbers do, and they are the ones that reports
and configurations are written with:

* `readsBack_ofNat`: counts below `2 ^ 64`. They are written as digits without a
  leading zero and fit into the significand.
* `readsBack_score`: the scores, multiples of five from zero to a hundred as
  floating-point numbers. They are written with one zero behind the point, so
  reading them is a division by ten, which is exact for each of them.

The general facts are about the scanner. `scan_whole` and `scan_places` say which
numeral it finds at the front of a text.
-/

set_option autoImplicit false

namespace WorkflowLint.Json

/-- Whether a character can stand inside a numeral, behind its first digit. -/
def goesOn (c : Char) : Bool := c.isDigit || c = '.' || c = 'e' || c = 'E'

/-- What stands behind a numeral does not go on with it. -/
def EndsNumeral (rest : List Char) : Prop := ∀ c ∈ rest.head?, goesOn c = false

/-- The end of the text ends a numeral, since there is nothing more to go on with. -/
theorem endsNumeral_nil : EndsNumeral [] := by
  intro c hc
  simp at hc

/-- A character that does not go on with a numeral ends it. -/
theorem endsNumeral_cons {c : Char} (hc : goesOn c = false) (rest : List Char) :
    EndsNumeral (c :: rest) := by
  intro d hd
  simp only [List.head?_cons, Option.mem_def, Option.some.injEq] at hd
  subst hd
  exact hc

/-! ### The scanner -/

/-- The digits at the front of a text are the longest run of digits, so a run with something else
behind it is found as it is. -/
theorem digits_append {ds rest : List Char} (hd : ∀ c ∈ ds, c.isDigit = true)
    (hr : ∀ c ∈ rest.head?, c.isDigit = false) : digits (ds ++ rest) = (ds, rest) := by
  rw [digits, List.takeWhile_append_of_pos hd, List.dropWhile_append_of_pos hd]
  cases rest with
  | nil => simp
  | cons c rest =>
      have hc : c.isDigit = false := hr c (by simp)
      simp [hc]

/-- A run of at least one digit is found, and the rest of the text is handed on. -/
theorem someDigits_append {ds rest : List Char} (hne : ds ≠ [])
    (hd : ∀ c ∈ ds, c.isDigit = true) (hr : ∀ c ∈ rest.head?, c.isDigit = false) :
    someDigits (ds ++ rest) = .ok (ds, rest) := by
  rw [someDigits, digits_append hd hr]
  cases ds with
  | nil => exact absurd rfl hne
  | cons _ _ => rfl

/-- The digits of a whole part, which has no leading zero unless it is one. -/
theorem wholeDigits_append {ds rest : List Char} (hne : ds ≠ [])
    (hd : ∀ c ∈ ds, c.isDigit = true) (hz : ds.head? = some '0' → ds.length = 1)
    (hr : ∀ c ∈ rest.head?, c.isDigit = false) : wholeDigits (ds ++ rest) = .ok (ds, rest) := by
  rw [wholeDigits, someDigits_append hne hd hr]
  show (if ds.head? = some '0' ∧ ds.length ≠ 1 then _ else _) = _
  rw [if_neg]
  rintro ⟨hzero, hlen⟩
  exact hlen (hz hzero)

/-- What ends a numeral is no digit, so a run of digits stops in front of it. -/
theorem EndsNumeral.isDigit {rest : List Char} (hr : EndsNumeral rest) :
    ∀ c ∈ rest.head?, c.isDigit = false := by
  intro c hc
  have h := hr c hc
  simp only [goesOn, Bool.or_eq_false_iff] at h
  exact h.1.1.1

/-- What ends a numeral starts no power of ten: the scanner finds none and hands on the text as it
is. -/
theorem EndsNumeral.powerDigits {rest : List Char} (hr : EndsNumeral rest) :
    powerDigits rest = .ok (none, rest) := by
  cases rest with
  | nil => rfl
  | cons c rest =>
      have h := hr c (by simp)
      simp only [goesOn, Bool.or_eq_false_iff, decide_eq_false_iff_not] at h
      -- Neither of the two letters of a power of ten can stand here.
      rw [Json.powerDigits, if_neg]
      rintro (he | he)
      · exact h.1.2 he
      · exact h.2 he

/-- What ends a numeral starts no places, since it is no point. -/
theorem EndsNumeral.placeDigits {rest : List Char} (hr : EndsNumeral rest) :
    placeDigits rest = .ok (none, rest) := by
  cases rest with
  | nil => rfl
  | cons c rest =>
      have h := hr c (by simp)
      simp only [goesOn, Bool.or_eq_false_iff, decide_eq_false_iff_not] at h
      have hpoint : c ≠ '.' := h.1.1.2
      rw [Json.placeDigits]
      simp [hpoint]

/-- A text that starts with a digit has no sign, so the scanner takes the branch for numbers
without one. -/
theorem ne_minus_cons {ds rest : List Char} (hne : ds ≠ []) (hd : ∀ c ∈ ds, c.isDigit = true)
    (tail : List Char) : ds ++ rest ≠ '-' :: tail := by
  obtain ⟨d, ds, rfl⟩ := List.exists_cons_of_ne_nil hne
  intro h
  obtain ⟨rfl, -⟩ := List.cons.inj h
  exact absurd (hd '-' (by simp)) (by decide)

/-- The numeral of digits alone is found as it was written, without places and without a power of
ten. -/
theorem scan_whole {ds rest : List Char} (hne : ds ≠ []) (hd : ∀ c ∈ ds, c.isDigit = true)
    (hz : ds.head? = some '0' → ds.length = 1) (hr : EndsNumeral rest) :
    Numeral.scan (ds ++ rest) = .ok (⟨false, ds, none, none⟩, rest) := by
  rw [Numeral.scan, wholeDigits_append hne hd hz hr.isDigit]
  · simp [hr.placeDigits, hr.powerDigits, bind, Except.bind]
  · exact ne_minus_cons hne hd

/-- The numeral of digits with places behind a point is found in two parts, again without a power
of ten. -/
theorem scan_places {ds ps rest : List Char} (hne : ds ≠ []) (hd : ∀ c ∈ ds, c.isDigit = true)
    (hz : ds.head? = some '0' → ds.length = 1) (hps : ps ≠ [])
    (hp : ∀ c ∈ ps, c.isDigit = true) (hr : EndsNumeral rest) :
    Numeral.scan (ds ++ '.' :: (ps ++ rest)) = .ok (⟨false, ds, some ps, none⟩, rest) := by
  have hpoint : ∀ c ∈ ('.' :: (ps ++ rest)).head?, c.isDigit = false := by
    simp
  rw [Numeral.scan, wholeDigits_append hne hd hz hpoint]
  · simp [placeDigits, someDigits_append hps hp hr.isDigit, hr.powerDigits, bind, Except.bind]
  · exact ne_minus_cons hne hd

/-! ### Numbers that read back -/

/-- A number reads back: its text is one token, which is the number. -/
def Number.ReadsBack (n : Number) : Prop :=
  ∃ c cs, n.text = c :: cs ∧ isSpace c = false ∧
    ∀ rest, EndsNumeral rest → tokenAt c (cs ++ rest) = (.number (.ok n), cs.length)

/-- A digit is no white space, so the scanner does not pass over the start of a number. -/
theorem isSpace_of_isDigit {c : Char} (hc : c.isDigit = true) : isSpace c = false := by
  rw [isSpace]
  simp only [Bool.or_eq_false_iff, decide_eq_false_iff_not]
  refine ⟨⟨⟨?_, ?_⟩, ?_⟩, ?_⟩ <;> rintro rfl <;> exact absurd hc (by decide)

/-- A digit starts the token of a number, as no other kind of token starts with one. -/
theorem tokenAt_of_isDigit {c : Char} (hc : c.isDigit = true) (rest : List Char) :
    tokenAt c rest = numberToken (c :: rest) := by
  rw [tokenAt]
  · simp [hc]
  -- The other rows of the match are about characters that are no digits.
  all_goals
    rintro rfl
    exact absurd hc (by decide)

/-- A number whose text is digits, with or without more behind them, reads back if
the scanner finds it. -/
theorem readsBack_of_digits {n : Number} {ds tail : List Char} (htext : n.text = ds ++ tail)
    (hne : ds ≠ []) (hd : ∀ c ∈ ds, c.isDigit = true)
    (hscan : ∀ rest, EndsNumeral rest →
      ∃ numeral, Numeral.scan (n.text ++ rest) = .ok (numeral, rest) ∧ numeral.value = .ok n) :
    n.ReadsBack := by
  obtain ⟨d, ds, rfl⟩ := List.exists_cons_of_ne_nil hne
  have hdigit := hd d (by simp)
  rw [List.cons_append] at htext
  refine ⟨d, ds ++ tail, htext, isSpace_of_isDigit hdigit, ?_⟩
  intro rest hr
  obtain ⟨numeral, hfound, hvalue⟩ := hscan rest hr
  rw [htext, List.cons_append] at hfound
  rw [tokenAt_of_isDigit hdigit, numberToken, hfound]
  simp only [hvalue, List.length_cons, List.length_append, Prod.mk.injEq, true_and]
  omega

/-- Only zero has a zero as its first digit. The induction takes away the last digit. -/
theorem eq_zero_of_head?_toDigits (n : Nat) (h : (Nat.toDigits 10 n).head? = some '0') :
    n = 0 := by
  induction n using Nat.strongRecOn with
  | ind n ih =>
      -- A number below ten is its own digit, and a longer one starts like its tenth.
      by_cases hn : n < 10
      · rw [Nat.toDigits_of_lt_base hn] at h
        have hdigit : ∀ m < 10, Nat.digitChar m = '0' → m = 0 := by decide
        exact hdigit n hn (by simpa using h)
      · -- The first digit is that of `n / 10`, which is not zero.
        obtain ⟨d, ds, hds⟩ := List.exists_cons_of_ne_nil
          (Nat.toDigits_ne_nil : Nat.toDigits 10 (n / 10) ≠ [])
        rw [Nat.toDigits_of_base_le (by decide) (Nat.le_of_not_lt hn), hds] at h
        have hzero := ih (n / 10) (by omega) (by rw [hds]; exact h)
        omega

/-- The digits of a number have no leading zero, unless the number is zero and this is its only
digit. -/
theorem length_toDigits_of_head? (n : Nat) (h : (Nat.toDigits 10 n).head? = some '0') :
    (Nat.toDigits 10 n).length = 1 := by
  rw [eq_zero_of_head?_toDigits n h]
  rfl

/-- The characters of a number are digits, so the scanner reads all of them in one run. -/
theorem isDigit_toDigits (n : Nat) : ∀ c ∈ Nat.toDigits 10 n, c.isDigit = true :=
  fun _ hc => Nat.isDigit_of_mem_toDigits (by decide) (by decide) hc

/-- The digits of a number stand for it: reading them gives the number back. -/
theorem ofDigits_toDigits (n : Nat) : Decimal.ofDigits (Nat.toDigits 10 n) = n := by
  rw [Decimal.ofDigits, ← Nat.ofDigitChars_eq_foldl, Nat.ofDigitChars_ten_toDigits]

/-- Counts that fit into 64 bits read back: they are written with digits alone, which are read as
a whole number again. -/
theorem readsBack_ofNat {n : Nat} (hn : n < significandBound) :
    (Number.integer n).ReadsBack := by
  have htext : (Number.integer n).text = Nat.toDigits 10 n := by simp [Number.text]
  refine readsBack_of_digits (htext.trans (List.append_nil _).symm) Nat.toDigits_ne_nil
    (isDigit_toDigits n) ?_
  intro rest hr
  refine ⟨⟨false, Nat.toDigits 10 n, none, none⟩, ?_, ?_⟩
  · rw [htext]
    exact scan_whole Nat.toDigits_ne_nil (isDigit_toDigits n) (length_toDigits_of_head? n) hr
  · simp [Numeral.value, ofDigits_toDigits, hn]

/-- A score is written with one zero behind the point. There are few enough scores to write all of
them. -/
theorem shortText?_score : ∀ k ≤ 20, Decimal.shortText? (Float.ofNat (5 * k))
    = some (String.ofList (Nat.toDigits 10 (5 * k) ++ ['.', '0'])) := by
  decide +kernel

/-- Ten times a score, divided by ten, is the score: reading a score back loses nothing to
rounding. -/
theorem size_score {k : Nat} (hk : k ≤ 20) :
    Numeral.size ⟨false, Nat.toDigits 10 (5 * k), some ['0'], none⟩
      = .ok (Float.ofNat (5 * k)) := by
  -- Results of numerals are not compared by a decision procedure, but numbers are.
  have hall : ∀ j ≤ 20,
      (Numeral.size ⟨false, Nat.toDigits 10 (5 * j), some ['0'], none⟩).toOption
        = some (Float.ofNat (5 * j)) := by
    decide +kernel
  have h := hall k hk
  cases hsize : Numeral.size ⟨false, Nat.toDigits 10 (5 * k), some ['0'], none⟩ with
  | error _ =>
      rw [hsize] at h
      cases h
  | ok x =>
      rw [hsize] at h
      cases h
      rfl

/-- Scores read back. A score is written with one place behind the point, and its digits are those
of a multiple of five. -/
theorem readsBack_score {k : Nat} (hk : k ≤ 20) :
    (Number.float (Float.ofNat (5 * k))).ReadsBack := by
  have htext : (Number.float (Float.ofNat (5 * k))).text
      = Nat.toDigits 10 (5 * k) ++ ['.', '0'] := by
    rw [Number.text, shortText?_score k hk]
    simp
  refine readsBack_of_digits htext Nat.toDigits_ne_nil (isDigit_toDigits (5 * k)) ?_
  intro rest hr
  refine ⟨⟨false, Nat.toDigits 10 (5 * k), some ['0'], none⟩, ?_, ?_⟩
  · rw [htext, List.append_assoc]
    exact scan_places Nat.toDigits_ne_nil (isDigit_toDigits (5 * k))
      (length_toDigits_of_head? (5 * k)) (List.cons_ne_nil _ _) (by simp) hr
  · simp [Numeral.value, Numeral.float, size_score hk, bind, Except.bind]

end WorkflowLint.Json
