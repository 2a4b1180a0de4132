import Mathlib.Computability.Language
import Mathlib.Data.List.TakeWhile
import WorkflowLint.Rule.Variable

/-!
# `WorkflowLint.Proofs.Rule.Naming`: the naming convention, letter by letter

The convention for names of variables is given as a language (`namingConvention`): small
letters and then capitalised words, or capitalised words alone. The rule reads a name from
the left, as long a word as possible at a time. That is the only way to cut a name into
words, so the rule accepts the names of the language and no others
(`isConventional_iff_mem`).

Whether a name belongs to the language can also be decided without cutting it: by looking at
each letter and its surroundings (`WellNamed`). This comes from an induction on the name.
What is left of a list behind its first small letters and digits is made up of capitalised
words exactly when no letter of the list is out of place (`isCapitalised_dropWhile_isSmall`).
-/

set_option autoImplicit false

namespace WorkflowLint.Rule

open Computability

/-! ### The language -/

/-- One character of a class. -/
def oneOf (p : Char → Bool) : Language Char := {l | ∃ c, p c = true ∧ l = [c]}

/-- At least one character of a class. -/
def someOf (p : Char → Bool) : Language Char := oneOf p * (oneOf p)∗

/-- A capital and at least one small letter or digit. -/
def capitalisedWord : Language Char := oneOf Char.isUpper * someOf isSmall

/-- The names that follow the convention: small letters and then capitalised words, or
capitalised words only. -/
def namingConvention : Language Char :=
  someOf Char.isLower * capitalisedWord∗ + capitalisedWord * capitalisedWord∗

/-- Any number of characters of a class are the lists of such characters. -/
theorem mem_kstar_oneOf {p : Char → Bool} {l : List Char} :
    l ∈ (oneOf p)∗ ↔ ∀ c ∈ l, p c = true := by
  constructor
  -- Every piece is a single character of the class.
  · rintro ⟨pieces, rfl, hpieces⟩ c hc
    obtain ⟨piece, hpiece, hc⟩ := List.mem_flatten.mp hc
    obtain ⟨d, hd, rfl⟩ := hpieces piece hpiece
    rwa [List.mem_singleton.mp hc]
  · intro h
    refine ⟨l.map fun c => [c], (List.flatMap_singleton' l).symm, ?_⟩
    intro piece hpiece
    obtain ⟨c, hc, rfl⟩ := List.mem_map.mp hpiece
    exact ⟨c, h c hc, rfl⟩

/-- At least one of them: such lists that are not empty. -/
theorem mem_someOf {p : Char → Bool} {l : List Char} :
    l ∈ someOf p ↔ l ≠ [] ∧ ∀ c ∈ l, p c = true := by
  rw [someOf, Language.mem_mul]
  constructor
  · rintro ⟨_, ⟨c, hc, rfl⟩, rest, hrest, rfl⟩
    exact ⟨by simp, List.forall_mem_cons.mpr ⟨hc, mem_kstar_oneOf.mp hrest⟩⟩
  · rintro ⟨hne, h⟩
    obtain ⟨c, rest, rfl⟩ := List.exists_cons_of_ne_nil hne
    obtain ⟨hc, hrest⟩ := List.forall_mem_cons.mp h
    exact ⟨[c], ⟨c, hc, rfl⟩, rest, mem_kstar_oneOf.mpr hrest, rfl⟩

/-- A capitalised word is a capital with something small behind it. -/
theorem mem_capitalisedWord {l : List Char} :
    l ∈ capitalisedWord ↔
      ∃ c rest, l = c :: rest ∧ c.isUpper = true ∧ rest ≠ [] ∧ ∀ d ∈ rest, isSmall d = true := by
  rw [capitalisedWord, Language.mem_mul]
  constructor
  · rintro ⟨_, ⟨c, hc, rfl⟩, rest, hrest, rfl⟩
    exact ⟨c, rest, rfl, hc, mem_someOf.mp hrest⟩
  · rintro ⟨c, rest, rfl, hc, hrest⟩
    exact ⟨[c], ⟨c, hc, rfl⟩, rest, mem_someOf.mpr hrest, rfl⟩

/-! ### Classes of characters -/

section
variable {c : Char}

/-- Capitals are the letters from `A` to `Z`, by their codes. The three classes are told apart by
these ranges. -/
theorem isUpper_iff : c.isUpper = true ↔ 65 ≤ c.toNat ∧ c.toNat ≤ 90 :=
  decide_eq_true_iff

/-- Small letters are those from `a` to `z`, by their numbers. -/
theorem isLower_iff : c.isLower = true ↔ 97 ≤ c.toNat ∧ c.toNat ≤ 122 :=
  Bool.and_eq_true_iff.trans (and_congr decide_eq_true_iff decide_eq_true_iff)

/-- Digits are those from `0` to `9`, by their numbers. -/
theorem isDigit_iff : c.isDigit = true ↔ 48 ≤ c.toNat ∧ c.toNat ≤ 57 :=
  Bool.and_eq_true_iff.trans (and_congr decide_eq_true_iff decide_eq_true_iff)

/-- What counts as small is no capital, so a capital always starts a new word. -/
theorem isUpper_of_isSmall (h : isSmall c = true) : c.isUpper = false := by
  rw [isSmall, Bool.or_eq_true, isLower_iff, isDigit_iff] at h
  rw [← Bool.not_eq_true, isUpper_iff]
  omega

/-- And a capital does not count as small, so it never goes on with a word. -/
theorem isSmall_of_isUpper (h : c.isUpper = true) : isSmall c = false := by
  rw [← Bool.not_eq_true]
  intro hsmall
  rw [isUpper_of_isSmall hsmall] at h
  cases h

/-- A small letter is no digit: the two ranges of numbers do not meet. -/
theorem isDigit_of_isLower (h : c.isLower = true) : c.isDigit = false := by
  rw [isLower_iff] at h
  rw [← Bool.not_eq_true, isDigit_iff]
  omega

/-- A small letter counts as small, as a digit does. -/
theorem isSmall_of_isLower (h : c.isLower = true) : isSmall c = true := by
  rw [isSmall, h, Bool.true_or]

/-- Letters and digits are the capitals and what counts as small. So a character that is allowed
in a name either starts a word or goes on with one. -/
theorem isAlphanum_eq (c : Char) : c.isAlphanum = (c.isUpper || isSmall c) := by
  show (c.isUpper || c.isLower || c.isDigit) = _
  rw [isSmall, Bool.or_assoc]

end

/-! ### Letter by letter -/

/-- Every capital has a small letter or a digit right behind it. -/
def CapitalsFollowed (s : List Char) : Prop :=
  ∀ i < s.length, s[i]?.any Char.isUpper = true →
    s[i + 1]?.any (fun c => c.isLower || c.isDigit) = true

/-- Every digit has a capital somewhere in front of it. -/
def DigitsLed (s : List Char) : Prop :=
  ∀ i < s.length, s[i]?.any Char.isDigit = true → ∃ j < i, s[j]?.any Char.isUpper = true

/-- A name in which every character is in its place. -/
structure WellNamed (name : List Char) : Prop where
  nonempty : name ≠ []
  alphanumeric : ∀ c ∈ name, c.isAlphanum = true
  capitals : CapitalsFollowed name
  digits : DigitsLed name

instance (s : List Char) : Decidable (CapitalsFollowed s) :=
  inferInstanceAs (Decidable (∀ i < s.length, _ → _))

instance (s : List Char) : Decidable (DigitsLed s) :=
  inferInstanceAs (Decidable (∀ i < s.length, _ → ∃ j < i, _))

/-- The conditions on a name as a conjunction, in which form they are decided. -/
theorem wellNamed_iff (name : List Char) :
    WellNamed name ↔ name ≠ [] ∧ (∀ c ∈ name, c.isAlphanum = true) ∧ CapitalsFollowed name ∧
      DigitsLed name :=
  ⟨fun h => ⟨h.nonempty, h.alphanumeric, h.capitals, h.digits⟩,
    fun ⟨hne, hall, hfollowed, hled⟩ => ⟨hne, hall, hfollowed, hled⟩⟩

instance (name : List Char) : Decidable (WellNamed name) :=
  haveI := List.decidableBAll (fun c : Char => c.isAlphanum = true) name
  decidable_of_iff' _ (wellNamed_iff name)

/-- At the front of a list, a capital must be followed by the right character; the other capitals
are those of the rest. -/
theorem capitalsFollowed_cons {c : Char} {s : List Char} :
    CapitalsFollowed (c :: s) ↔
      (c.isUpper = true → s.head?.any isSmall = true) ∧ CapitalsFollowed s := by
  rw [CapitalsFollowed, List.length_cons, Nat.forall_lt_succ_left]
  simp only [List.getElem?_cons_succ, List.getElem?_cons_zero, List.head?_eq_getElem?]
  rfl

/-- Behind a capital all digits are led, by this capital if by no other one. -/
theorem digitsLed_of_isUpper {c : Char} (hc : c.isUpper = true) (s : List Char) :
    DigitsLed (c :: s) := by
  intro i _ hdigit
  cases i with
  | zero =>
    have hsmall : isSmall c = true := by simp [isSmall, show c.isDigit = true from hdigit]
    rw [isUpper_of_isSmall hsmall] at hc
    cases hc
  | succ i => exact ⟨0, Nat.succ_pos i, hc⟩

/-- A digit at the front has nothing in front of it that could lead it. -/
theorem not_digitsLed_of_isDigit {c : Char} (hc : c.isDigit = true) (s : List Char) :
    ¬ DigitsLed (c :: s) := by
  intro h
  obtain ⟨j, hj, -⟩ := h 0 (Nat.succ_pos _) hc
  omega

/-- A small letter in front leads no digit and is none. Digits behind it are led if they are
without it. -/
theorem digitsLed_cons_of_isLower {c : Char} (hc : c.isLower = true) {s : List Char} :
    DigitsLed (c :: s) ↔ DigitsLed s := by
  have hupper : c.isUpper = false := isUpper_of_isSmall (isSmall_of_isLower hc)
  have hdigit : c.isDigit = false := isDigit_of_isLower hc
  rw [DigitsLed, List.length_cons, Nat.forall_lt_succ_left]
  simp only [Nat.exists_lt_succ_left, List.getElem?_cons_zero, List.getElem?_cons_succ,
    Option.any_some, hupper, hdigit, Bool.false_eq_true, false_imp_iff, true_and, false_or]
  rfl

/-- A list starts with a character of a class when the longest such stretch in front of it is not
empty. -/
theorem isEmpty_takeWhile (p : Char → Bool) (s : List Char) :
    (!(s.takeWhile p).isEmpty) = s.head?.any p := by
  cases s with
  | nil => rfl
  | cons c s =>
    rw [List.takeWhile_cons]
    cases hc : p c with
    | true => simp [hc]
    | false => simp [hc]

/-- What is left of a list behind its first small letters and digits is made up of capitalised
words exactly when all characters are in place. The statement is about the rest so that the
induction can go through a word character by character. -/
theorem isCapitalised_dropWhile_isSmall (s : List Char) :
    isCapitalised (s.dropWhile isSmall) = true ↔
      (∀ c ∈ s, c.isAlphanum = true) ∧ CapitalsFollowed s := by
  induction s with
  | nil => simp [isCapitalised, CapitalsFollowed]
  | cons c s ih =>
    rw [List.forall_mem_cons, capitalsFollowed_cons, isAlphanum_eq]
    cases hsmall : isSmall c with
    | true =>
      rw [List.dropWhile_cons_of_pos hsmall, ih, isUpper_of_isSmall hsmall]
      simp
    | false =>
      -- A capital starts a word here, and the rest of the word is behind it.
      rw [List.dropWhile_cons_of_neg (by simp [hsmall]), isCapitalised, isEmpty_takeWhile,
        Bool.and_eq_true, Bool.and_eq_true, ih, Bool.or_false]
      constructor
      -- The word that starts here has a small character next, which is the one that the capital
      -- needs.
      · rintro ⟨⟨hupper, hnext⟩, hall, hfollowed⟩
        exact ⟨⟨hupper, hall⟩, fun _ => hnext, hfollowed⟩
      · rintro ⟨⟨hupper, hall⟩, hnext, hfollowed⟩
        exact ⟨⟨hupper, hnext hupper⟩, hall, hfollowed⟩

/-- So is a list that does not start with a small letter or digit: nothing is dropped from it. -/
theorem isCapitalised_cons (c : Char) (s : List Char) :
    isCapitalised (c :: s) = true ↔
      c.isUpper = true ∧ (∀ d ∈ c :: s, d.isAlphanum = true) ∧ CapitalsFollowed (c :: s) := by
  rw [← isCapitalised_dropWhile_isSmall]
  constructor
  · intro h
    have hupper : c.isUpper = true := by
      rw [isCapitalised, Bool.and_eq_true, Bool.and_eq_true] at h
      exact h.1.1
    rw [List.dropWhile_cons_of_neg (by simp [isSmall_of_isUpper hupper])]
    exact ⟨hupper, h⟩
  · rintro ⟨hupper, h⟩
    rwa [List.dropWhile_cons_of_neg (by simp [isSmall_of_isUpper hupper])] at h

/-- What is left of a list behind its first small letters is made up of capitalised words
exactly when all characters are in place and no digit comes too early. -/
theorem isCapitalised_dropWhile_isLower (s : List Char) :
    isCapitalised (s.dropWhile Char.isLower) = true ↔
      (∀ c ∈ s, c.isAlphanum = true) ∧ CapitalsFollowed s ∧ DigitsLed s := by
  induction s with
  | nil => simp [isCapitalised, CapitalsFollowed, DigitsLed]
  | cons c s ih =>
    cases hlower : c.isLower with
    | true =>
      have hsmall := isSmall_of_isLower hlower
      rw [List.dropWhile_cons_of_pos hlower, ih, List.forall_mem_cons, capitalsFollowed_cons,
        digitsLed_cons_of_isLower hlower, isAlphanum_eq, isUpper_of_isSmall hsmall, hsmall]
      simp
    | false =>
      -- The first character is a capital or a digit. A digit is too early here.
      rw [List.dropWhile_cons_of_neg (by simp [hlower]), isCapitalised_cons]
      constructor
      · rintro ⟨hupper, hall, hfollowed⟩
        exact ⟨hall, hfollowed, digitsLed_of_isUpper hupper s⟩
      · rintro ⟨hall, hfollowed, hled⟩
        refine ⟨?_, hall, hfollowed⟩
        have hc := hall c List.mem_cons_self
        rw [isAlphanum_eq, isSmall, hlower, Bool.false_or, Bool.or_eq_true] at hc
        exact hc.resolve_right fun hdigit => not_digitsLed_of_isDigit hdigit s hled

/-- The two shapes of a name are one: small letters, perhaps none, and then capitalised words. A
name that starts with a small letter is not made of capitalised words alone. -/
theorem isConventional_eq (name : List Char) :
    isConventional name = (!name.isEmpty && isCapitalised (name.dropWhile Char.isLower)) := by
  cases name with
  | nil => rfl
  | cons c s =>
    rw [isConventional, isEmpty_takeWhile]
    cases hlower : c.isLower with
    | true =>
      -- The second shape is out of the question.
      have hnot : isCapitalised (c :: s) = false := by
        rw [isCapitalised, isUpper_of_isSmall (isSmall_of_isLower hlower), Bool.false_and,
          Bool.false_and]
      simp [hlower, hnot]
    | false => simp [hlower]

/-- A name has one of the two shapes exactly when every character is in its place. -/
theorem isConventional_iff_wellNamed (name : List Char) :
    isConventional name = true ↔ WellNamed name := by
  rw [isConventional_eq, Bool.and_eq_true, isCapitalised_dropWhile_isLower, Bool.not_eq_true',
    List.isEmpty_eq_false_iff, wellNamed_iff]

-- A digit may end a name and a capital may not; a digit may not come before the first capital.
example : WellNamed "invoiceId2".toList ∧ ¬ WellNamed "invoiceID".toList ∧
    ¬ WellNamed "invoice2Id".toList := by decide +kernel

/-! ### The language is the convention -/

/-- Capitalised words one after the other start with a capital. -/
theorem isUpper_of_mem_kstar {l : List Char} (h : l ∈ capitalisedWord∗) :
    ∀ c ∈ l.head?, c.isUpper = true := by
  obtain ⟨words, rfl, hwords⟩ := h
  cases words with
  | nil => simp
  | cons word words =>
    obtain ⟨c, rest, rfl, hc, -⟩ := mem_capitalisedWord.mp (hwords word List.mem_cons_self)
    simpa using hc

/-- A stretch of a class ends where a capital follows, if no capital is in the class. This is why
reading as far as possible cuts a name where the language does. -/
theorem takeWhile_append_kstar {p : Char → Bool} (hp : ∀ c, p c = true → c.isUpper = false)
    {l rest : List Char} (hl : ∀ c ∈ l, p c = true) (hrest : rest ∈ capitalisedWord∗) :
    (l ++ rest).takeWhile p = l ∧ (l ++ rest).dropWhile p = rest := by
  -- What follows is nothing or starts with a capital, which is not in the class.
  have hstop : ∀ c ∈ rest.head?, ¬ p c = true := by
    intro c hc hpc
    have hupper := isUpper_of_mem_kstar hrest c hc
    rw [hp c hpc] at hupper
    cases hupper
  rw [List.takeWhile_append_of_pos hl, List.dropWhile_append_of_pos hl]
  cases rest with
  | nil => simp
  | cons c rest =>
    rw [List.takeWhile_cons_of_neg (hstop c rfl), List.dropWhile_cons_of_neg (hstop c rfl)]
    simp

/-- Reading words as long as possible finds all ways to cut a list into capitalised words. One
direction follows the reading, the other one the words of the language. -/
theorem isCapitalised_iff_mem (s : List Char) :
    isCapitalised s = true ↔ s ∈ capitalisedWord∗ := by
  constructor
  · intro h
    induction s using isCapitalised.induct with
    | case1 => exact Language.nil_mem_kstar _
    | case2 c rest ih =>
      rw [isCapitalised, Bool.and_eq_true, Bool.and_eq_true, Bool.not_eq_true',
        List.isEmpty_eq_false_iff] at h
      obtain ⟨⟨hupper, hne⟩, hrest⟩ := h
      obtain ⟨words, hflatten, hwords⟩ := ih hrest
      -- The word that was read is one of the language.
      have hword : c :: rest.takeWhile isSmall ∈ capitalisedWord :=
        mem_capitalisedWord.mpr ⟨c, _, rfl, hupper, hne, fun d hd => List.mem_takeWhile_imp hd⟩
      refine ⟨(c :: rest.takeWhile isSmall) :: words, ?_, List.forall_mem_cons.mpr ⟨hword, hwords⟩⟩
      rw [List.flatten_cons, ← hflatten, List.cons_append, List.takeWhile_append_dropWhile]
  · rintro ⟨words, rfl, hwords⟩
    induction words with
    | nil => simp [isCapitalised]
    | cons word words ih =>
      obtain ⟨hword, hothers⟩ := List.forall_mem_cons.mp hwords
      obtain ⟨c, rest, rfl, hupper, hne, hsmall⟩ := mem_capitalisedWord.mp hword
      -- The first word of the language is the one that is read, because a capital or nothing
      -- comes behind it.
      have hbehind : words.flatten ∈ capitalisedWord∗ := Language.join_mem_kstar hothers
      obtain ⟨htake, hdrop⟩ :=
        takeWhile_append_kstar (fun _ => isUpper_of_isSmall) hsmall hbehind
      rw [List.flatten_cons, List.cons_append, isCapitalised, htake, hdrop, ih hothers, hupper]
      simpa using hne

/-- Small letters and then capitalised words: the small letters are the longest stretch of them in
front, since what comes next is a capital. -/
theorem mem_someOf_mul_kstar (name : List Char) :
    name ∈ someOf Char.isLower * capitalisedWord∗ ↔
      name.takeWhile Char.isLower ≠ [] ∧ isCapitalised (name.dropWhile Char.isLower) = true := by
  rw [Language.mem_mul]
  constructor
  · rintro ⟨l, hl, rest, hrest, rfl⟩
    obtain ⟨hne, hlower⟩ := mem_someOf.mp hl
    obtain ⟨htake, hdrop⟩ := takeWhile_append_kstar
      (fun _ hc => isUpper_of_isSmall (isSmall_of_isLower hc)) hlower hrest
    rw [htake, hdrop, isCapitalised_iff_mem]
    exact ⟨hne, hrest⟩
  · rintro ⟨hne, hrest⟩
    have hl : name.takeWhile Char.isLower ∈ someOf Char.isLower :=
      mem_someOf.mpr ⟨hne, fun c hc => List.mem_takeWhile_imp hc⟩
    exact ⟨_, hl, _, (isCapitalised_iff_mem _).mp hrest, List.takeWhile_append_dropWhile⟩

/-- At least one capitalised word: the names of this language are those of the starred one that
are not empty. -/
theorem mem_mul_kstar (name : List Char) :
    name ∈ capitalisedWord * capitalisedWord∗ ↔ name ≠ [] ∧ isCapitalised name = true := by
  rw [Language.mem_mul, isCapitalised_iff_mem]
  constructor
  · rintro ⟨word, hword, _, ⟨words, rfl, hwords⟩, rfl⟩
    refine ⟨?_, word :: words, rfl, List.forall_mem_cons.mpr ⟨hword, hwords⟩⟩
    obtain ⟨c, rest, rfl, -⟩ := mem_capitalisedWord.mp hword
    simp
  · rintro ⟨hne, words, rfl, hwords⟩
    cases words with
    | nil => exact absurd rfl hne
    | cons word words =>
      obtain ⟨hword, hothers⟩ := List.forall_mem_cons.mp hwords
      exact ⟨word, hword, _, Language.join_mem_kstar hothers, rfl⟩

/-- The rule accepts the names of the language, and no others. The two alternatives of the rule
are those of the language. -/
theorem isConventional_iff_mem (name : List Char) :
    isConventional name = true ↔ name ∈ namingConvention := by
  rw [isConventional, Bool.or_eq_true, Bool.and_eq_true, Bool.and_eq_true, Bool.not_eq_true',
    Bool.not_eq_true', List.isEmpty_eq_false_iff, List.isEmpty_eq_false_iff, namingConvention,
    Language.mem_add, mem_someOf_mul_kstar, mem_mul_kstar]

/-- Variables are reported whose names have at least four characters, one of which is out of
place: one issue for each, in their order. The names in which every character is in its
place are those of the language. -/
theorem variableNaming_wellNamed (s : Subject) :
    (variableNaming s).map (fun i => (i.rule, i.description))
      = (s.facts.declared.filter fun v => 4 ≤ v.name.length ∧ ¬ WellNamed v.name.toList).map
          (fun v => ("MAINT-002", s!"Variable '{v.name}' does not follow the naming convention.")) ∧
    ∀ name, name ∈ namingConvention ↔ WellNamed name := by
  constructor
  · have hfilter : (fun v : Variable =>
          decide (v.name.length ≥ minCheckedNameLength) && !isConventional v.name.toList)
        = fun v => decide (4 ≤ v.name.length ∧ ¬ WellNamed v.name.toList) := by
      funext v
      rw [Bool.eq_iff_iff, Bool.and_eq_true, decide_eq_true_iff, decide_eq_true_iff,
        Bool.not_eq_true', ← Bool.not_eq_true, isConventional_iff_wellNamed]
      rfl
    rw [variableNaming, hfilter, List.map_map]
    rfl
  · intro name
    rw [← isConventional_iff_mem, isConventional_iff_wellNamed]

end WorkflowLint.Rule
