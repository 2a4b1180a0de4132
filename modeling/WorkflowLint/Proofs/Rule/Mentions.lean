import WorkflowLint.Proofs.RuleChoice

/-!
# `WorkflowLint.Proofs.Rule.Mentions`: variables that are mentioned once

`LOGIC-005` counts how often the name of a variable is found in the source as a whole word,
searching from the left and going on behind each find. A name may overlap with itself, and
whether a find has word boundaries at its ends depends on what stands around it; so the
count depends on where the search happens to go on.

The count does have a meaning of its own: it is the largest number of places of the word
that are apart from each other. The finds are such places (`exists_places`), and no choice
of places has more (`length_le_countWhole`): from the first place on, the search is never
behind another choice. Hence a variable counts as used exactly when its name has two places
in the source that do not overlap (`one_lt_countWhole_iff`).

A name of word characters cannot overlap with itself as a whole word, because there is no
boundary inside of it (`WholeAt.add_length_le`). Such a variable is reported exactly when there
is at most one place.
-/

set_option autoImplicit false

namespace WorkflowLint

namespace Text

/-! ### Places of a word -/

/-- The character in front of a position of a list; `before` is the one in front of the
list. -/
def charBefore (before : Option Char) (s : List Char) : Nat → Option Char
  | 0 => before
  | p + 1 => s[p]?

/-- Whether there is a word boundary at a position: exactly one of the characters in front
of it and behind it is a word character. -/
def boundaryAt (before : Option Char) (s : List Char) (p : Nat) : Bool :=
  isBoundary (charBefore before s p) s[p]?

/-- A word stands at a position of a list as a whole word: there is a word boundary at
either end. -/
def WholeAt (w : List Char) (before : Option Char) (s : List Char) (p : Nat) : Prop :=
  w <+: s.drop p ∧ boundaryAt before s p = true ∧ boundaryAt before s (p + w.length) = true

instance (w : List Char) (before : Option Char) (s : List Char) (p : Nat) :
    Decidable (WholeAt w before s p) :=
  inferInstanceAs (Decidable (_ ∧ _ ∧ _))

/-- How far behind a place of a word the search goes on. Behind the empty word it goes on
one character further, or it would find the same place again. -/
def stride (w : List Char) : Nat := max 1 w.length

/-- Positions in increasing order at which a word stands as a whole word, so far apart that the
word at one of them ends before the next one. -/
structure Places (w : List Char) (before : Option Char) (s : List Char) (ps : List Nat) :
    Prop where
  apart : ps.Pairwise fun p q => p + stride w ≤ q
  whole : ∀ p ∈ ps, WholeAt w before s p

section
variable (w : List Char) (before : Option Char) (s : List Char)

/-- The character in front of a position is the same when the list is cut, if the last character
that was cut off is remembered. -/
theorem charBefore_drop (n p : Nat) :
    charBefore (charBefore before s n) (s.drop n) p = charBefore before s (n + p) := by
  cases p with
  | zero => rfl
  | succ p => exact List.getElem?_drop

/-- So word boundaries are the same, as they depend on the two neighbours of a position only. -/
theorem boundaryAt_drop (n p : Nat) :
    boundaryAt (charBefore before s n) (s.drop n) p = boundaryAt before s (n + p) := by
  rw [boundaryAt, boundaryAt, charBefore_drop, List.getElem?_drop]

/-- Whether a word stands at a position can be asked behind any front part of the list. -/
theorem wholeAt_drop (n p : Nat) :
    WholeAt w (charBefore before s n) (s.drop n) p ↔ WholeAt w before s (n + p) := by
  rw [WholeAt, WholeAt, boundaryAt_drop, boundaryAt_drop, List.drop_drop, Nat.add_assoc]

/-- Places behind a front part of a list are places of the list, with the length of that part
added to each. -/
theorem places_drop (n : Nat) (ps : List Nat) :
    Places w (charBefore before s n) (s.drop n) ps ↔ Places w before s (ps.map (n + ·)) := by
  constructor
  · intro h
    refine ⟨List.pairwise_map.mpr (h.apart.imp fun hpq => by omega), ?_⟩
    intro q hq
    obtain ⟨p, hp, rfl⟩ := List.mem_map.mp hq
    exact (wholeAt_drop w before s n p).mp (h.whole p hp)
  · intro h
    refine ⟨(List.pairwise_map.mp h.apart).imp fun hpq => by omega, ?_⟩
    intro p hp
    exact (wholeAt_drop w before s n p).mpr (h.whole (n + p) (List.mem_map_of_mem hp))

end

section
variable {w : List Char} {before : Option Char} {s : List Char}

/-- A list has the characters of a word where the word stands. -/
theorem WholeAt.getElem? {p : Nat} (h : WholeAt w before s p) {i : Nat} (hi : i < w.length) :
    s[p + i]? = w[i]? := by
  obtain ⟨rest, hrest⟩ := h.1
  rw [← List.getElem?_drop, ← hrest, List.getElem?_append_left hi]

/-- The last character of a word is in front of what follows the word. -/
theorem charBefore_length (hw : w ≠ []) (h : w <+: s) :
    charBefore before s w.length = w.getLast? := by
  obtain ⟨rest, rfl⟩ := h
  obtain ⟨n, hn⟩ := Nat.exists_eq_succ_of_ne_zero (mt List.length_eq_zero_iff.mp hw)
  have hlt : n < w.length := by omega
  rw [List.getLast?_eq_getElem?, hn, charBefore, List.getElem?_append_left hlt]
  rfl

/-- At the start of a list the search asks for boundaries in terms of the word: its first and its
last character are known, only their neighbours are looked up. -/
theorem wholeAt_zero_iff (hw : w ≠ []) (c : Char) (rest : List Char) :
    WholeAt w before (c :: rest) 0 ↔
      (w.isPrefixOf (c :: rest) && isBoundary before (some c) &&
        isBoundary w.getLast? ((c :: rest).drop w.length).head?) = true := by
  rw [Bool.and_eq_true, Bool.and_eq_true, List.isPrefixOf_iff_prefix, List.head?_drop, and_assoc]
  -- Both sides ask for the word itself; with it there, its end is where its last character is.
  show w <+: c :: rest ∧ _ ↔ _
  refine and_congr_right fun hfront => ?_
  rw [boundaryAt, boundaryAt, Nat.zero_add, charBefore_length hw hfront]
  rfl

/-- Nothing stands behind the end of a list, and in an empty list there is one position only. -/
theorem eq_zero_of_wholeAt_nil {p : Nat} (h : WholeAt w before [] p) : p = 0 := by
  cases p with
  | zero => rfl
  | succ p =>
    have hboundary : boundaryAt before [] (p + 1) = true := h.2.1
    simp [boundaryAt, charBefore, isBoundary] at hboundary

/-- At the end of a list only the empty word can stand, and only if a word ends there. -/
theorem countWhole_nil : countWhole w before [] = if WholeAt w before [] 0 then 1 else 0 := by
  rw [countWhole]
  cases w with
  | nil => simp [WholeAt, boundaryAt, charBefore]
  | cons c w => simp [WholeAt]

/-- The search counts a place at the start of a list and goes on behind it, or it goes on with the
next character. The step of the search is said here in terms of places; what follows uses nothing
else of it. -/
theorem countWhole_cons (c : Char) (rest : List Char) :
    countWhole w before (c :: rest)
      = if WholeAt w before (c :: rest) 0 then
          1 + countWhole w (charBefore before (c :: rest) (stride w)) ((c :: rest).drop (stride w))
        else
          countWhole w (charBefore before (c :: rest) 1) ((c :: rest).drop 1) := by
  by_cases hw : w = []
  · -- The empty word is found at a boundary, and either way the next character follows.
    subst hw
    have hzero : WholeAt [] before (c :: rest) 0 ↔ isBoundary before (some c) = true := by
      simp [WholeAt, boundaryAt, charBefore]
    show countWhole [] before (c :: rest)
      = if WholeAt [] before (c :: rest) 0 then 1 + countWhole [] (some c) rest
        else countWhole [] (some c) rest
    rw [countWhole]
    by_cases hboundary : isBoundary before (some c) = true
    · simp [hzero, hboundary]
    · simp [hzero, hboundary]
  · have hpos : 1 ≤ w.length := List.length_pos_iff.mpr hw
    have hstride : stride w = w.length := Nat.max_eq_right hpos
    rw [countWhole, if_neg (by simpa using hw)]
    by_cases hzero : WholeAt w before (c :: rest) 0
    · have hfront : w <+: c :: rest := hzero.1
      -- The search goes on behind the whole word, counted from the first character of the rest.
      have hbehind : rest.drop (w.length - 1) = (c :: rest).drop w.length := by
        rw [← List.drop_succ_cons, Nat.sub_add_cancel hpos]
      rw [if_pos hzero, if_pos ((wholeAt_zero_iff hw c rest).mp hzero), hstride,
        charBefore_length hw hfront, hbehind]
    · rw [if_neg hzero, if_neg (mt (wholeAt_zero_iff hw c rest).mpr hzero)]
      rfl

/-! ### The largest number of places -/

/-- The finds of the search are places apart from each other. The recursion is that of the search,
and what it finds in the rest is moved by as much as was passed over. -/
theorem exists_places (w : List Char) (before : Option Char) (s : List Char) :
    ∃ ps, Places w before s ps ∧ ps.length = countWhole w before s := by
  match s with
  | [] =>
    rw [countWhole_nil]
    split
    · rename_i hzero
      exact ⟨[0], ⟨List.pairwise_singleton _ _, by simpa using hzero⟩, rfl⟩
    · exact ⟨[], ⟨List.Pairwise.nil, by simp⟩, rfl⟩
  | c :: rest =>
    have hpos : 1 ≤ stride w := Nat.le_max_left 1 w.length
    rw [countWhole_cons]
    split
    · rename_i hzero
      obtain ⟨ps, hps, hlength⟩ :=
        exists_places w (charBefore before (c :: rest) (stride w)) ((c :: rest).drop (stride w))
      obtain ⟨hapart, hwhole⟩ := (places_drop ..).mp hps
      -- The find at the start comes first, the others are behind it.
      refine ⟨0 :: ps.map (stride w + ·), ⟨List.pairwise_cons.mpr ⟨?_, hapart⟩, ?_⟩, ?_⟩
      · intro q hq
        obtain ⟨p, -, rfl⟩ := List.mem_map.mp hq
        omega
      · exact List.forall_mem_cons.mpr ⟨hzero, hwhole⟩
      · rw [List.length_cons, List.length_map, hlength, Nat.add_comm]
    · obtain ⟨ps, hps, hlength⟩ :=
        exists_places w (charBefore before (c :: rest) 1) ((c :: rest).drop 1)
      exact ⟨ps.map (1 + ·), (places_drop ..).mp hps, by rw [List.length_map, hlength]⟩
termination_by s.length

/-- Positions from `n` on, counted from there: taking `n` away from each loses nothing. -/
theorem exists_eq_map_add {n : Nat} {ps : List Nat} (h : ∀ p ∈ ps, n ≤ p) :
    ∃ qs : List Nat, ps = qs.map (n + ·) := by
  refine ⟨ps.map (· - n), ?_⟩
  rw [List.map_map]
  refine (List.map_id' ps).symm.trans (List.map_congr_left fun p hp => ?_)
  have hle := h p hp
  show p = n + (p - n)
  omega

/-- Places other than the start of a list are counted behind its first character. -/
theorem one_le_of_whole {ps : List Nat} (hzero : ¬ WholeAt w before s 0)
    (h : ∀ p ∈ ps, WholeAt w before s p) : ∀ p ∈ ps, 1 ≤ p := by
  intro p hp
  refine Nat.one_le_iff_ne_zero.mpr ?_
  rintro rfl
  exact hzero (h 0 hp)

/-- No places apart from each other are more than the finds of the search. Where the search finds
something, it does not go on behind the second of the places; where it does not, no place is
passed over. -/
theorem length_le_countWhole (w : List Char) {before : Option Char} {s : List Char}
    {ps : List Nat} (h : Places w before s ps) : ps.length ≤ countWhole w before s := by
  have hpos : 1 ≤ stride w := Nat.le_max_left 1 w.length
  match s, ps with
  | _, [] => exact Nat.zero_le _
  | [], p :: qs =>
    obtain ⟨hfirst, -⟩ := List.pairwise_cons.mp h.apart
    -- All places are at the one position there is, and two of them would not be apart.
    have hstart : ∀ q ∈ p :: qs, q = 0 := fun q hq => eq_zero_of_wholeAt_nil (h.whole q hq)
    obtain rfl : p = 0 := hstart p List.mem_cons_self
    have hnone : qs = [] := by
      refine List.eq_nil_iff_forall_not_mem.mpr fun q hq => ?_
      have hle := hfirst q hq
      rw [hstart q (List.mem_cons_of_mem _ hq)] at hle
      omega
    rw [hnone, countWhole_nil, if_pos (h.whole 0 List.mem_cons_self)]
    exact Nat.le_refl 1
  | c :: rest, p :: qs =>
    obtain ⟨hfirst, hapart⟩ := List.pairwise_cons.mp h.apart
    rw [countWhole_cons]
    split
    · -- The first find is not behind the first of the places, so the others are behind its end.
      obtain ⟨qs', rfl⟩ : ∃ qs' : List Nat, qs = qs'.map (stride w + ·) :=
        exists_eq_map_add fun q hq => by have := hfirst q hq; omega
      have hqs : Places w before (c :: rest) (qs'.map (stride w + ·)) :=
        ⟨hapart, fun q hq => h.whole q (List.mem_cons_of_mem p hq)⟩
      have hle := length_le_countWhole w ((places_drop ..).mpr hqs)
      rw [List.length_cons, List.length_map]
      omega
    · rename_i hzero
      -- There is no place at the start, so all of them are further on.
      obtain ⟨ps', hps'⟩ := exists_eq_map_add (one_le_of_whole hzero h.whole)
      rw [hps'] at h ⊢
      have hle := length_le_countWhole w ((places_drop ..).mpr h)
      rwa [List.length_map]
termination_by s.length

/-- The search finds a word twice exactly when it has two places that do not overlap. They may be
other places than the two finds. -/
theorem one_lt_countWhole_iff (w : List Char) (before : Option Char) (s : List Char) :
    1 < countWhole w before s ↔
      ∃ p q, p < q ∧ p + w.length ≤ q ∧ WholeAt w before s p ∧ WholeAt w before s q := by
  constructor
  · intro hcount
    obtain ⟨ps, ⟨hapart, hwhole⟩, hlength⟩ := exists_places w before s
    match ps with
    -- Fewer than two finds would not be more than one.
    | [] => simp at hlength; omega
    | [p] => simp at hlength; omega
    | p :: q :: rest =>
      have hstride : p + stride w ≤ q := (List.pairwise_cons.mp hapart).1 q List.mem_cons_self
      have hpos : 1 ≤ stride w := Nat.le_max_left 1 w.length
      have hword : w.length ≤ stride w := Nat.le_max_right 1 w.length
      exact ⟨p, q, by omega, by omega, hwhole p (by simp), hwhole q (by simp)⟩
  · rintro ⟨p, q, hlt, hle, hp, hq⟩
    have hstride : p + stride w ≤ q := by rw [stride]; omega
    have hplaces : Places w before s [p, q] := ⟨by simpa using hstride, by simp [hp, hq]⟩
    exact length_le_countWhole w hplaces

/-- Where a word of word characters stands, a list has word characters. -/
theorem WholeAt.any_isWord (hw : ∀ c ∈ w, isWord c = true) {p i : Nat}
    (h : WholeAt w before s p) (hi : i < w.length) : s[p + i]?.any isWord = true := by
  rw [h.getElem? hi, List.getElem?_eq_getElem hi]
  exact hw _ (List.getElem_mem hi)

/-- Inside of a word of word characters there is no word boundary, so another place of the
word is behind the end of the first. -/
theorem WholeAt.add_length_le (hw : ∀ c ∈ w, isWord c = true) {p q : Nat}
    (hp : WholeAt w before s p) (hq : WholeAt w before s q) (hlt : p < q) : p + w.length ≤ q := by
  by_contra hoverlap
  -- The second place would start inside of the first one, between two word characters.
  obtain ⟨i, rfl⟩ : ∃ i, q = p + i + 1 := ⟨q - p - 1, by omega⟩
  have hbefore : s[p + i]?.any isWord = true := hp.any_isWord hw (by omega)
  have hafter : s[p + (i + 1)]?.any isWord = true := hp.any_isWord hw (by omega)
  have hboundary : isBoundary s[p + i]? s[p + (i + 1)]? = true := hq.2.1
  rw [isBoundary, hbefore, hafter] at hboundary
  cases hboundary

end

/-! ### Sources -/

/-- The name has two places in a source, as a whole word, that do not overlap. -/
def MentionedTwice (name source : String) : Prop :=
  ∃ p q, p < q ∧ p + name.length ≤ q ∧
    WholeAt name.toList none source.toList p ∧ WholeAt name.toList none source.toList q

/-- Counting more than one find is the same as being mentioned twice. -/
theorem mentionedTwice_iff (name source : String) :
    1 < countWhole name.toList none source.toList ↔ MentionedTwice name source := by
  rw [one_lt_countWhole_iff, MentionedTwice, String.length_toList]

instance (name source : String) : Decidable (MentionedTwice name source) :=
  decidable_of_iff _ (mentionedTwice_iff name source)

/-- A name of word characters is mentioned twice as soon as it has two places, since two places of
such a name cannot overlap. -/
theorem not_mentionedTwice_iff {name : String} (h : ∀ c ∈ name.toList, isWord c = true)
    (source : String) :
    ¬ MentionedTwice name source ↔ ∀ p q, WholeAt name.toList none source.toList p →
      WholeAt name.toList none source.toList q → p = q := by
  constructor
  · intro honce p q hp hq
    have hordered : ∀ {p q}, WholeAt name.toList none source.toList p →
        WholeAt name.toList none source.toList q → ¬ p < q := by
      intro p q hp hq hlt
      have hle := hp.add_length_le h hq hlt
      rw [String.length_toList] at hle
      exact honce ⟨p, q, hlt, hle, hp, hq⟩
    have hpq := hordered hp hq
    have hqp := hordered hq hp
    omega
  · rintro hunique ⟨p, q, hlt, -, hp, hq⟩
    exact Nat.ne_of_lt hlt (hunique p q hp hq)

end Text

/-! ### The rule -/

namespace Rule

open Text

/-- Variables are reported that are not mentioned twice: one issue for each, in the order of
their declarations. A variable with a name of word characters is one of them exactly when
its name has at most one place in the source. The names may be any texts. The empty name
has a place at every word boundary. -/
theorem unusedVariables_mentions (d : Document) (t : Thresholds) :
    (unusedVariables (.of d t)).map (fun i => (i.rule, i.description))
      = (d.declared.filter fun v => ¬ MentionedTwice v.name d.source).map (fun v =>
          ("LOGIC-005", s!"Variable '{v.name}' ({v.type}) is declared but never used.")) ∧
    ∀ v ∈ d.declared, (∀ c ∈ v.name.toList, isWord c = true) →
      (¬ MentionedTwice v.name d.source ↔ ∀ p q, WholeAt v.name.toList none d.source.toList p →
        WholeAt v.name.toList none d.source.toList q → p = q) := by
  constructor
  · have hfilter : (fun v : Variable => decide (countWhole v.name.toList none d.source.toList ≤ 1))
        = fun v => decide (¬ MentionedTwice v.name d.source) := by
      funext v
      rw [decide_eq_decide, ← mentionedTwice_iff, Nat.not_lt]
    show ((d.declared.filter fun v => countWhole v.name.toList none d.source.toList ≤ 1).map
      _).map _ = _
    rw [hfilter, List.map_map]
    rfl
  · intro v _ hword
    exact not_mentionedTwice_iff hword d.source

/-- A workflow with a variable whose name is the start of another name, and one whose name has
a full stop in it. -/
def namesakes : String :=
  "<A><Variable Name=\"row\"/><Variable Name=\"rowCount\"/><Variable Name=\"a.a\"/>" ++
  "<B To=\"[rowCount]\" Value=\"a.a.a\"/></A>"

/-- Only the first variable is reported. That its name is part of another one does not make it
used. -/
theorem unusedVariables_mentions_namesakes :
    ∃ d, Document.read namesakes "Main.xaml" = .ok d ∧
      (unusedVariables (.of d {})).map (fun i => (i.rule, i.description))
        = [("LOGIC-005", "Variable 'row' (Unknown) is declared but never used.")] ∧
      ∃ v ∈ d.declared, v.name = "row" ∧ ∀ p q, WholeAt v.name.toList none d.source.toList p →
        WholeAt v.name.toList none d.source.toList q → p = q := by
  have hread : ∃ d, Document.read namesakes "Main.xaml" = .ok d ∧
      (d.declared.filter fun v => ¬ MentionedTwice v.name d.source) = [⟨"row", "Unknown"⟩] ∧
      ⟨"row", "Unknown"⟩ ∈ d.declared :=
    exists_ok_of_any (by decide +kernel)
  obtain ⟨d, hread, hunused, hdeclared⟩ := hread
  obtain ⟨hreported, hplaces⟩ := unusedVariables_mentions d {}
  have honce : ¬ MentionedTwice "row" d.source := by
    have hmem : (⟨"row", "Unknown"⟩ : Variable) ∈ [⟨"row", "Unknown"⟩] := List.mem_cons_self
    rw [← hunused] at hmem
    exact of_decide_eq_true (List.mem_filter.mp hmem).2
  refine ⟨d, hread, ?_, ⟨"row", "Unknown"⟩, hdeclared, rfl, ?_⟩
  · rw [hreported, hunused]
    rfl
  · have hword : ∀ c ∈ "row".toList, isWord c = true := List.all_eq_true.mp (by decide +kernel)
    exact (hplaces ⟨"row", "Unknown"⟩ hdeclared hword).mp honce

end Rule

end WorkflowLint
