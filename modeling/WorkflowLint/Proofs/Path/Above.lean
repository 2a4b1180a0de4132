import Mathlib.Logic.Relation
import WorkflowLint.Proofs.Path

/-!
# `WorkflowLint.Proofs.Path.Above`: going up from a path

`Path.parent?` takes the last component off a path and `Path.above` lists what is left each time,
until nothing can be taken off. Both work on the segments of the text. The theorems say what that
does to the components:

* `above_cases`: a path either has nothing above it, and then it has no components besides the
  root; or it has one component more than the path directly above it, and what is above that one
  is above the path as well.
* `above_induction`: so going up ends, and whatever a path inherits from the one directly above it
  holds of all paths.

The path above is a text again, made of some segments of the first one, and it has to be cut into
the same segments when it is taken apart (`segments_ofSegments`). That is not true of all lists of
segments: a relative path that starts with an empty segment would start with a slash. `IsCut` says
of which lists it is.
-/

set_option autoImplicit false

namespace WorkflowLint

/-! ### Texts put together from pieces -/

namespace Text

/-- No piece of a text that is cut at a separator contains it. The first piece grows at its front
as the induction goes on, so a character there has to be seen to be no separator. -/
theorem not_mem_of_mem_cut {sep : Char} {p s : List Char} (h : p ∈ cut sep s) : sep ∉ p := by
  induction s generalizing p with
  | nil =>
    obtain rfl : p = [] := by simpa [cut] using h
    exact List.not_mem_nil
  | cons c s ih =>
    rw [cut] at h
    split at h
    case isTrue =>
      obtain rfl | hmem := List.mem_cons.mp h
      · exact List.not_mem_nil
      · exact ih hmem
    case isFalse hc =>
      cases hcut : cut sep s with
      | nil => exact absurd hcut (cut_ne_nil sep s)
      | cons q qs =>
        rw [hcut] at h ih
        obtain rfl | hmem := List.mem_cons.mp h
        · -- The character in front of the first piece is no separator either.
          have hq : sep ∉ q := ih List.mem_cons_self
          intro hsep
          obtain rfl | hsep := List.mem_cons.mp hsep
          · exact hc rfl
          · exact hq hsep
        · exact ih (List.mem_cons_of_mem q hmem)

/-- Pieces with marks between them are what their text is cut into, if there is at least one and
none contains the separator. Without any piece the text would be cut into one empty piece. -/
theorem pieces_intercalate {sep : Char} {mark : String} (hmark : mark.toList = [sep])
    {l : List String} (hl : l ≠ []) (hfree : ∀ s ∈ l, sep ∉ s.toList) :
    pieces sep (mark.intercalate l) = l := by
  induction l with
  | nil => contradiction
  | cons s rest ih =>
    have hs : sep ∉ s.toList := hfree s List.mem_cons_self
    cases rest with
    | nil => rw [String.intercalate_singleton, pieces_of_not_mem hs]
    | cons t rest =>
      rw [String.intercalate_cons_cons, pieces_append hmark, pieces_of_not_mem hs,
        ih (List.cons_ne_nil t rest) fun u hu => hfree u (List.mem_cons_of_mem s hu)]
      rfl

end Text

namespace Path

/-! ### Segments of paths -/

/-- Segments of which a path can be made that has these segments: there is no slash in them, and a
relative path does not start with an empty one. -/
structure IsCut (absolute : Bool) (segments : List String) : Prop where
  slash_free : ∀ s ∈ segments, '/' ∉ s.toList
  head_ne : absolute = false → segments.head? ≠ some ""

/-- A front part of segments that can stand as a path can stand as one too: taking segments off
the end changes neither condition. -/
theorem IsCut.of_front {absolute : Bool} {front segments : List String}
    (h : IsCut absolute segments) (hfront : front <+: segments) : IsCut absolute front where
  slash_free s hs := h.slash_free s (hfront.subset hs)
  head_ne habsolute hhead := by
    obtain ⟨rest, rfl⟩ := hfront
    refine h.head_ne habsolute ?_
    rw [List.head?_append, hhead, Option.some_or]

/-- The segments of a path other than the empty text can be put together again. A path that starts
with an empty segment starts with a slash, so it is not relative. -/
theorem isCut_segments {path : String} (hpath : path ≠ "") :
    IsCut (isAbsolute path) (segments path) where
  slash_free s hs := by
    rw [segments_eq] at hs
    obtain ⟨piece, hpiece, rfl⟩ := List.mem_map.mp hs
    rw [String.toList_ofList]
    exact Text.not_mem_of_mem_cut hpiece
  head_ne habsolute hhead := by
    rw [segments, habsolute, if_neg Bool.false_ne_true, Text.pieces] at hhead
    cases hchars : path.toList with
    | nil => exact hpath (String.toList_eq_nil_iff.mp hchars)
    | cons c cs =>
      -- A slash at the front would make the path absolute.
      have hc : c ≠ '/' := by
        rintro rfl
        simp [isAbsolute, hchars] at habsolute
      rw [hchars, Text.cut, if_neg hc] at hhead
      split at hhead <;> simp at hhead

/-- A path made of segments is absolute exactly if it was to be. For a relative one this needs
that its first segment neither is empty nor has a slash. -/
theorem isAbsolute_ofSegments {absolute : Bool} {l : List String} (h : IsCut absolute l) :
    isAbsolute (ofSegments absolute l) = absolute := by
  cases absolute with
  | true =>
    rw [ofSegments, if_pos rfl, isAbsolute_append (by decide)]
    rfl
  | false =>
    rw [ofSegments, if_neg Bool.false_ne_true, String.empty_append]
    cases l with
    | nil => rfl
    | cons s rest =>
      have hs : s ≠ "" := fun hs => h.head_ne rfl (by rw [hs]; rfl)
      -- The first segment is not empty, and there is no slash in it.
      have hfirst : isAbsolute s = false := by
        have hfree := h.slash_free s List.mem_cons_self
        rw [isAbsolute]
        cases hchars : s.toList with
        | nil => rfl
        | cons c cs =>
          rw [hchars] at hfree
          have hc : c ≠ '/' := fun hc => hfree (hc ▸ List.mem_cons_self)
          simpa using hc
      cases rest with
      | nil => rwa [String.intercalate_singleton]
      | cons t rest =>
        rwa [String.intercalate_cons_cons, String.append_assoc, isAbsolute_append hs]

/-- Segments of which a path is made are its segments. The empty list is an exception, since a
text always has at least one segment. -/
theorem segments_ofSegments {absolute : Bool} {l : List String} (h : IsCut absolute l)
    (hl : l ≠ []) : segments (ofSegments absolute l) = l := by
  have hpieces : Text.pieces '/' ("/".intercalate l) = l :=
    Text.pieces_intercalate rfl hl h.slash_free
  rw [segments, isAbsolute_ofSegments h, ofSegments]
  cases absolute with
  | true =>
    rw [if_pos rfl, if_pos rfl, String.toList_append]
    show Text.pieces '/' (String.ofList ("/".intercalate l).toList) = l
    rwa [String.ofList_toList]
  | false => rwa [if_neg Bool.false_ne_true, if_neg Bool.false_ne_true, String.empty_append]

/-- The components of a path that is made of segments are those of the segments, with the root in
front if it is absolute. Here the empty list is no exception. -/
theorem components_ofSegments {absolute : Bool} {l : List String} (h : IsCut absolute l) :
    components (ofSegments absolute l) = rootOf absolute ++ componentsOf absolute true l := by
  -- Without segments the path is the root or empty, and either is computed.
  by_cases hl : l = []
  · subst hl
    cases absolute <;> rfl
  · rw [components_eq, isAbsolute_ofSegments h, segments_ofSegments h hl]

/-! ### Fillers at the end -/

/-- Taking fillers off the end leaves a part of the segments. They are given in reverse, so the
part is a suffix. -/
theorem trimEnd_suffix (absolute : Bool) (reversed : List String) :
    trimEnd absolute reversed <:+ reversed := by
  induction reversed with
  | nil => exact List.suffix_rfl
  | cons s rest ih =>
    rw [trimEnd]
    split
    · exact ih.trans (List.suffix_cons s rest)
    · exact List.suffix_rfl

/-- What is left ends with a segment that counts, unless nothing is left. The induction stops at
the first segment that is no filler. -/
theorem not_isFiller_of_trimEnd {absolute : Bool} {reversed rest : List String} {s : String}
    (h : trimEnd absolute reversed = s :: rest) : isFiller absolute rest.isEmpty s = false := by
  induction reversed with
  | nil => cases h
  | cons t reversed ih =>
    rw [trimEnd] at h
    split at h
    case isTrue => exact ih h
    case isFalse hfiller =>
      obtain ⟨rfl, rfl⟩ := List.cons.inj h
      exact Bool.eq_false_iff.mpr hfiller

/-- The fillers that are taken off the end are no components, so that none is lost. -/
theorem componentsOf_trimEnd (absolute : Bool) (reversed : List String) :
    componentsOf absolute true (trimEnd absolute reversed).reverse
      = componentsOf absolute true reversed.reverse := by
  induction reversed with
  | nil => rfl
  | cons s rest ih =>
    rw [trimEnd]
    split
    case isTrue hfiller =>
      rw [ih, List.reverse_cons, componentsOf_append_singleton, List.isEmpty_reverse,
        Bool.true_and, if_pos hfiller, List.append_nil]
    case isFalse => rfl

/-- What is above a path is not affected by fillers at its end: they are skipped in going up as
well. -/
theorem aboveOf_trimEnd (absolute : Bool) (reversed : List String) :
    aboveOf absolute (trimEnd absolute reversed) = aboveOf absolute reversed := by
  induction reversed with
  | nil => rfl
  | cons s rest ih =>
    by_cases hfiller : isFiller absolute rest.isEmpty s = true
    · rw [trimEnd, if_pos hfiller, ih, aboveOf, if_pos hfiller]
    · rw [trimEnd, if_neg hfiller]

/-! ### One step up -/

/-- What is above a path that is made of segments is what is above the segments. -/
theorem above_ofSegments {absolute : Bool} {l : List String} (h : IsCut absolute l) :
    above (ofSegments absolute l) = aboveOf absolute l.reverse := by
  by_cases hl : l = []
  · subst hl
    cases absolute <;> rfl
  · rw [above, isAbsolute_ofSegments h, segments_ofSegments h hl]

/-- A path has nothing above it and no components besides the root, or it has one component more
than the path directly above it. In the second case the last segment that counts is the component,
and what is in front of it is the path above. -/
theorem above_cases (path : String) :
    (above path = [] ∧ components path = rootOf (isAbsolute path)) ∨
      ∃ q c, above path = q :: above q ∧ components path = components q ++ [c] := by
  by_cases hpath : path = ""
  · subst hpath
    exact .inl ⟨rfl, rfl⟩
  -- Fillers at the end are taken off first; then the last segment is a component.
  generalize hreversed : trimEnd (isAbsolute path) (segments path).reverse = reversed
  have hcomponents : components path
      = rootOf (isAbsolute path) ++ componentsOf (isAbsolute path) true reversed.reverse := by
    rw [components_eq, ← hreversed, componentsOf_trimEnd, List.reverse_reverse]
  have habove : above path = aboveOf (isAbsolute path) reversed := by
    rw [above, ← hreversed, aboveOf_trimEnd]
  rw [hcomponents, habove]
  cases reversed with
  | nil => exact .inl ⟨rfl, List.append_nil _⟩
  | cons s rest =>
    have hs := not_isFiller_of_trimEnd hreversed
    -- What is in front of the component is part of the segments of the path, so it can be put
    -- together and has the same segments again.
    have hcut : IsCut (isAbsolute path) (trimEnd (isAbsolute path) rest).reverse := by
      refine (isCut_segments hpath).of_front ?_
      rw [← List.reverse_suffix, List.reverse_reverse]
      refine (trimEnd_suffix _ rest).trans ((List.suffix_cons s rest).trans ?_)
      rw [← hreversed]
      exact trimEnd_suffix _ _
    refine .inr ⟨ofSegments (isAbsolute path) (trimEnd (isAbsolute path) rest).reverse,
      componentOf s, ?_, ?_⟩
    · rw [aboveOf, if_neg (Bool.eq_false_iff.mp hs), above_ofSegments hcut, List.reverse_reverse,
        aboveOf_trimEnd]
    · rw [components_ofSegments hcut, componentsOf_trimEnd, List.reverse_cons,
        componentsOf_append_singleton, List.isEmpty_reverse, Bool.true_and,
        if_neg (Bool.eq_false_iff.mp hs), List.append_assoc]

/-- If there is a path directly above, then all that is above that one is above the path too, and
the path has one component more. -/
theorem parent?_eq_some {p q : String} (h : parent? p = some q) :
    above p = q :: above q ∧ ∃ c, components p = components q ++ [c] := by
  obtain ⟨hnone, -⟩ | ⟨q', c, habove, hcomponents⟩ := above_cases p
  · rw [parent?, hnone] at h
    cases h
  · rw [parent?, habove] at h
    obtain rfl := Option.some.inj h
    exact ⟨habove, c, hcomponents⟩

/-- What is above a path is the path directly above it and what is above that. -/
theorem above_of_parent? {p q : String} (h : parent? p = some q) : above p = q :: above q :=
  (parent?_eq_some h).1

/-- If there is no path directly above, there is none above at all. -/
theorem above_of_parent?_eq_none {p : String} (h : parent? p = none) : above p = [] :=
  List.head?_eq_none_iff.mp h

/-- Going up takes the last component off and leaves the others as they are. -/
theorem components_of_parent? {p q : String} (h : parent? p = some q) :
    ∃ c, components p = components q ++ [c] :=
  (parent?_eq_some h).2

/-- There is nothing above the root and above where relative paths start, and these are the only
places of which that is true. -/
theorem components_of_parent?_eq_none {p : String} (h : parent? p = none) :
    components p = rootOf (isAbsolute p) := by
  obtain ⟨-, hcomponents⟩ | ⟨q, c, habove, -⟩ := above_cases p
  · exact hcomponents
  · rw [parent?, habove] at h
    cases h

/-- The path above has fewer components. This is the measure by which going up ends. -/
theorem length_components_of_parent? {p q : String} (h : parent? p = some q) :
    (components q).length < (components p).length := by
  obtain ⟨c, hc⟩ := components_of_parent? h
  rw [hc, List.length_append]
  exact Nat.lt_add_one _

/-! ### All the way up -/

/-- What a path inherits from the one directly above it holds of every path. The induction is on
the number of components, which goes down with every step. -/
theorem above_induction {motive : String → Prop}
    (step : ∀ p, (∀ q, parent? p = some q → motive q) → motive p) (p : String) : motive p := by
  induction hlength : (components p).length using Nat.strong_induction_on generalizing p with
  | _ n ih =>
    refine step p fun q hq => ih _ ?_ q rfl
    rw [← hlength]
    exact length_components_of_parent? hq

/-- The second path is the first one or some way above it. -/
def Rises : String → String → Prop := Relation.ReflTransGen fun p q => parent? p = some q

/-- To rise from a path is to stay, or to go one step and rise from there. -/
theorem rises_iff {p d : String} :
    Rises p d ↔ d = p ∨ ∃ q, parent? p = some q ∧ Rises q d := by
  rw [Rises, Relation.ReflTransGen.cases_head_iff, eq_comm]

/-- A path that is reached by rising has no more components than the one that was left. -/
theorem Rises.length_le {p d : String} (h : Rises p d) :
    (components d).length ≤ (components p).length := by
  induction h with
  | refl => exact Nat.le_refl _
  | tail _ hstep ih => exact (length_components_of_parent? hstep).le.trans ih

/-- Nothing that is above a path leads to it again: the first step already took a component off. -/
theorem Rises.ne_of_parent? {p q d : String} (hq : parent? p = some q) (h : Rises q d) :
    d ≠ p := by
  rintro rfl
  exact absurd h.length_le (Nat.not_le.mpr (length_components_of_parent? hq))

/-- Two paths from each of which the other one is reached are the same path, written in the same
way. -/
theorem Rises.antisymm {p d : String} (h : Rises p d) (hback : Rises d p) : d = p := by
  obtain heq | ⟨q, hq, hrest⟩ := rises_iff.mp h
  · exact heq
  -- Otherwise the way back would have to win a component again.
  · have hle := hrest.length_le.trans_lt (length_components_of_parent? hq)
    exact absurd hback.length_le (Nat.not_le.mpr hle)

end Path

end WorkflowLint
