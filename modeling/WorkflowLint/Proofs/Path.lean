import Mathlib.Data.List.Lex
import Mathlib.Data.Prod.Lex
import Mathlib.Data.String.Basic
import WorkflowLint.Path

/-!
# `WorkflowLint.Proofs.Path`: the order of paths, their components and their extensions

Paths are compared component by component. A component is a rank and a text, compared in this
order, so the order of paths is the lexicographic order of lists of such pairs (`le_iff`), and two
paths are the same when these lists are equal (`same_iff`). The order is linear up to being the
same: that is all that sorting needs to know of it.

The components come from the segments one by one, the root apart (`components_eq`). What the last
segment contributes can be said without the others (`componentsOf_append_singleton`), and paths are
made longer and shorter at their ends.

A name that is joined to the path of a directory becomes the last segment (`segments_join`). All
segments in front of it are those of the directory, except that a slash at the end of the
directory's path leaves no empty segment there.

A name is cut at its full stops, and the extension is the last piece unless there is nothing in
front of it. Said without the pieces, the name is a stem that is not empty, a full stop and an
extension without one (`extension?_eq_some_iff`).
-/

set_option autoImplicit false

namespace WorkflowLint

/-! ### Cutting texts -/

namespace Text

/-- A text is never cut into no pieces: the empty text is one empty piece, and every other
character adds to a piece or starts one. -/
theorem cut_ne_nil (sep : Char) (s : List Char) : cut sep s ≠ [] := by
  cases s with
  | nil => simp [cut]
  | cons c s =>
    rw [cut]
    split
    · simp
    · split <;> simp

/-- A list with a separator in it is cut in front of the separator and behind it. It need not be
the first separator or the last one. -/
theorem cut_append (sep : Char) (front back : List Char) :
    cut sep (front ++ sep :: back) = cut sep front ++ cut sep back := by
  induction front with
  | nil => simp [cut]
  | cons c front ih =>
    rw [List.cons_append, cut, ih]
    by_cases hc : c = sep
    · simp [cut, hc]
    · rw [if_neg hc, cut, if_neg hc]
      -- The character goes to the first piece of the front part, which exists.
      cases hfront : cut sep front with
      | nil => exact absurd hfront (cut_ne_nil sep front)
      | cons p ps => rfl

/-- A list without a separator is one piece, the list itself. -/
theorem cut_of_not_mem {sep : Char} {s : List Char} (h : sep ∉ s) : cut sep s = [s] := by
  induction s with
  | nil => rfl
  | cons c s ih =>
    have hc : c ≠ sep := fun heq => h (heq ▸ List.mem_cons_self)
    rw [cut, if_neg hc, ih fun hmem => h (List.mem_cons_of_mem c hmem)]

/-- The same for texts: there is always a piece, be it the empty one. -/
theorem pieces_ne_nil (sep : Char) (s : String) : pieces sep s ≠ [] :=
  mt List.map_eq_nil_iff.mp (cut_ne_nil sep s.toList)

/-- A text with a mark in it that is a separator is cut in front of the mark and behind it. -/
theorem pieces_append {sep : Char} {mark : String} (hmark : mark.toList = [sep])
    (front back : String) :
    pieces sep (front ++ mark ++ back) = pieces sep front ++ pieces sep back := by
  have htext : (front ++ mark ++ back).toList = front.toList ++ sep :: back.toList := by
    simp [hmark]
  rw [pieces, htext, cut_append, List.map_append, pieces, pieces]

/-- A text without the separator is its only piece. -/
theorem pieces_of_not_mem {sep : Char} {s : String} (h : sep ∉ s.toList) : pieces sep s = [s] := by
  rw [pieces, cut_of_not_mem h, List.map_singleton, String.ofList_toList]

/-- Only the empty text is cut into a single empty piece. This tells a missing stem from one that
ends with a separator. -/
theorem pieces_eq_singleton_empty_iff {sep : Char} {s : String} :
    pieces sep s = [""] ↔ s = "" := by
  constructor
  · intro h
    cases hs : s.toList with
    | nil => exact String.toList_eq_nil_iff.mp hs
    | cons c rest =>
      rw [pieces, hs, cut] at h
      split at h
      -- A separator is followed by another piece, and any other character is in the first one.
      · exact absurd (List.cons.inj h).2 (mt List.map_eq_nil_iff.mp (cut_ne_nil sep rest))
      · split at h <;> simp at h
  · rintro rfl
    rfl

/-- A list with a separator in it has a last one, which is the first one of the list in reverse. -/
theorem exists_last_of_mem {sep : Char} {s : List Char} (h : sep ∈ s) :
    ∃ front back, s = front ++ sep :: back ∧ sep ∉ back := by
  -- The library finds the first one, so the list is reversed.
  obtain ⟨back, front, hsplit, hback⟩ := List.eq_append_cons_of_mem (List.mem_reverse.mpr h)
  refine ⟨front.reverse, back.reverse, ?_, mt List.mem_reverse.mp hback⟩
  rw [← List.reverse_reverse s, hsplit]
  simp

end Text

namespace Path

/-! ### The order -/

/-- A component as a rank and a text. -/
def Component.key (c : Component) : ℕ ×ₗ String := toLex (c.rank, c.text)

/-- A component is known by its rank and its text. The ranks tell the root, the two kinds of dots
and names apart, and only names have a text of their own. -/
theorem Component.key_injective : Function.Injective Component.key := by
  intro a b h
  obtain ⟨hrank, htext⟩ := Prod.mk.inj (toLex.injective h)
  cases a <;> cases b <;> simp_all [Component.rank, Component.text]

/-- Components are compared by rank and then by text, which is the lexicographic order of their
keys. -/
theorem Component.lt_iff {a b : Component} : a.lt b = true ↔ a.key < b.key := by
  simp [Component.lt, Component.key, Prod.Lex.toLex_lt_toLex]

/-- A path as the list of its components' ranks and texts. -/
def key (path : String) : List (ℕ ×ₗ String) := (components path).map Component.key

/-- Lists of components are compared like the lists of their keys. The induction goes along the
first list, with the second one free, as the first components are taken off both. -/
theorem leComponents_iff (as bs : List Component) :
    leComponents as bs = true ↔ as.map Component.key ≤ bs.map Component.key := by
  induction as generalizing bs with
  | nil => simp [leComponents, ← not_lt, List.not_lt_nil]
  | cons a as ih =>
    cases bs with
    | nil => simp [leComponents, ← not_lt, List.nil_lt_cons]
    | cons b bs =>
      -- The first components decide unless they are the same.
      rw [leComponents, List.map_cons, List.map_cons, ← not_lt, List.cons_lt_cons_iff]
      by_cases hab : a = b
      · simp [hab, ih]
      · have hkey : b.key ≠ a.key := fun heq => hab (Component.key_injective heq.symm)
        rw [if_neg (by simpa using hab), Component.lt_iff]
        simp [hkey, hkey.symm.le_iff_lt]

/-- The order of paths is the lexicographic order of their keys. Facts on linear orders then hold
of paths, without a look at components. -/
theorem le_iff {p q : String} : le p q = true ↔ key p ≤ key q :=
  leComponents_iff (components p) (components q)

/-- Two paths are the same if their components are, even if the texts differ. -/
theorem same_iff {p q : String} : same p q = true ↔ key p = key q := by
  rw [same, beq_iff_eq, key, key, (List.map_injective_iff.mpr Component.key_injective).eq_iff]

/-! ### Components -/

/-- The component that starts an absolute path. -/
def rootOf (absolute : Bool) : List Component := if absolute then [.root] else []

/-- The components of a path: the root if it is absolute, and then one for each segment that
counts. -/
theorem components_eq (path : String) :
    components path
      = rootOf (isAbsolute path) ++ componentsOf (isAbsolute path) true (segments path) := rfl

/-- The last segment gives the last component, unless it is a filler. Whether it is one depends on
the segments in front of it only in that there are any. -/
theorem componentsOf_append_singleton (absolute first : Bool) (front : List String) (s : String) :
    componentsOf absolute first (front ++ [s]) = componentsOf absolute first front ++
      if isFiller absolute (first && front.isEmpty) s then [] else [componentOf s] := by
  induction front generalizing first with
  | nil =>
    rw [List.nil_append, List.isEmpty_nil, Bool.and_true, componentsOf]
    rfl
  | cons t front ih =>
    rw [List.cons_append, componentsOf, componentsOf, ih]
    split <;> simp

/-! ### Joining -/

/-- What stands behind a path does not make it absolute or relative, provided that there is a
path. -/
theorem isAbsolute_append {path : String} (hpath : path ≠ "") (rest : String) :
    isAbsolute (path ++ rest) = isAbsolute path := by
  rw [isAbsolute, isAbsolute, String.toList_append]
  cases hchars : path.toList with
  | nil => exact absurd (String.toList_eq_nil_iff.mp hchars) hpath
  | cons c cs => rfl

/-- The text of a path that is cut into segments. -/
def afterRoot (path : String) : String :=
  if isAbsolute path then String.ofList (path.toList.drop 1) else path

/-- The segments of a path are the pieces of its text between slashes, without the slash of the
root. -/
theorem segments_eq (path : String) : segments path = Text.pieces '/' (afterRoot path) := by
  rw [segments, afterRoot]
  split <;> rfl

/-- What stands behind a path stands behind what comes after its root. -/
theorem afterRoot_append {path : String} (hpath : path ≠ "") (rest : String) :
    afterRoot (path ++ rest) = afterRoot path ++ rest := by
  rw [afterRoot, afterRoot, isAbsolute_append hpath]
  split
  · cases hchars : path.toList with
    | nil => exact absurd (String.toList_eq_nil_iff.mp hchars) hpath
    | cons c cs => simp [hchars]
  · rfl

/-- The last slash of a path is the one in front of everything or stands behind something. In the
second case it ends what comes after the root. -/
theorem afterRoot_of_getLast? {path : String} (h : path.toList.getLast? = some '/') :
    afterRoot path = "" ∨ ∃ front, afterRoot path = front ++ "/" := by
  obtain ⟨cs, hcs⟩ := List.getLast?_eq_some_iff.mp h
  rw [afterRoot, hcs]
  split
  · cases cs with
    | nil => exact .inl rfl
    | cons c cs => exact .inr ⟨String.ofList cs, by simp⟩
  · exact .inr ⟨String.ofList cs, by simp [String.ext_iff, hcs]⟩

/-- Joining only writes behind the path of the directory, be it a name, or a slash and a name. -/
theorem exists_join_eq (directory name : String) :
    ∃ rest, join directory name = directory ++ rest := by
  rw [join]
  -- No directory, one whose path ends with a slash, and one whose path does not.
  split_ifs with hempty
  · exact ⟨name, by simp_all⟩
  · exact ⟨name, rfl⟩
  · exact ⟨"/" ++ name, String.append_assoc⟩

/-- So does joining several names one after the other, as going down into a tree of directories
does. -/
theorem exists_foldl_join_eq (names : List String) (directory : String) :
    ∃ rest, names.foldl join directory = directory ++ rest := by
  induction names generalizing directory with
  | nil => exact ⟨"", String.append_empty.symm⟩
  | cons name names ih =>
    obtain ⟨first, hfirst⟩ := exists_join_eq directory name
    obtain ⟨rest, hrest⟩ := ih (join directory name)
    exact ⟨first ++ rest, by rw [List.foldl_cons, hrest, hfirst, String.append_assoc]⟩

/-- A name that is joined to a path becomes its last segment. If the path ends with a slash, then
the name stands in the place of the empty segment behind the slash. -/
theorem segments_join {directory name : String} (hdirectory : directory ≠ "")
    (hname : '/' ∉ name.toList) :
    segments (join directory name) = segments directory ++ [name] ∨
      ∃ front, segments directory = front ++ [""] ∧
        segments (join directory name) = front ++ [name] := by
  rw [join, if_neg (by simpa using hdirectory)]
  split
  case isTrue hslash =>
    right
    rw [segments_eq, segments_eq, afterRoot_append hdirectory]
    -- The root alone has nothing behind it, and any other path has the slash behind something.
    obtain hroot | ⟨front, hfront⟩ := afterRoot_of_getLast? hslash
    · refine ⟨[], ?_, ?_⟩
      · rw [hroot]
        rfl
      · rw [hroot, String.empty_append, Text.pieces_of_not_mem hname, List.nil_append]
    · refine ⟨Text.pieces '/' front, ?_, ?_⟩
      · rw [hfront, ← String.append_empty (s := front ++ "/"), Text.pieces_append rfl]
        rfl
      · rw [hfront, Text.pieces_append rfl, Text.pieces_of_not_mem hname]
  case isFalse hslash =>
    left
    rw [String.append_assoc, segments_eq, segments_eq, afterRoot_append hdirectory,
      ← String.append_assoc, Text.pieces_append rfl, Text.pieces_of_not_mem hname]

/-! ### Extensions -/

/-- The extension of a name starts behind the last full stop, unless nothing is in front of that.
Then the name only starts with a full stop and has no extension. -/
theorem extension?_of_fileName? {path stem ext : String}
    (hname : fileName? path = some (stem ++ "." ++ ext)) (hext : '.' ∉ ext.toList) :
    extension? path = if stem = "" then none else some ext := by
  have hpieces : (Text.pieces '.' (stem ++ "." ++ ext)).reverse
      = ext :: (Text.pieces '.' stem).reverse := by
    rw [Text.pieces_append rfl, Text.pieces_of_not_mem hext, List.reverse_append]
    rfl
  rw [extension?, hname, Option.bind_eq_bind, Option.bind_some, hpieces]
  cases hstem : (Text.pieces '.' stem).reverse with
  | nil => exact absurd (List.reverse_eq_nil_iff.mp hstem) (Text.pieces_ne_nil '.' stem)
  | cons front others =>
    -- A single empty piece in front of the extension is what is left of an empty stem.
    have hempty : others = [] ∧ front = "" ↔ stem = "" := by
      rw [← @Text.pieces_eq_singleton_empty_iff '.' stem, List.reverse_eq_cons_iff.mp hstem]
      simp [List.append_eq_singleton_iff]
    simp only [Bool.and_eq_true, List.isEmpty_iff, String.isEmpty_iff, hempty]

/-- A path has an extension exactly if its last name is a stem that is not empty, a full stop, and
the extension, which has no full stop in it. -/
theorem extension?_eq_some_iff {path ext : String} :
    extension? path = some ext ↔
      ∃ stem, stem ≠ "" ∧ '.' ∉ ext.toList ∧ fileName? path = some (stem ++ "." ++ ext) := by
  constructor
  · intro h
    obtain ⟨name, hname, hlast⟩ := Option.bind_eq_some_iff.mp h
    have hmem : '.' ∈ name.toList := by
      by_contra hmem
      simp [Text.pieces_of_not_mem hmem] at hlast
    -- So the name is what the other direction starts from, cut at its last full stop.
    obtain ⟨front, back, hsplit, hback⟩ := Text.exists_last_of_mem hmem
    have hname' : fileName? path = some (String.ofList front ++ "." ++ String.ofList back) := by
      rw [hname, Option.some_inj, String.ext_iff, hsplit]
      simp
    have hfound := extension?_of_fileName? hname' (by simpa using hback)
    rw [h] at hfound
    split at hfound
    · contradiction
    · obtain rfl := Option.some.inj hfound
      exact ⟨_, ‹_›, by simpa using hback, hname'⟩
  · rintro ⟨stem, hstem, hext, hname⟩
    rw [extension?_of_fileName? hname hext, if_neg hstem]

end Path

end WorkflowLint
