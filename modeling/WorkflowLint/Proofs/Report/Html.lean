import Mathlib.Data.List.Forall2
import WorkflowLint.Report.Html

/-!
# `WorkflowLint.Proofs.Report.Html`: no text can add a tag to a page

`tags` lists the tags of a page, each from a `<` to the next `>`. `tags_html` says
that two pages have the same tags whenever their analyses agree in what decides
the markup: the ratings, the severities of the issues in the order of the table,
and how many recommendations, variables, packages and addresses there are. Every
text in them, and the moment of the report, may differ.

A page is a list of pieces, and the argument has two halves.

* Each piece leaves the page outside of all tags. Markup closes the tags that it
  opens; texts are escaped, and what the tool writes as it is (labels, numbers,
  dates and the style sheet) holds no `<`. So the tags of a page are those of its
  markup: `tags_render`, for pieces that are `Sound`.
* The markup of a page is decided by what `SameMarkup` compares:
  `markup_pagePieces`.

Literals are opened with `String.ofList`, by which the kernel knows them; asking a
literal for its list of characters would decode it byte by byte.
-/

set_option autoImplicit false

namespace WorkflowLint.Report

/-! ### Tags -/

/-- The tags in a list of characters. The tag that is open, if there is one, is
held in reverse. -/
def tagsFrom : Option (List Char) → List Char → List (List Char)
  | _, [] => []
  | none, c :: rest => if c = '<' then tagsFrom (some [c]) rest else tagsFrom none rest
  | some tag, c :: rest =>
    if c = '>' then (c :: tag).reverse :: tagsFrom none rest else tagsFrom (some (c :: tag)) rest

/-- The tags of a page, each from a `<` to the next `>`. -/
def tags (page : String) : List String := (tagsFrom none page.toList).map String.ofList

example : tags "a < b <c d='>'>e</c> f" = ["< b <c d='>", "</c>"] := by decide +kernel

/-- Whether a tag is open behind a list of characters, if one is in front of it or
not. -/
def isInside : Bool → List Char → Bool
  | inside, [] => inside
  | true, c :: rest => isInside (c ≠ '>') rest
  | false, c :: rest => isInside (c = '<') rest

/-- Behind two lists a tag is open if one is behind the second, which is read on from where the
first one ends. -/
theorem isInside_append (inside : Bool) (xs ys : List Char) :
    isInside inside (xs ++ ys) = isInside (isInside inside xs) ys := by
  induction xs generalizing inside with
  | nil => rfl
  | cons c xs ih => cases inside <;> exact ih _

/-- Where no tag is open behind a list, what follows has its own tags. -/
theorem tagsFrom_append (xs ys : List Char) (tag? : Option (List Char))
    (h : isInside tag?.isSome xs = false) :
    tagsFrom tag? (xs ++ ys) = tagsFrom tag? xs ++ tagsFrom none ys := by
  -- The induction runs over the first list, with any tag open in front of it.
  induction xs generalizing tag? with
  | nil =>
      cases tag? with
      | none => rfl
      | some tag => cases h
  | cons c xs ih =>
      rw [List.cons_append]
      cases tag? with
      | none =>
          -- Outside of a tag, only an opening bracket changes anything; inside, only a closing
          -- one.
          by_cases hc : c = '<'
          · simp only [tagsFrom, hc, if_true]
            exact ih (some ['<']) (by simpa [isInside, hc] using h)
          · simp only [tagsFrom, hc, if_false]
            exact ih none (by simpa [isInside, hc] using h)
      | some tag =>
          by_cases hc : c = '>'
          · simp only [tagsFrom, hc, if_true, List.cons_append]
            rw [ih none (by simpa [isInside, hc] using h)]
          · simp only [tagsFrom, hc, if_false]
            exact ih (some (c :: tag)) (by simpa [isInside, hc] using h)

/-! ### Texts without tags -/

/-- A text that opens no tag. -/
def Inert (s : String) : Prop := '<' ∉ s.toList

/-- Without a `<` there are no tags, and none is left open. -/
theorem tagsFrom_of_not_mem {l : List Char} (h : '<' ∉ l) :
    tagsFrom none l = [] ∧ isInside false l = false := by
  induction l with
  | nil => exact ⟨rfl, rfl⟩
  | cons c rest ih =>
      rw [List.mem_cons, not_or] at h
      -- The first character opens nothing, so the scan stays outside.
      have hc : c ≠ '<' := Ne.symm h.1
      rw [tagsFrom, if_neg hc, isInside, decide_eq_false hc]
      exact ih h.2

/-- A literal is inert if its characters are. This keeps the kernel from decoding it. -/
theorem inert_literal {l : List Char} (h : '<' ∉ l) : Inert (String.ofList l) := by
  rw [Inert, String.toList_ofList]
  exact h

/-- Inert texts one after the other are inert, so the texts of a page are looked at piece by
piece. -/
theorem Inert.append {s t : String} (hs : Inert s) (ht : Inert t) : Inert (s ++ t) := by
  rw [Inert, String.toList_append, List.mem_append, not_or]
  exact ⟨hs, ht⟩

/-- Digits are inert: none of them opens a tag. -/
theorem not_mem_toDigits (n : Nat) : '<' ∉ Nat.toDigits 10 n := by
  intro h
  exact absurd (Nat.isDigit_of_mem_toDigits (by decide) (by decide) h) (by decide)

/-- Numbers are inert, as they are written with digits only. -/
theorem inert_toString (n : Nat) : Inert (toString n) := by
  rw [Nat.toString_eq_ofList_toDigits]
  exact inert_literal (not_mem_toDigits n)

/-- Numbers with leading zeros are inert, since the zeros are digits too. -/
theorem inert_padded (width n : Nat) : Inert (padded width n) := by
  refine inert_literal ?_
  rw [List.mem_append, not_or]
  refine ⟨fun h => ?_, not_mem_toDigits n⟩
  exact absurd (List.eq_of_mem_replicate h) (by decide)

/-- Scores are inert, also those that are no finite numbers. -/
theorem inert_onePlace (x : Float) : Inert (Decimal.onePlace x) := by
  unfold Decimal.onePlace
  split
  · exact inert_literal (by decide)
  · rename_i negative _
    cases negative with
    | false => exact inert_literal (by decide)
    | true => exact inert_literal (by decide)
  · rename_i negative m q _
    refine .append (.append (.append ?_ (inert_toString _)) (inert_literal (by decide)))
      (inert_toString _)
    cases negative with
    | false => exact inert_literal (by decide)
    | true => exact inert_literal (by decide)

/-- Dates are inert: they consist of digits, dashes, colons and letters, whatever the time is. -/
theorem inert_date (stamp : Stamp) : Inert stamp.date := by
  have hdash : Inert "-" := inert_literal (by decide)
  have hcolon : Inert ":" := inert_literal (by decide)
  -- Both halves of a date are numbers with marks between them.
  have hday : Inert stamp.dayText :=
    (((inert_padded _ _).append hdash).append (inert_padded _ _)).append hdash |>.append
      (inert_padded _ _)
  have htime : Inert stamp.timeText :=
    (((inert_padded _ _).append hcolon).append (inert_padded _ _)).append hcolon |>.append
      (inert_padded _ _)
  exact ((hday.append (inert_literal (by decide))).append htime).append (inert_literal (by decide))

/-- The names of severities are inert, which is seen by looking at each. -/
theorem inert_severity (s : Severity) : Inert s.label := by
  cases s <;> exact inert_literal (by decide)

/-- The names of categories are inert, for the same reason. -/
theorem inert_category (c : Category) : Inert c.label := by
  cases c <;> exact inert_literal (by decide)

/-- The names of ratings are inert, so the heading with the score is. -/
theorem inert_rating (r : Rating) : Inert r.label := by
  cases r <;> exact inert_literal (by decide)

-- The sheet is one literal of some 2500 characters.
set_option maxRecDepth 20000 in
/-- The style sheet is inert: no angle bracket in it could open a tag. -/
theorem inert_styleSheet : Inert styleSheet := inert_literal (by decide +kernel)

/-- A text in which every `<` is written as an inert word is inert. -/
theorem inert_substitute_angle {w : String} (hw : Inert w) (s : String) :
    Inert (Text.substitute '<' w s) := by
  refine inert_literal ?_
  rw [Text.substituteIn, List.mem_flatMap]
  rintro ⟨c, -, hc⟩
  split at hc
  · exact hw hc
  · rename_i hne
    exact hne (List.mem_singleton.mp hc).symm

/-- Writing a character of an inert text as an inert word leaves it inert. -/
theorem Inert.substitute {s w : String} (hs : Inert s) (hw : Inert w) (c : Char) :
    Inert (Text.substitute c w s) := by
  refine inert_literal ?_
  rw [Text.substituteIn, List.mem_flatMap]
  rintro ⟨d, hd, hc⟩
  split at hc
  · exact hw hc
  · exact hs (List.mem_singleton.mp hc ▸ hd)

/-- Escaped texts are inert: once every `<` is gone, no later step brings one. -/
theorem inert_escapeText (s : String) : Inert (escapeText s) := by
  -- What follows the second step brings no angle bracket of its own.
  have hangle := inert_substitute_angle (inert_literal (by decide) : Inert "&lt;")
    (Text.substitute '&' "&amp;" s)
  exact ((hangle.substitute (inert_literal (by decide)) '>').substitute
    (inert_literal (by decide)) '"').substitute (inert_literal (by decide)) '\''

/-! ### Pieces -/

/-- What a literal opens and closes is decided by its characters. -/
theorem isInside_literal {inside behind : Bool} {l : List Char}
    (h : isInside inside l = behind) : isInside inside (String.ofList l).toList = behind := by
  rw [String.toList_ofList]
  exact h

/-- A piece that leaves a page outside of all tags. -/
def Piece.Sound : Piece → Prop
  | .markup s => isInside false s.toList = false
  | .plain s => Inert s
  | .text _ => True

/-- The markup of a piece. -/
def Piece.markup? : Piece → Option String
  | .markup s => some s
  | .plain _ => none
  | .text _ => none

/-- The markup of pieces, in their order. -/
def markupOf (pieces : List Piece) : List String := pieces.filterMap Piece.markup?

/-- No pieces have no markup. This lemma and the next ones let `simp` go through a list of pieces
from the front and keep only the markup. -/
@[simp] theorem markupOf_nil : markupOf [] = [] := rfl

/-- A piece of markup is kept as it is, in its place among the others. -/
@[simp] theorem markupOf_markup (s : String) (rest : List Piece) :
    markupOf (.markup s :: rest) = s :: markupOf rest := rfl

/-- What the tool writes itself is dropped, since it is no markup. -/
@[simp] theorem markupOf_plain (s : String) (rest : List Piece) :
    markupOf (.plain s :: rest) = markupOf rest := rfl

/-- So is every text that comes from a workflow. -/
@[simp] theorem markupOf_text (s : String) (rest : List Piece) :
    markupOf (.text s :: rest) = markupOf rest := rfl

/-- The markup of two lists of pieces is that of the one and then that of the other. -/
@[simp] theorem markupOf_append (ps qs : List Piece) :
    markupOf (ps ++ qs) = markupOf ps ++ markupOf qs :=
  List.filterMap_append

/-- A sound piece has the tags of its markup, and what follows has its own. -/
theorem tagsFrom_shown {p : Piece} (h : p.Sound) (rest : List Char) :
    tagsFrom none (p.shown.toList ++ rest)
      = (markupOf [p]).flatMap (fun s => tagsFrom none s.toList) ++ tagsFrom none rest := by
  cases p with
  | markup s =>
      rw [Piece.shown, tagsFrom_append _ _ none h]
      simp [markupOf, Piece.markup?]
  | plain s =>
      obtain ⟨hnone, hout⟩ := tagsFrom_of_not_mem h
      rw [Piece.shown, tagsFrom_append _ _ none hout, hnone]
      rfl
  | text s =>
      obtain ⟨hnone, hout⟩ := tagsFrom_of_not_mem (inert_escapeText s)
      rw [Piece.shown, tagsFrom_append _ _ none hout, hnone]
      rfl

/-- The tags of sound pieces are the tags of their markup. -/
theorem tags_render {pieces : List Piece} (h : ∀ p ∈ pieces, p.Sound) :
    tags (Piece.render pieces) = (markupOf pieces).flatMap tags := by
  have hchars : tagsFrom none (Piece.render pieces).toList
      = (markupOf pieces).flatMap fun s => tagsFrom none s.toList := by
    rw [Piece.render, String.toList_join, List.flatMap_map]
    induction pieces with
    | nil => rfl
    | cons p rest ih =>
        have hrest := ih fun q hq => h q (List.mem_cons_of_mem _ hq)
        -- The first piece leaves no tag open, so the rest has its own tags.
        rw [List.flatMap_cons, tagsFrom_shown (h p (by simp)), hrest, ← List.flatMap_append,
          markupOf, markupOf, ← List.filterMap_append]
        rfl
  rw [tags, hchars, List.map_flatMap]
  rfl

/-- Pieces with markup between them are sound if all are. -/
theorem sound_separated {separator : String} (hsep : isInside false separator.toList = false)
    {parts : List (List Piece)} (h : ∀ part ∈ parts, ∀ p ∈ part, p.Sound) :
    ∀ p ∈ separated separator parts, p.Sound := by
  induction parts with
  | nil =>
      intro p hp
      cases hp
  | cons part rest ih =>
      have hpart := h part (by simp)
      have hrest := ih fun q hq => h q (List.mem_cons_of_mem _ hq)
      cases rest with
      | nil =>
          intro p hp
          exact hpart p (by simpa [separated] using hp)
      | cons next others =>
          intro p hp
          -- The separator stands between the first part and the others.
          have hsplit : p ∈ part ++ .markup separator :: separated separator (next :: others) := by
            simpa [separated] using hp
          rcases List.mem_append.mp hsplit with hp | hp
          · exact hpart p hp
          · rcases List.mem_cons.mp hp with rfl | hp
            · exact hsep
            · exact hrest p hp

/-- Parts that are all sound may stand with sound markup between them. -/
theorem sound_separated_map {α : Type} {f : α → List Piece} (hf : ∀ x, ∀ p ∈ f x, p.Sound)
    {separator : String} (hsep : isInside false separator.toList = false) (l : List α) :
    ∀ p ∈ separated separator (l.map f), p.Sound := by
  refine sound_separated hsep fun part hpart => ?_
  obtain ⟨x, -, rfl⟩ := List.mem_map.mp hpart
  exact hf x

/-- The markup of lists of pieces with markup between them is decided by the
markup of each list. -/
theorem markupOf_separated (separator : String) (parts : List (List Piece)) :
    markupOf (separated separator parts)
      = ((parts.map markupOf).intersperse [separator]).flatten := by
  induction parts with
  | nil => rfl
  | cons part rest ih =>
      cases rest with
      | nil => simp [separated, markupOf]
      | cons next others =>
          have hsplit : separated separator (part :: next :: others)
              = part ++ .markup separator :: separated separator (next :: others) := by
            simp [separated]
          rw [hsplit, markupOf_append, markupOf_markup, ih]
          simp

/-! ### The pieces of a page are sound -/

/-- Markup that is a literal is sound if its characters close what they open. -/
theorem sound_markup {l : List Char} (h : isInside false l = false) :
    (Piece.markup (String.ofList l)).Sound :=
  isInside_literal h

/-- Markup with a word inside a tag is sound if what stands before the word opens
the tag and what stands behind it closes it. -/
theorem sound_markup_around {l m : List Char} {word : String}
    (hword : isInside true word.toList = true) (hl : isInside false l = true)
    (hm : isInside true m = false) :
    (Piece.markup (String.ofList l ++ word ++ String.ofList m)).Sound := by
  simp only [Piece.Sound, String.toList_append, String.toList_ofList, isInside_append, hl, hword,
    hm]

/-- The name of a severity in a style sheet does not close a tag. -/
theorem isInside_smallLabel (s : Severity) : isInside true s.smallLabel.toList = true := by
  cases s <;> exact isInside_literal (by decide)

/-- The name of a rating in a style sheet does not close a tag. -/
theorem isInside_ratingClass (r : Rating) : isInside true (ratingClass r).toList = true := by
  cases r <;> exact isInside_literal (by decide)

/-- The row of an issue is sound. Its severity stands inside of a tag as a word that closes
nothing; title, place and advice are escaped. -/
theorem sound_issueRow (i : Issue) : ∀ p ∈ issueRow i, p.Sound := by
  -- The tag of the row is opened, goes on through two words and is closed behind the second.
  have hstart : isInside false "<tr class=\"severity-".toList = true := isInside_literal (by decide)
  have hnext : isInside true "\">\n    <td><span class=\"badge ".toList = true :=
    isInside_literal (by decide)
  have hend : isInside true "\">".toList = false := isInside_literal (by decide)
  have hrow : (Piece.markup ("<tr class=\"severity-" ++ i.severity.smallLabel ++
      "\">\n    <td><span class=\"badge " ++ i.severity.smallLabel ++ "\">")).Sound := by
    simp only [Piece.Sound, String.toList_append, isInside_append, hstart, hnext, hend,
      isInside_smallLabel]
  simp only [issueRow, List.forall_mem_cons, List.not_mem_nil, false_implies, implies_true,
    and_true]
  exact ⟨hrow, inert_severity _, sound_markup (by decide), trivial, sound_markup (by decide),
    inert_category _, sound_markup (by decide), trivial, sound_markup (by decide), trivial,
    sound_markup (by decide), trivial, sound_markup (by decide), trivial,
    sound_markup (by decide)⟩

/-- The row of a package is literal markup around two escaped texts. -/
theorem sound_packageRow (entry : String × String) : ∀ p ∈ packageRow entry, p.Sound := by
  simp only [packageRow, List.forall_mem_cons, List.not_mem_nil, false_implies, implies_true,
    and_true]
  exact ⟨sound_markup (by decide), trivial, sound_markup (by decide), trivial,
    sound_markup (by decide)⟩

/-- So is each item of a list. -/
theorem sound_listItems (l : List String) : ∀ p ∈ l.flatMap listItem, p.Sound := by
  intro p hp
  obtain ⟨s, _, hp⟩ := List.mem_flatMap.mp hp
  simp only [listItem, List.mem_cons, List.not_mem_nil, or_false] at hp
  rcases hp with rfl | rfl | rfl
  · exact sound_markup (by decide)
  · trivial
  · exact sound_markup (by decide)

/-- An entry of the legend has the name of a severity inside of a tag and again, with a number,
outside of it. -/
theorem sound_legendItem (a : Analysis) (s : Severity) : ∀ p ∈ legendItem a s, p.Sound := by
  simp only [legendItem, List.forall_mem_cons, List.not_mem_nil, false_implies, implies_true,
    and_true]
  exact ⟨sound_markup_around (isInside_smallLabel s) (by decide) (by decide),
    ((inert_severity s).append (inert_literal (by decide))).append (inert_toString _),
    sound_markup (by decide)⟩

-- Some of the markup runs over ten lines.
set_option maxRecDepth 4000 in
/-- What a page shows of a workflow is sound piece by piece. Scores and counts are plain,
everything that comes from the workflow is escaped. -/
theorem sound_workflowPieces (a : Analysis) : ∀ p ∈ workflowPieces a, p.Sound := by
  have hlegend := sound_separated_map (sound_legendItem a)
    (isInside_literal (by decide) : isInside false "\n            ".toList = false)
    Severity.descending
  have hline : isInside false "\n".toList = false := isInside_literal (by decide)
  have hscore : Inert ("Health Score (" ++ a.rating.label ++ ")") :=
    ((inert_literal (by decide)).append (inert_rating _)).append (inert_literal (by decide))
  simp only [workflowPieces, List.forall_mem_append, List.forall_mem_cons, List.not_mem_nil,
    false_implies, implies_true, and_true, and_assoc]
  exact ⟨sound_markup (by decide), trivial,
    sound_markup_around (isInside_ratingClass _) (by decide) (by decide), inert_onePlace _,
    sound_markup (by decide), hscore, sound_markup (by decide), inert_toString _,
    sound_markup (by decide),
    inert_toString _, sound_markup (by decide), trivial, sound_markup (by decide), trivial,
    sound_markup (by decide), trivial, sound_markup (by decide),
    hlegend, sound_markup (by decide),
    sound_separated_map sound_issueRow hline _, sound_markup (by decide),
    sound_listItems _, sound_markup (by decide),
    sound_listItems _, sound_markup (by decide),
    sound_separated_map sound_packageRow hline _, sound_markup (by decide),
    sound_listItems _, sound_markup (by decide)⟩

set_option maxRecDepth 4000 in
/-- So is the whole page, with its title, style sheet and date around the workflows. -/
theorem sound_pagePieces (stamp : Stamp) (as : List Analysis) :
    ∀ p ∈ pagePieces stamp as, p.Sound := by
  have hworkflows := sound_separated_map sound_workflowPieces
    (isInside_literal (by decide) : isInside false "\n    ".toList = false) as
  have htitle : Inert title := inert_literal (by decide)
  have htool : Inert (toolName ++ " v" ++ toolVersion) :=
    ((inert_literal (by decide)).append (inert_literal (by decide))).append
      (inert_literal (by decide))
  simp only [pagePieces, List.forall_mem_append, List.forall_mem_cons, List.not_mem_nil,
    false_implies, implies_true, and_true, and_assoc]
  exact ⟨sound_markup (by decide), htitle, sound_markup (by decide), inert_styleSheet,
    sound_markup (by decide), htitle, sound_markup (by decide), inert_date stamp,
    sound_markup (by decide), hworkflows, sound_markup (by decide), htool,
    sound_markup (by decide)⟩

/-! ### What decides the markup -/

/-- Two analyses whose pages have the same markup. -/
structure SameMarkup (a b : Analysis) : Prop where
  rating : a.rating = b.rating
  /-- The severities in the order of the table. -/
  severities : (sortedIssues a).map (·.severity) = (sortedIssues b).map (·.severity)
  recommendations : a.recommendations.length = b.recommendations.length
  declared : a.declared.length = b.declared.length
  dependencies : a.dependencies.entries.length = b.dependencies.entries.length
  urls : a.urls.toList.length = b.urls.toList.length

/-- The issues have pairwise the same severities. -/
theorem SameMarkup.issues {a b : Analysis} (h : SameMarkup a b) :
    List.Forall₂ (fun i j => i.severity = j.severity) (sortedIssues a) (sortedIssues b) := by
  have heq := h.severities
  rwa [← List.forall₂_eq_eq_eq, List.forall₂_map_left_iff, List.forall₂_map_right_iff] at heq

/-- The markup of a row is decided by the severity. -/
theorem markupOf_issueRow {i j : Issue} (h : i.severity = j.severity) :
    markupOf (issueRow i) = markupOf (issueRow j) := by
  simp only [issueRow, h, markupOf_markup, markupOf_plain, markupOf_text]

/-- The markup of parts with markup between them is decided by the markup of each
part. -/
theorem markupOf_separated_map {α : Type} {R : α → α → Prop} {f : α → List Piece}
    {l m : List α} (h : List.Forall₂ R l m)
    (hf : ∀ {x y : α}, R x y → markupOf (f x) = markupOf (f y)) (separator : String) :
    markupOf (separated separator (l.map f)) = markupOf (separated separator (m.map f)) := by
  have hparts : (l.map f).map markupOf = (m.map f).map markupOf := by
    rw [List.map_map, List.map_map]
    induction h with
    | nil => rfl
    | cons hxy _ ih =>
        rw [List.map_cons, List.map_cons, ih]
        exact congrArg (· :: _) (hf hxy)
  rw [markupOf_separated, markupOf_separated, hparts]

/-- The markup of the rows of packages is decided by how many there are. -/
theorem markupOf_packageRows (entries : List (String × String)) :
    markupOf (separated "\n" (entries.map packageRow))
      = ((List.replicate entries.length ["<tr><td>", "</td><td>", "</td></tr>"]).intersperse
          ["\n"]).flatten := by
  rw [markupOf_separated, List.map_map, ← List.map_const']
  rfl

/-- The markup of a list is decided by how many items there are. -/
theorem markupOf_listItems (l : List String) :
    markupOf (l.flatMap listItem) = (List.replicate l.length ["<li>", "</li>"]).flatten := by
  induction l with
  | nil => rfl
  | cons s rest ih =>
      rw [List.flatMap_cons, markupOf_append, ih, List.length_cons, List.replicate_succ,
        List.flatten_cons]
      rfl

/-- The markup of the legend is always the same. -/
theorem markupOf_legend (a b : Analysis) (separator : String) :
    markupOf (separated separator (Severity.descending.map (legendItem a)))
      = markupOf (separated separator (Severity.descending.map (legendItem b))) := by
  rw [markupOf_separated, markupOf_separated]
  rfl

/-- The markup for a workflow is decided by its rating, by the severities in the table and by the
lengths of the four lists. -/
theorem markup_workflowPieces {a b : Analysis} (h : SameMarkup a b) :
    markupOf (workflowPieces a) = markupOf (workflowPieces b) := by
  have hissues := markupOf_separated_map h.issues markupOf_issueRow "\n"
  -- Texts and plain words drop out here; the rating and the lists remain.
  simp only [workflowPieces, markupOf_append, markupOf_markup, markupOf_plain, markupOf_text,
    markupOf_nil]
  rw [markupOf_legend a b, hissues, markupOf_packageRows, markupOf_packageRows, h.dependencies]
  simp only [markupOf_listItems, h.rating, h.recommendations, h.declared, h.urls]

/-- The markup of a page is decided by what `SameMarkup` compares. -/
theorem markup_pagePieces (stamp stamp' : Stamp) {as bs : List Analysis}
    (h : List.Forall₂ SameMarkup as bs) :
    markupOf (pagePieces stamp as) = markupOf (pagePieces stamp' bs) := by
  have hworkflows := markupOf_separated_map h markup_workflowPieces "\n    "
  simp only [pagePieces, markupOf_append, markupOf_markup, markupOf_plain, markupOf_nil]
  rw [hworkflows]

/-- Analyses that agree in what decides the markup give pages with the same tags,
whatever their texts are and whenever the pages are made. -/
theorem tags_html (stamp stamp' : Stamp) {as bs : List Analysis}
    (h : List.Forall₂ SameMarkup as bs) : tags (html stamp as) = tags (html stamp' bs) := by
  rw [html, html, tags_render (sound_pagePieces stamp as), tags_render (sound_pagePieces stamp' bs),
    markup_pagePieces stamp stamp' h]

/-- An analysis in which all texts are the same, from the path of the file to the advice on each
issue. -/
def echoingAnalysis (s : String) : Analysis where
  file := s
  workflowName := s
  workflowPurpose := s
  activities := []
  declared := [s]
  issues := [⟨s, .low, .timing, s, s, s, s⟩, ⟨s, .high, .codeSmell, s, s, s, s⟩]
  recommendations := []
  dependencies := .ofList [(s, s)]
  urls := .ofList [s]
  connections := .empty
  components := .empty
  summary := s
  healthScore := Float.ofNat 85

/-- A text of tags, quotes and references adds no tags to a page. -/
theorem tags_html_script :
    List.Forall₂ SameMarkup [echoingAnalysis ""] [echoingAnalysis "<script>'\">&lt;</td>"] ∧
      tags (html ⟨0, 0⟩ [echoingAnalysis ""])
        = tags (html ⟨1, 0⟩ [echoingAnalysis "<script>'\">&lt;</td>"]) := by
  have h : List.Forall₂ SameMarkup [echoingAnalysis ""]
      [echoingAnalysis "<script>'\">&lt;</td>"] :=
    .cons ⟨rfl, by simp [sortedIssues, echoingAnalysis, List.mergeSort, Severity.rank],
      rfl, rfl, rfl, rfl⟩ .nil
  exact ⟨h, tags_html ⟨0, 0⟩ ⟨1, 0⟩ h⟩

end WorkflowLint.Report
