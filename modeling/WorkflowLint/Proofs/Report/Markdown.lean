import Mathlib.Data.List.Infix
import WorkflowLint.Report.Markdown

/-!
# `WorkflowLint.Proofs.Report.Markdown`: what becomes of texts in tables

The name of a workflow and the names and versions of packages can be any text, and a report in
Markdown shows them in the cells of tables (`tabled`). A reader takes a table apart line by line, and
a line at its bars. A bar with an odd number of backslashes in front of it is escaped and does not
count. `cells` reads a line in this way, and `Survives` says that a row read in this way gives back
the two texts it was made of.

The report writes a backslash in front of every bar. This can be undone (`unescaped_cell`), but it
does not always escape the bar: a bar that has an odd number of backslashes in the text itself has
an even number in the cell and cuts the cell in two (`barsAfter_cell`). Line breaks are left as they
are (`mem_cell_iff`). `markdown_survives` says that nothing else goes wrong.
-/

set_option autoImplicit false

namespace WorkflowLint.Report

/-! ### Bars -/

/-- Whether a bar is escaped by what stands in front of it, which is given in reverse: it ends with
an odd number of backslashes. -/
def escapes (front : List Char) : Bool := (front.takeWhile (· == '\\')).length % 2 == 1

/-- One more backslash in front changes odd to even and even to odd. A bar that was escaped by
what stands in front of it is therefore freed by another backslash. -/
@[simp]
theorem escapes_backslash (front : List Char) : escapes ('\\' :: front) = !escapes front := by
  rw [escapes, escapes, List.takeWhile_cons_of_pos rfl, List.length_cons]
  -- Even and odd change places, so each case is one computation.
  obtain h | h := Nat.mod_two_eq_zero_or_one (front.takeWhile (· == '\\')).length
  · simp [Nat.add_mod, h]
  · simp [Nat.add_mod, h]

/-- Any other character ends the run of backslashes, so nothing right behind it is escaped,
whatever stands further in front. -/
theorem escapes_cons {c : Char} (h : c ≠ '\\') (front : List Char) :
    escapes (c :: front) = false := by
  rw [escapes, List.takeWhile_cons_of_neg (by simpa using h)]
  rfl

/-- Of what stands in front, only whether it escapes matters for what follows. The count of
backslashes itself need not be kept, as long as its parity is. -/
theorem escapes_congr {front front' : List Char} (h : escapes front = escapes front') (c : Char) :
    escapes (c :: front) = escapes (c :: front') := by
  by_cases hc : c = '\\'
  · rw [hc, escapes_backslash, escapes_backslash, h]
  · rw [escapes_cons hc, escapes_cons hc]

/-- How many bars of a text are escaped, or how many are not. What stands in front of the text is
given in reverse. -/
def barsAfter (escaped : Bool) (front : List Char) : List Char → ℕ
  | [] => 0
  | c :: s =>
    (if c = '|' ∧ escapes front = escaped then 1 else 0) + barsAfter escaped (c :: front) s

/-- How many bars of a text are escaped in the text itself. -/
def escapedBars (s : String) : ℕ := barsAfter true [] s.toList

/-- Bars are counted piece by piece: those of the second piece are counted with the first piece in
front of it. The induction goes along the first piece and moves its characters to the front. -/
theorem barsAfter_append (escaped : Bool) (front s t : List Char) :
    barsAfter escaped front (s ++ t)
      = barsAfter escaped front s + barsAfter escaped (s.reverse ++ front) t := by
  induction s generalizing front with
  | nil => simp [barsAfter]
  | cons c s ih =>
    -- The character moves from the text to the front, where the hypothesis has it.
    rw [List.cons_append, barsAfter, barsAfter, ih, List.reverse_cons, List.append_assoc,
      List.singleton_append, Nat.add_assoc]

/-- Two fronts that escape alike lead to the same count, since from then on they are extended by
the same characters. -/
theorem barsAfter_congr {escaped : Bool} {front front' : List Char}
    (h : escapes front = escapes front') (s : List Char) :
    barsAfter escaped front s = barsAfter escaped front' s := by
  induction s generalizing front front' with
  | nil => rfl
  | cons c s ih => rw [barsAfter, barsAfter, h, ih (escapes_congr h c)]

/-! ### Cells -/

/-- A text cut at the bars that are not escaped. What stands in front of the text is given in
reverse. -/
def cutBars (front : List Char) : List Char → List (List Char)
  | [] => [[]]
  | c :: s =>
    if c = '|' ∧ escapes front = false then [] :: cutBars (c :: front) s
    else (cutBars (c :: front) s).modifyHead (c :: ·)

/-- The cells of a line of a table, which are between its outer bars. -/
def cells (line : String) : List String :=
  (cutBars [] line.toList).tail.dropLast.map String.ofList

example : cells "| a\\|b | c\\\\|d |" = [" a\\|b ", " c\\\\", "d "] := by decide +kernel

/-- Every bar that is not escaped makes one piece more, so the number of cells of a line can be
counted without cutting it. -/
theorem length_cutBars (front s : List Char) :
    (cutBars front s).length = barsAfter false front s + 1 := by
  induction s generalizing front with
  | nil => rfl
  | cons c s ih =>
    rw [cutBars, barsAfter]
    split
    -- The bar is a cut.
    · rw [List.length_cons, ih, Nat.add_comm 1]
    · rw [List.length_modifyHead, ih, Nat.zero_add]

/-- A stretch without a bar that is not escaped is left whole and becomes the beginning of the
first piece of what follows. -/
theorem cutBars_append {front s : List Char} (h : barsAfter false front s = 0) (t : List Char) :
    cutBars front (s ++ t) = (cutBars (s.reverse ++ front) t).modifyHead (s ++ ·) := by
  induction s generalizing front with
  | nil => exact List.modifyHead_id.symm ▸ rfl
  | cons c s ih =>
    rw [barsAfter, Nat.add_eq_zero_iff] at h
    obtain ⟨hc, hs⟩ := h
    -- No bar of the stretch is a cut, in particular not the first character.
    have hnot : ¬(c = '|' ∧ escapes front = false) := by simpa using hc
    rw [List.cons_append, cutBars, if_neg hnot, ih hs, List.reverse_cons, List.append_assoc,
      List.singleton_append, List.modifyHead_modifyHead]
    rfl

/-- What stands in a cell, with a blank on either side. -/
def spaced (t : List Char) : List Char := ' ' :: (t ++ [' '])

/-- A cell ends with a blank, so the bar behind it is never escaped by what is in the cell. -/
theorem escapes_spaced (t front : List Char) : escapes ((spaced t).reverse ++ front) = false := by
  have hreverse : (spaced t).reverse ++ front = ' ' :: (t.reverse ++ ' ' :: front) := by
    simp [spaced]
  rw [hreverse, escapes_cons (by decide)]

/-- The blanks keep what stands in front of a cell from escaping anything in it: bars are counted
in the cell as if nothing stood there. -/
theorem barsAfter_spaced (front t : List Char) :
    barsAfter false front (spaced t) = barsAfter false [] t := by
  have hblank : escapes (' ' :: front) = escapes [] := escapes_cons (by decide) front
  rw [spaced, barsAfter, barsAfter_append, barsAfter_congr hblank]
  simp [barsAfter]

/-- A cell and the bar that closes it: to the bars of the cell comes the closing one, and then
those of what follows. -/
theorem barsAfter_spaced_bar (front t s : List Char) :
    barsAfter false front (spaced t ++ '|' :: s) = barsAfter false [] t +
      (1 + barsAfter false ('|' :: ((spaced t).reverse ++ front)) s) := by
  rw [barsAfter_append, barsAfter_spaced, barsAfter, if_pos ⟨rfl, escapes_spaced t front⟩]

/-- If a cell has no bar that is not escaped, then the first cut is at the bar that closes it, and
the cell comes out whole, with its blanks. -/
theorem cutBars_spaced_bar {t : List Char} (h : barsAfter false [] t = 0) (front s : List Char) :
    cutBars front (spaced t ++ '|' :: s)
      = spaced t :: cutBars ('|' :: ((spaced t).reverse ++ front)) s := by
  rw [cutBars_append ((barsAfter_spaced front t).trans h), cutBars,
    if_pos ⟨rfl, escapes_spaced t front⟩, List.modifyHead_cons, List.append_nil]

/-! ### Escaping -/

/-- A list of characters with a bar for every bar that has a backslash in front of it. -/
def unescapedIn : List Char → List Char
  | '\\' :: '|' :: s => '|' :: unescapedIn s
  | c :: s => c :: unescapedIn s
  | [] => []

/-- A text with a bar for every bar that has a backslash in front of it. -/
def unescaped (s : String) : String := String.ofList (unescapedIn s.toList)

/-- A character that no bar follows is kept. In particular a backslash stays if what follows is
something else. -/
theorem unescapedIn_cons {c : Char} {s : List Char} (h : s.head? ≠ some '|') :
    unescapedIn (c :: s) = c :: unescapedIn s := by
  rw [unescapedIn]
  -- Only in front of a bar is the backslash taken away.
  rintro s' - rfl
  exact h rfl

/-- The text of a cell, as a list of characters, has two characters for every bar and one for
every other character. -/
theorem toList_cell (s : String) :
    (cell s).toList = Text.substituteIn '|' ['\\', '|'] s.toList :=
  String.toList_ofList

/-- Escaping goes character by character. The lemma unfolds it once, which is the step of the
inductions below. -/
theorem substituteIn_bar_cons (c : Char) (s : List Char) :
    Text.substituteIn '|' ['\\', '|'] (c :: s)
      = (if c = '|' then ['\\', '|'] else [c]) ++ Text.substituteIn '|' ['\\', '|'] s :=
  List.flatMap_cons

/-- No cell starts with a bar, because a bar at the start gets a backslash in front of it. So a
backslash that belongs to the text is never taken for an escape when a cell is read back. -/
theorem head?_substituteIn_bar (s : List Char) :
    (Text.substituteIn '|' ['\\', '|'] s).head? ≠ some '|' := by
  cases s with
  | nil => exact nofun
  | cons c s =>
    rw [substituteIn_bar_cons]
    split
    case isTrue => simp
    case isFalse hc => simpa using hc

/-- What is written into a cell can be read back: undoing the escapes gives the text, whatever
bars and backslashes it has. -/
theorem unescaped_cell (s : String) : unescaped (cell s) = s := by
  have hin (s : List Char) : unescapedIn (Text.substituteIn '|' ['\\', '|'] s) = s := by
    induction s with
    | nil => rfl
    | cons c s ih =>
      rw [substituteIn_bar_cons]
      split
      -- The two characters for a bar are read as one again.
      case isTrue hc => exact congrArg₂ List.cons hc.symm ih
      case isFalse =>
        rw [List.singleton_append, unescapedIn_cons (head?_substituteIn_bar s), ih]
  rw [unescaped, toList_cell, hin, String.ofList_toList]

/-- Escaping leaves the other characters alone: apart from backslashes, a cell has the characters
of its text and no others. Line breaks are among them. -/
theorem mem_cell_iff {c : Char} (h : c ≠ '\\') {s : String} :
    c ∈ (cell s).toList ↔ c ∈ s.toList := by
  rw [toList_cell, Text.substituteIn, List.mem_flatMap]
  constructor
  · rintro ⟨x, hx, hc⟩
    split at hc
    -- A bar became a backslash and a bar; the character is not the backslash.
    case isTrue heq => simp_all
    case isFalse => simp_all
  · intro hc
    refine ⟨c, hc, ?_⟩
    split
    case isTrue heq => simp [heq]
    case isFalse => exact List.mem_singleton_self c

/-- The bars of a cell that are not escaped are those that were escaped in the text. The two
fronts are what has been written and what has been read, and the invariant is that they escape
alike. -/
theorem barsAfter_cell {front front' : List Char} (h : escapes front = escapes front')
    (s : List Char) :
    barsAfter false front (Text.substituteIn '|' ['\\', '|'] s) = barsAfter true front' s := by
  induction s generalizing front front' with
  | nil => rfl
  | cons c s ih =>
    rw [substituteIn_bar_cons]
    by_cases hc : c = '|'
    · -- The new backslash changes whether the number is odd.
      have hbar : escapes ('|' :: '\\' :: front) = escapes ('|' :: front') := by
        rw [escapes_cons (by decide), escapes_cons (by decide)]
      subst hc
      show barsAfter false front ('\\' :: '|' :: Text.substituteIn '|' ['\\', '|'] s) = _
      rw [barsAfter, barsAfter, barsAfter, escapes_backslash, h, ih hbar]
      simp
    · rw [if_neg hc, List.singleton_append, barsAfter, barsAfter, ih (escapes_congr h c)]
      simp [hc]

/-! ### Rows -/

/-- A text without the characters that end a line in Markdown. -/
def Unbroken (s : String) : Prop := '\n' ∉ s.toList ∧ '\r' ∉ s.toList

instance (s : String) : Decidable (Unbroken s) :=
  inferInstanceAs (Decidable ('\n' ∉ s.toList ∧ '\r' ∉ s.toList))

/-- A row of a table with two texts, without the line break at its end. -/
def rowLine (l r : String) : String := "| " ++ cell l ++ " | " ++ cell r ++ " |"

/-- A row gives its texts back: it is a single line with two cells, and in these the texts stand
with blanks around them and with their bars escaped. -/
def Survives (l r : String) : Prop :=
  Unbroken (rowLine l r) ∧ ∃ left right,
    cells (rowLine l r) = [" " ++ left ++ " ", " " ++ right ++ " "] ∧
    unescaped left = l ∧ unescaped right = r

/-- A text that can stand in a table. -/
structure Plain (s : String) : Prop where
  unbroken : Unbroken s
  not_escaped : escapedBars s = 0

/-- A row of the report is the line and a line break, which ends it. -/
theorem row_cell (l r : String) : row (cell l) (cell r) = rowLine l r ++ "\n" := by
  refine String.toList_inj.mp ?_
  simp [row, rowLine]

/-- The characters of a row: a bar, and two cells that each have a bar behind them. Cells are cut
along this form. -/
theorem toList_rowLine (l r : String) :
    (rowLine l r).toList
      = '|' :: (spaced (cell l).toList ++ '|' :: (spaced (cell r).toList ++ ['|'])) := by
  simp [rowLine, spaced]

/-- Whether a row is a single line depends on its texts alone, as neither the bars and blanks of
the table nor the escapes break lines. -/
theorem unbroken_rowLine_iff {l r : String} :
    Unbroken (rowLine l r) ↔ Unbroken l ∧ Unbroken r := by
  have hmem {c : Char} (hbar : c ≠ '|') (hblank : c ≠ ' ') (hback : c ≠ '\\') :
      c ∈ (rowLine l r).toList ↔ c ∈ l.toList ∨ c ∈ r.toList := by
    rw [toList_rowLine]
    simp [spaced, hbar, hblank, mem_cell_iff hback]
  rw [Unbroken, Unbroken, Unbroken, hmem (by decide) (by decide) (by decide),
    hmem (by decide) (by decide) (by decide)]
  tauto

/-- The bars that cut a cell apart are counted in the text it was made of, where they are the
escaped ones. -/
theorem barsAfter_toList_cell (s : String) :
    barsAfter false [] (cell s).toList = escapedBars s := by
  rw [toList_cell, barsAfter_cell rfl, escapedBars]

/-- A bar that was escaped in a text makes a cell more. A row should have two cells, so this
counts exactly how many there are too many. -/
theorem length_cells_rowLine (l r : String) :
    (cells (rowLine l r)).length = 2 + escapedBars l + escapedBars r := by
  rw [cells, List.length_map, List.length_dropLast, List.length_tail, length_cutBars,
    toList_rowLine, barsAfter, if_pos ⟨rfl, rfl⟩, barsAfter_spaced_bar, barsAfter_spaced_bar,
    barsAfter_toList_cell, barsAfter_toList_cell, barsAfter]
  omega

/-- If no bar was escaped in either text, then the row has the two cells that were written, each
with blanks around it. -/
theorem cells_rowLine {l r : String} (hl : escapedBars l = 0) (hr : escapedBars r = 0) :
    cells (rowLine l r) = [" " ++ cell l ++ " ", " " ++ cell r ++ " "] := by
  have hspaced (s : String) : String.ofList (spaced (cell s).toList) = " " ++ cell s ++ " " := by
    refine String.toList_inj.mp ?_
    simp [spaced]
  rw [← barsAfter_toList_cell] at hl hr
  rw [cells, toList_rowLine, cutBars, if_pos ⟨rfl, rfl⟩, cutBars_spaced_bar hl,
    cutBars_spaced_bar hr, ← hspaced, ← hspaced]
  rfl

/-- A row gives its texts back exactly if both are plain. One direction counts cells, as two of
them leave no room for an escaped bar; the other one reads the cells back. -/
theorem survives_iff {l r : String} : Survives l r ↔ Plain l ∧ Plain r := by
  rw [Survives, unbroken_rowLine_iff]
  constructor
  -- Only the number of cells is used of what they are.
  · rintro ⟨⟨hl, hr⟩, left, right, hcells, -, -⟩
    have hlength := length_cells_rowLine l r
    rw [hcells, List.length_cons, List.length_singleton] at hlength
    exact ⟨⟨hl, by omega⟩, ⟨hr, by omega⟩⟩
  · rintro ⟨hl, hr⟩
    exact ⟨⟨hl.unbroken, hr.unbroken⟩, cell l, cell r, cells_rowLine hl.not_escaped hr.not_escaped,
      unescaped_cell l, unescaped_cell r⟩

/-! ### Reports -/

/-- The rows of a workflow with arbitrary texts: its name among the figures, and its packages. -/
def tabled (a : Analysis) : List (String × String) :=
  ("Workflow", a.workflowName) :: a.dependencies.entries

/-- Each of several lines starts where another one ends, so it stands in the whole with a line
break on either side of it. -/
theorem line_infix_flatMap {α : Type} (line : α → List Char) {x : α} {l : List α} (h : x ∈ l) :
    '\n' :: (line x ++ ['\n']) <:+: '\n' :: l.flatMap fun y => line y ++ ['\n'] := by
  induction l with
  | nil => exact absurd h List.not_mem_nil
  | cons y l ih =>
    rw [List.flatMap_cons]
    obtain rfl | hmem := List.mem_cons.mp h
    · exact (List.prefix_append ('\n' :: (line x ++ ['\n'])) _).isInfix
    · refine (ih hmem).trans ⟨'\n' :: line y, [], ?_⟩
      simp

/-- What stands in a text stands in it with anything behind it. -/
theorem infix_of_left {x : List Char} {s : String} (h : x <:+: s.toList) (t : String) :
    x <:+: (s ++ t).toList := by
  rw [String.toList_append]
  exact h.trans (List.prefix_append _ _).isInfix

/-- What stands in a text stands in it with anything in front of it. -/
theorem infix_of_right {x : List Char} {t : String} (h : x <:+: t.toList) (s : String) :
    x <:+: (s ++ t).toList := by
  rw [String.toList_append]
  exact h.trans (List.suffix_append _ _).isInfix

/-- The row with the name of the workflow is a line of the table of figures, right below the line
that separates its head from its body. -/
theorem rowLine_infix_figures (a : Analysis) :
    '\n' :: ((rowLine "Workflow" a.workflowName).toList ++ ['\n']) <:+: (figures a).toList := by
  have hrow : row "Workflow" (cell a.workflowName)
      = rowLine "Workflow" a.workflowName ++ "\n" := by
    rw [← row_cell, show cell "Workflow" = "Workflow" by decide]
  have hfirst : '\n' :: ((rowLine "Workflow" a.workflowName).toList ++ ['\n']) <:+:
      ("| | |\n|---|---|\n" ++ row "Workflow" (cell a.workflowName)).toList := by
    refine ⟨"| | |\n|---|---|".toList, [], ?_⟩
    simp [hrow]
  unfold figures
  -- The other rows stand behind the first one.
  repeat first | with_reducible exact hfirst | refine infix_of_left ?_ _

/-- Each package of a workflow has its row in the table of packages, as a line of its own. -/
theorem rowLine_infix_dependenciesText {packages : Table String} {e : String × String}
    (h : e ∈ packages.entries) :
    '\n' :: ((rowLine e.1 e.2).toList ++ ['\n']) <:+: (dependenciesText packages).toList := by
  have hrows : (String.join (packages.entries.map fun e => row (cell e.1) (cell e.2))).toList
      = packages.entries.flatMap fun e => (rowLine e.1 e.2).toList ++ ['\n'] := by
    simp [row_cell, List.flatMap_map]
  have hempty : packages.isEmpty = false := by
    rw [Table.isEmpty, List.isEmpty_eq_false_iff]
    exact List.ne_nil_of_mem h
  refine (line_infix_flatMap (fun e : String × String => (rowLine e.1 e.2).toList) h).trans ?_
  refine ⟨"### Dependencies\n\n| Package | Version |\n|---|---|".toList, ['\n'], ?_⟩
  simp [dependenciesText, hempty, ← hrows]

/-- The rows of a workflow stand in its section, each on lines of its own. -/
theorem rowLine_infix_analysisText {a : Analysis} {l r : String} (h : (l, r) ∈ tabled a) :
    '\n' :: ((rowLine l r).toList ++ ['\n']) <:+: (analysisText a).toList := by
  unfold analysisText
  obtain heq | hmem := List.mem_cons.mp h
  · obtain ⟨rfl, rfl⟩ := Prod.mk.inj heq
    have hfigures := rowLine_infix_figures a
    repeat first | with_reducible exact infix_of_right hfigures _ | refine infix_of_left ?_ _
  · have hpackages := rowLine_infix_dependenciesText hmem
    repeat first | with_reducible exact infix_of_right hpackages _ | refine infix_of_left ?_ _

/-- What stands in the section of a workflow stands in the report, so every row of a workflow is
on lines of its own there as well. -/
theorem rowLine_infix_markdown {stamp : Stamp} {analyses : List Analysis} {a : Analysis}
    (ha : a ∈ analyses) {l r : String} (h : (l, r) ∈ tabled a) :
    '\n' :: ((rowLine l r).toList ++ ['\n']) <:+: (markdown stamp analyses).toList := by
  have hjoin : (analysisText a).toList <:+: (String.join (analyses.map analysisText)).toList := by
    rw [String.toList_join, List.flatMap_def]
    exact List.infix_of_mem_flatten (List.mem_map_of_mem (List.mem_map_of_mem ha))
  exact infix_of_right ((rowLine_infix_analysisText h).trans hjoin) _

/-- A name, or a package with its version, stands in the report as a row on lines of its own. The
row gives its texts back exactly if neither has a line break or a bar that is escaped already. The
escapes can always be undone; but a line break goes through to the row, and a bar that is escaped
already makes another cell. -/
theorem markdown_survives (stamp : Stamp) {analyses : List Analysis} {a : Analysis}
    (ha : a ∈ analyses) {l r : String} (h : (l, r) ∈ tabled a) :
    '\n' :: ((rowLine l r).toList ++ ['\n']) <:+: (markdown stamp analyses).toList ∧
    (Survives l r ↔ Plain l ∧ Plain r) ∧
    (Unbroken (rowLine l r) ↔ Unbroken l ∧ Unbroken r) ∧
    (cells (rowLine l r)).length = 2 + escapedBars l + escapedBars r ∧
    unescaped (cell l) = l ∧ unescaped (cell r) = r :=
  ⟨rowLine_infix_markdown ha h, survives_iff, unbroken_rowLine_iff, length_cells_rowLine l r,
    unescaped_cell l, unescaped_cell r⟩

/-- An analysis with a line break in the name and a bar that is escaped already in the name of a
package. -/
def brokenAnalysis : Analysis where
  file := "Main.xaml"
  workflowName := "Invoice\nBot"
  workflowPurpose := ""
  activities := []
  declared := []
  issues := []
  recommendations := []
  dependencies := .ofList [("Mail", "[1.2|2.0]"), ("a\\|b", "1")]
  urls := .empty
  connections := .empty
  components := .empty
  summary := ""
  healthScore := Float.ofNat 100

/-- The name breaks its row, and one of the packages has three cells in its row. The row of the
other package gives it back, with the bar in its version. -/
theorem markdown_survives_brokenAnalysis :
    ¬Unbroken (rowLine "Workflow" brokenAnalysis.workflowName) ∧
      ¬Survives "Workflow" brokenAnalysis.workflowName ∧
      (cells (rowLine "a\\|b" "1")).length = 3 ∧ ¬Survives "a\\|b" "1" ∧
      Survives "Mail" "[1.2|2.0]" := by
  have hname := markdown_survives ⟨0, 0⟩ (List.mem_singleton_self brokenAnalysis)
    (List.mem_cons_self : ("Workflow", "Invoice\nBot") ∈ tabled brokenAnalysis)
  have hcut := markdown_survives ⟨0, 0⟩ (List.mem_singleton_self brokenAnalysis)
    (by decide +kernel : ("a\\|b", "1") ∈ tabled brokenAnalysis)
  have hsound := markdown_survives ⟨0, 0⟩ (List.mem_singleton_self brokenAnalysis)
    (by decide +kernel : ("Mail", "[1.2|2.0]") ∈ tabled brokenAnalysis)
  refine ⟨fun h => ?_, fun h => ?_, ?_, fun h => ?_, ?_⟩
  · exact absurd (hname.2.2.1.mp h).2 (by decide)
  · exact absurd (hname.2.1.mp h).2.unbroken (by decide)
  · rw [hcut.2.2.2.1]
    decide
  · exact absurd (hcut.2.1.mp h).1.not_escaped (by decide)
  · exact hsound.2.1.mpr ⟨⟨by decide, by decide⟩, by decide, by decide⟩

end WorkflowLint.Report
