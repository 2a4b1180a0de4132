import Mathlib.Data.List.Infix
import WorkflowLint.Report

/-!
# `WorkflowLint.Proofs.Report.Entries`: what reports show of an issue

A report for terminals is made of spans, a page is made of pieces, and both are texts in the end.
This module says what these texts are for one issue: `terminalEntry`, `markdownEntry` and `pageRow`
spell out all that is shown, and `render_issueSpans`, `issueText_eq` and `render_issueRow` prove it.
An entry names the rule, the title, the location, the description and the solution of its issue. The
severity stands in the entry itself or in the heading above it, and the category is shown in
Markdown and on pages.

The other lemmas put texts together in the way in which spans and pieces are put together: one after
the other (`render_append`, `Piece.render_append`), one for each member of a list
(`render_flatMap`), or with markup between neighbours (`render_separated`).
-/

set_option autoImplicit false

namespace WorkflowLint.Report

/-! ### Reports for terminals -/

/-- The text of spans is the texts of its parts, one after the other. -/
theorem render_append (colored : Bool) (front back : List Span) :
    Span.render colored (front ++ back)
      = Span.render colored front ++ Span.render colored back := by
  rw [Span.render, List.flatMap_append, String.ofList_append]
  rfl

/-- Spans that are made for the members of a list are shown member by member. -/
theorem render_flatMap {α : Type} (colored : Bool) (f : α → List Span) (l : List α) :
    Span.render colored (l.flatMap f)
      = String.join (l.map fun x => Span.render colored (f x)) := by
  refine String.toList_inj.mp ?_
  simp [Span.render, List.flatMap_assoc, List.flatMap_map]

/-- Without spans there is no text. -/
theorem render_nil (colored : Bool) : Span.render colored [] = "" := rfl

/-- A text without a style is shown as it is, with colours and without. -/
theorem render_plain_cons (colored : Bool) (text : String) (rest : List Span) :
    Span.render colored (.plain text :: rest) = text ++ Span.render colored rest := by
  refine String.toList_inj.mp ?_
  simp [Span.render, Span.shown, Span.plain]

/-- Without colours a text with a style is shown as it is, too. -/
theorem render_styled_cons (style : Style) (text : String) (rest : List Span) :
    Span.render false (.styled style text :: rest) = text ++ Span.render false rest := by
  refine String.toList_inj.mp ?_
  simp [Span.render, Span.shown, Span.styled]

/-- Spans that hang on a text are left out together with it. -/
theorem render_unlessEmpty (colored : Bool) (text : String) (spans : List Span) :
    Span.render colored (unlessEmpty text spans)
      = if text = "" then "" else Span.render colored spans := by
  simp only [unlessEmpty, String.isEmpty_iff]
  split
  · rfl
  · rfl

/-- An issue in a report for terminals without colours: the severity, the rule and the title in a
line, with the location in brackets behind them; the description and the solution in lines of their
own. Of these three parts the empty ones are left out. -/
def terminalEntry (i : Issue) : String :=
  "    " ++ i.severity.smallLabel ++ "[" ++ i.rule ++ "]: " ++ i.title ++
  (if i.location = "" then "" else " (" ++ i.location ++ ")") ++
  (if i.description = "" then "" else "\n      " ++ i.description) ++
  (if i.solution = "" then "" else "\n      fix: " ++ i.solution) ++ "\n"

/-- The spans of an issue show its entry: the five texts in their order, with the parts that are
empty left out. -/
theorem render_issueSpans (i : Issue) : Span.render false (issueSpans i) = terminalEntry i := by
  unfold issueSpans terminalEntry
  simp only [render_append, render_unlessEmpty, render_plain_cons, render_styled_cons, render_nil,
    String.append_empty, ← String.append_assoc, String.reduceAppend]

/-! ### Markdown -/

/-- Texts that are made for the members of a list can be put together member by member. -/
theorem join_flatMap {α : Type} (f : α → List String) (l : List α) :
    String.join (l.flatMap f) = String.join (l.map fun x => String.join (f x)) := by
  refine String.toList_inj.mp ?_
  simp [List.flatMap_assoc, List.flatMap_map]

/-- The lines of an issue in Markdown. All of them are shown, also if there is nothing to say. -/
def markdownEntry (i : Issue) : List String :=
  ["- **" ++ i.title ++ "** `" ++ i.rule ++ "`\n",
   "  - Category: " ++ i.category.label ++ "\n",
   "  - Location: " ++ i.location ++ "\n",
   "  - Problem: " ++ i.description ++ "\n",
   "  - Solution: " ++ i.solution ++ "\n"]

/-- The text of an issue is its lines one after the other, and no line holds anything else. -/
theorem issueText_eq (i : Issue) : issueText i = String.join (markdownEntry i) := by
  unfold issueText markdownEntry
  -- The literals are kept apart, as they are in the lines.
  simp only [String.join_cons, String.join_nil, String.append_empty, ← String.append_assoc,
    -String.reduceAppend]

/-! ### Pages -/

/-- The text of pieces is the texts of its parts, one after the other. -/
theorem Piece.render_append (front back : List Piece) :
    Piece.render (front ++ back) = Piece.render front ++ Piece.render back := by
  rw [Piece.render, List.map_append, String.join_append]
  rfl

/-- Parts with markup between them are texts with the markup between them. -/
theorem render_separated (separator : String) (parts : List (List Piece)) :
    Piece.render (separated separator parts) = separator.intercalate (parts.map Piece.render) := by
  induction parts with
  | nil => rfl
  | cons part rest ih =>
      cases rest with
      | nil => simp [separated]
      | cons next others =>
          have hsplit : separated separator (part :: next :: others)
              = part ++ [.markup separator] ++ separated separator (next :: others) := by
            simp [separated]
          have hmark : Piece.render [.markup separator] = separator := by
            simp [Piece.render, Piece.shown]
          rw [hsplit, Piece.render_append, Piece.render_append, ih, hmark]
          simp only [List.map_cons, String.intercalate_cons_cons]

/-- An issue as a row of the table on a page. The class of the row and the badge in it follow the
severity, and what comes from the issue is escaped. -/
def pageRow (i : Issue) : String :=
  "<tr class=\"severity-" ++ i.severity.smallLabel ++ "\">\n    <td><span class=\"badge " ++
    i.severity.smallLabel ++ "\">" ++ i.severity.label ++ "</span></td>\n    <td>" ++
    escapeText i.rule ++ "</td>\n    <td>" ++ i.category.label ++
    "</td>\n    <td class=\"location\">" ++ escapeText i.location ++
    "</td>\n    <td class=\"message\"><strong>" ++ escapeText i.title ++ "</strong><br>" ++
    escapeText i.description ++ "</td>\n    <td>" ++ escapeText i.solution ++ "</td>\n</tr>"

/-- The pieces of an issue show its row, in which each text of the issue is escaped. -/
theorem render_issueRow (i : Issue) : Piece.render (issueRow i) = pageRow i := by
  unfold issueRow pageRow Piece.render
  simp only [Piece.shown, List.map_cons, List.map_nil, String.join_cons, String.join_nil,
    String.append_empty, ← String.append_assoc, -String.reduceAppend]

end WorkflowLint.Report
