import WorkflowLint.Analysis
import WorkflowLint.Decimal.Fixed
import WorkflowLint.Report.Basic
import WorkflowLint.Report.Stamp
import WorkflowLint.Report.StyleSheet

/-!
# `WorkflowLint.Report.Html`: reports as web pages

A page is a list of pieces. Markup is written as it is, and so are the words,
numbers and dates that the tool makes itself; all that may come from a workflow, a
project or a report is text, in which the five characters that mean something in
markup are escaped.
-/

set_option autoImplicit false

namespace WorkflowLint.Report

/-- A text in a page. The ampersand comes first, because the others bring new
ones. -/
def escapeText (s : String) : String :=
  Text.substitute '\'' "&#39;" <| Text.substitute '"' "&quot;" <|
    Text.substitute '>' "&gt;" <| Text.substitute '<' "&lt;" <| Text.substitute '&' "&amp;" s

/-- A piece of a page. -/
inductive Piece where
  | markup (s : String)
  /-- A word, number or date of the tool's own, which is not escaped. -/
  | plain (s : String)
  | text (s : String)
deriving DecidableEq, Repr

/-- A piece as it is written. -/
def Piece.shown : Piece → String
  | markup s => s
  | plain s => s
  | text s => escapeText s

/-- Pieces as they are written. -/
def Piece.render (pieces : List Piece) : String := String.join (pieces.map shown)

/-- Lists of pieces one after the other, with markup between neighbours. -/
def separated (separator : String) (parts : List (List Piece)) : List Piece :=
  (parts.intersperse [.markup separator]).flatten

/-- The name of a rating in style sheets. -/
def ratingClass : Rating → String
  | .excellent => "excellent"
  | .good => "good"
  | .needsImprovement => "poor"

/-- The issues, the worst first, and in their order within a severity. -/
def sortedIssues (a : Analysis) : List Issue :=
  a.issues.mergeSort fun i j => j.severity.rank ≤ i.severity.rank

/-- An issue as a row of a table. -/
def issueRow (i : Issue) : List Piece :=
  let sev := i.severity.smallLabel
  [.markup ("<tr class=\"severity-" ++ sev ++ "\">\n    <td><span class=\"badge " ++ sev ++ "\">"),
   .plain i.severity.label,
   .markup "</span></td>\n    <td>", .text i.rule,
   .markup "</td>\n    <td>", .plain i.category.label,
   .markup "</td>\n    <td class=\"location\">", .text i.location,
   .markup "</td>\n    <td class=\"message\"><strong>", .text i.title,
   .markup "</strong><br>", .text i.description,
   .markup "</td>\n    <td>", .text i.solution,
   .markup "</td>\n</tr>"]

/-- A package and its version as a row of a table. -/
def packageRow (entry : String × String) : List Piece :=
  [.markup "<tr><td>", .text entry.1, .markup "</td><td>", .text entry.2, .markup "</td></tr>"]

/-- An item of a list. -/
def listItem (s : String) : List Piece := [.markup "<li>", .text s, .markup "</li>"]

/-- How many issues of a severity there are. -/
def legendItem (a : Analysis) (s : Severity) : List Piece :=
  [.markup ("<span class=\"legend-item\"><span class=\"dot " ++ s.smallLabel ++ "\"></span> "),
   .plain (s.label ++ ": " ++ toString (a.count s)), .markup "</span>"]

/-- A workflow. -/
def workflowPieces (a : Analysis) : List Piece :=
  [.markup "<section class=\"workflow\">\n        <h2>", .text a.file,
   .markup ("</h2>\n        <div class=\"stats-grid\">\n            <div class=\"stat-card score " ++
     ratingClass a.rating ++ "\">\n                <span class=\"stat-value\">"),
   .plain (Decimal.onePlace a.healthScore),
   .markup "</span>\n                <span class=\"stat-label\">",
   .plain ("Health Score (" ++ a.rating.label ++ ")"),
   .markup "</span>
            </div>
            <div class=\"stat-card\">
                <span class=\"stat-value\">", .plain (toString a.activities.length),
   .markup "</span>
                <span class=\"stat-label\">Activities</span>
            </div>
            <div class=\"stat-card\">
                <span class=\"stat-value\">", .plain (toString a.issues.length),
   .markup "</span>
                <span class=\"stat-label\">Issues</span>
            </div>
        </div>
        <p><strong>Workflow:</strong> ", .text a.workflowName,
   .markup "</p>\n        <p><strong>Purpose:</strong> ", .text a.workflowPurpose,
   .markup "</p>\n        <p class=\"summary-text\">", .text a.summary,
   .markup "</p>\n        <div class=\"severity-legend\">\n            "] ++
  separated "\n            " (Severity.descending.map (legendItem a)) ++
  [.markup "
        </div>

        <h3>Issues</h3>
        <table>
            <thead>
                <tr>
                    <th>Severity</th>
                    <th>Rule</th>
                    <th>Category</th>
                    <th>Location</th>
                    <th>Problem</th>
                    <th>Solution</th>
                </tr>
            </thead>
            <tbody>
                "] ++
  separated "\n" ((sortedIssues a).map issueRow) ++
  [.markup "
            </tbody>
        </table>

        <h3>Recommendations</h3>
        <ul>"] ++
  a.recommendations.flatMap listItem ++
  [.markup "</ul>

        <h3>Variables</h3>
        <ul>"] ++
  a.declared.flatMap listItem ++
  [.markup "</ul>

        <h3>Dependencies</h3>
        <table>
            <thead><tr><th>Package</th><th>Version</th></tr></thead>
            <tbody>"] ++
  separated "\n" (a.dependencies.entries.map packageRow) ++
  [.markup "</tbody>
        </table>

        <h3>URLs</h3>
        <ul>"] ++
  a.urls.toList.flatMap listItem ++
  [.markup "</ul>\n    </section>"]

/-- A page. -/
def pagePieces (stamp : Stamp) (analyses : List Analysis) : List Piece :=
  [.markup "<!DOCTYPE html>
<html lang=\"en\">
<head>
    <meta charset=\"UTF-8\">
    <meta name=\"viewport\" content=\"width=device-width, initial-scale=1.0\">
    <title>", .plain title,
   .markup "</title>\n    <style>", .plain styleSheet,
   .markup "</style>
</head>
<body>
    <header>
        <h1>", .plain title,
   .markup "</h1>\n        <p class=\"timestamp\">Generated: ", .plain stamp.date,
   .markup "</p>\n    </header>\n\n    "] ++
  separated "\n    " (analyses.map workflowPieces) ++
  [.markup "

    <footer>
        <p>Generated by ", .plain (toolName ++ " v" ++ toolVersion),
   .markup "</p>
    </footer>
</body>
</html>"]

/-- A report as a web page. -/
def html (stamp : Stamp) (analyses : List Analysis) : String :=
  Piece.render (pagePieces stamp analyses)

end WorkflowLint.Report
