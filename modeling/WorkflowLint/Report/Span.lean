/-!
# `WorkflowLint.Report.Span`: text with styles

A report for terminals is a list of spans, each a text with or without a style.
Without colours only the texts are shown. With colours a styled span is a start
sequence, the text and the sequence that ends all styles; where the text itself
ends all styles, the style is started again.
-/

set_option autoImplicit false

namespace WorkflowLint.Report

/-- How a span looks. -/
inductive Style where
  | bold
  | dim
  | magenta
  | red
  | yellow
  | green
  | cyan
deriving DecidableEq, Repr

/-- The codes of a style; most colours are bold. -/
def Style.codes : Style → String
  | bold => "1"
  | dim => "2"
  | magenta => "1;35"
  | red => "1;31"
  | yellow => "1;33"
  | green => "1;32"
  | cyan => "36"

/-- The sequence that starts a style. -/
def Style.start (s : Style) : List Char := '\x1b' :: '[' :: (s.codes.toList ++ ['m'])

/-- The sequence that ends all styles. -/
def resetSequence : List Char := ['\x1b', '[', '0', 'm']

/-- A text in which a style is started again wherever the text ends it. -/
def restarted (start : List Char) : List Char → List Char
  | [] => []
  | '\x1b' :: '[' :: '0' :: 'm' :: rest => resetSequence ++ start ++ restarted start rest
  | c :: rest => c :: restarted start rest

/-- A text in a style. -/
def Style.paint (s : Style) (text : List Char) : List Char :=
  s.start ++ restarted s.start text ++ resetSequence

/-- A text with or without a style. -/
structure Span where
  style? : Option Style
  text : String
deriving DecidableEq, Repr

namespace Span

/-- A text without a style. -/
def plain (text : String) : Span := ⟨none, text⟩

/-- A text in a style. -/
def styled (style : Style) (text : String) : Span := ⟨some style, text⟩

/-- What a terminal gets to see of a span. -/
def shown (colored : Bool) (s : Span) : List Char :=
  match s.style? with
  | some style => if colored then style.paint s.text.toList else s.text.toList
  | none => s.text.toList

/-- What a terminal gets to see of spans. -/
def render (colored : Bool) (spans : List Span) : String :=
  String.ofList (spans.flatMap (shown colored))

end Span

end WorkflowLint.Report
