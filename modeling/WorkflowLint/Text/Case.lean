/-!
# `WorkflowLint.Text.Case`: texts compared without regard to case

Words of this library that are matched without regard to case are spelled with
ASCII letters. Lower-casing a text can make such a word appear only where a
character's lower case holds an ASCII letter. Outside ASCII there are two such
characters: the Kelvin sign, whose lower case is `k`, and the capital I with a
dot above, whose lower case is `i` followed by a combining dot. `lower` maps
these and the ASCII capitals, and keeps every other character: its lower case is
no ASCII letter, and neither is the character itself.
-/

set_option autoImplicit false

namespace WorkflowLint.Text

/-- The lower case of one character, as far as ASCII words can tell. -/
def lowerChar (c : Char) : List Char :=
  if c = '\u212A' then ['k']
  else if c = '\u0130' then ['i', '\u0307']
  else [c.toLower]

/-- A text in lower case, as far as ASCII words can tell. -/
def lower (s : String) : String := String.ofList (s.toList.flatMap lowerChar)

/-- Whether two texts differ at most in the case of ASCII letters. -/
def equalIgnoringAsciiCase (s t : String) : Bool :=
  s.toList.map Char.toLower == t.toList.map Char.toLower

end WorkflowLint.Text
