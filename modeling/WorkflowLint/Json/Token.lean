import WorkflowLint.Json.Numeral
import WorkflowLint.Json.Quoted

/-!
# `WorkflowLint.Json.Token`: the marks a JSON text is made of

`tokens` cuts a text into brackets, commas, colons and plain values. Where a
plain value is broken, or a character starts nothing, a token says so and is the
last one. A number or a text may be well formed and yet unusable, such as a
number that is too large; it is then a token that carries the complaint.
-/

set_option autoImplicit false

namespace WorkflowLint.Json

/-- A mark of a JSON text. -/
inductive Token where
  | openList
  | closeList
  | openObject
  | closeObject
  | comma
  | colon
  | null
  | bool (b : Bool)
  | number (n : Except Fault Number)
  | string (s : Except Fault String)
  /-- A text between quotes that goes wrong. -/
  | brokenString (t : Trouble)
  /-- Something else that goes wrong or that starts no value. -/
  | broken (t : Trouble)

/-- Whether no tokens come behind a token. -/
def Token.isLast : Token → Bool
  | brokenString _ => true
  | broken _ => true
  | _ => false

/-- Whether a character separates tokens. -/
def isSpace (c : Char) : Bool := c = ' ' || c = '\t' || c = '\n' || c = '\r'

/-- A token that is spelled as a word, if the rest of the word is there. -/
def word (token : Token) : List Char → List Char → Token
  | [], _ => token
  | _ :: _, [] => .broken (.always .endInValue)
  | w :: ws, c :: cs => if w = c then word token ws cs else .broken (.always .expectedIdent)

/-- A word's token, with the number of characters behind its first one. -/
def wordToken (token : Token) (letters : String) (rest : List Char) : Token × Nat :=
  (word token letters.toList rest, letters.length)

/-- The token of a text behind its opening quote. -/
def stringToken (rest : List Char) : Token × Nat :=
  match scan rest with
  | .ok (text, width) => (.string text, width)
  | .error t => (.brokenString t, 0)

/-- The token of a number. -/
def numberToken (s : List Char) : Token × Nat :=
  match Numeral.scan s with
  | .ok (numeral, rest) => (.number numeral.value, s.length - rest.length - 1)
  | .error t => (.broken t, 0)

/-- The token that a character starts, with the number of further characters that
belong to it. -/
def tokenAt (c : Char) (rest : List Char) : Token × Nat :=
  match c with
  | '[' => (.openList, 0)
  | ']' => (.closeList, 0)
  | '\x7b' => (.openObject, 0)
  | '\x7d' => (.closeObject, 0)
  | ',' => (.comma, 0)
  | ':' => (.colon, 0)
  | 'n' => wordToken .null "ull" rest
  | 't' => wordToken (.bool true) "rue" rest
  | 'f' => wordToken (.bool false) "alse" rest
  | '"' => stringToken rest
  | _ =>
    if c = '-' || c.isDigit then numberToken (c :: rest)
    else (.broken (.always .expectedValue), 0)

/-- The tokens of a list of characters, of which the first ones belong to a token
already read. -/
def tokensFrom : Nat → List Char → List Token
  | _, [] => []
  | n + 1, _ :: rest => tokensFrom n rest
  | 0, c :: rest =>
    if isSpace c then tokensFrom 0 rest
    else
      let (token, width) := tokenAt c rest
      if token.isLast then [token] else token :: tokensFrom width rest

/-- The tokens of a text. -/
def tokens (s : String) : List Token := tokensFrom 0 s.toList

end WorkflowLint.Json
