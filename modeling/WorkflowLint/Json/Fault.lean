/-!
# `WorkflowLint.Json.Fault`: what can be wrong with a JSON text

A text may hold values that nobody asked for. They are passed over and have to
be well formed, but nothing is made of them, so some complaints differ: a
`Trouble` says what is wrong with a place both when the value there is used and
when it is only skipped.
-/

set_option autoImplicit false

namespace WorkflowLint.Json

/-- Why a text is not JSON, or holds a value that cannot be represented. -/
inductive Fault where
  | endInValue
  | endInObject
  | endInList
  | endInString
  | expectedValue
  | expectedIdent
  | expectedColon
  | expectedCommaOrBracket
  | expectedCommaOrBrace
  | keyNotString
  | trailingComma
  | trailingCharacters
  | invalidNumber
  | numberOutOfRange
  | invalidEscape
  | endOfHexEscape
  | loneSurrogate
  | controlCharacter
  | tooDeep
deriving DecidableEq, Repr

/-- The complaint in words. -/
def Fault.message : Fault → String
  | endInValue => "EOF while parsing a value"
  | endInObject => "EOF while parsing an object"
  | endInList => "EOF while parsing a list"
  | endInString => "EOF while parsing a string"
  | expectedValue => "expected value"
  | expectedIdent => "expected ident"
  | expectedColon => "expected `:`"
  | expectedCommaOrBracket => "expected `,` or `]`"
  | expectedCommaOrBrace => "expected `,` or `\x7d`"
  | keyNotString => "key must be a string"
  | trailingComma => "trailing comma"
  | trailingCharacters => "trailing characters"
  | invalidNumber => "invalid number"
  | numberOutOfRange => "number out of range"
  | invalidEscape => "invalid escape"
  | endOfHexEscape => "unexpected end of hex escape"
  | loneSurrogate => "lone leading surrogate in hex escape"
  | controlCharacter => "control character (\\u0000-\\u001F) found while parsing a string"
  | tooDeep => "recursion limit exceeded"

/-- What is wrong with a place in a text. -/
structure Trouble where
  /-- The complaint when the value is used. -/
  used : Fault
  /-- The complaint when the value is only skipped. -/
  skipped : Fault
deriving DecidableEq, Repr

/-- A complaint that is the same either way. -/
def Trouble.always (f : Fault) : Trouble := ⟨f, f⟩

end WorkflowLint.Json
