import WorkflowLint.Decimal.Shortest

/-!
# `WorkflowLint.Decimal.Literal`: numbers that people type

A number is an optional sign and digits with at most one point, of which at
least one digit, then optionally an `e`, an optional sign and digits. Words for
infinity and for no number are understood in any case. The value is the closest
floating-point number.
-/

set_option autoImplicit false

namespace WorkflowLint.Decimal

/-- Why a text is not a number. -/
inductive LiteralError where
  | empty
  | malformed
deriving DecidableEq, Repr

/-- The complaint in words. -/
def LiteralError.message : LiteralError → String
  | empty => "cannot parse float from empty string"
  | malformed => "invalid float literal"

/-- The number that decimal digits stand for. -/
def ofDigits (digits : List Char) : Nat :=
  digits.foldl (fun n c => 10 * n + (c.toNat - '0'.toNat)) 0

/-- The sign in front of a text, and what follows it. -/
def signed : List Char → Bool × List Char
  | '-' :: rest => (true, rest)
  | '+' :: rest => (false, rest)
  | rest => (false, rest)

/-- The exponent of a number: nothing, or an `e` and digits with an optional
sign. -/
def exponent? : List Char → Option Int
  | [] => some 0
  | c :: rest =>
    let (negative, digits) := signed rest
    if c.toLower = 'e' && !digits.isEmpty && digits.all Char.isDigit then
      some (if negative then -(ofDigits digits : Int) else ofDigits digits)
    else none

/-- The closest number to `n · 10 ^ e`. Far outside the range of numbers the
power is not computed. -/
def ofScientific (n : Nat) (e : Int) : Float :=
  let size := (digitCount n : Int) + e
  if n = 0 || size < -400 then nearest 0 1
  else if 400 < size then Float.ofBits (specialField * leadingBit).toUInt64
  else nearestScaled n e

/-- The number that unsigned characters spell in digits. -/
def unsigned? (s : List Char) : Option Float := do
  let whole := s.takeWhile Char.isDigit
  let behind := s.dropWhile Char.isDigit
  let (places, behind) :=
    match behind with
    | '.' :: rest => (rest.takeWhile Char.isDigit, rest.dropWhile Char.isDigit)
    | rest => ([], rest)
  if whole.isEmpty && places.isEmpty then none
  else
    let e ← exponent? behind
    some (ofScientific (ofDigits (whole ++ places)) (e - places.length))

/-- The number that a word stands for. -/
def word? (s : List Char) : Option Float :=
  let w := String.ofList (s.map Char.toLower)
  if w = "inf" || w = "infinity" then some (1.0 / 0.0)
  else if w = "nan" then some (0.0 / 0.0)
  else none

/-- The number that a text stands for. -/
def parse (s : String) : Except LiteralError Float :=
  if s.isEmpty then .error .empty
  else
    let (negative, rest) := signed s.toList
    match (unsigned? rest <|> word? rest) with
    | some x => .ok (if negative then -x else x)
    | none => .error .malformed

end WorkflowLint.Decimal
